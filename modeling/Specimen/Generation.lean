import Specimen.Instance.Value
import Specimen.Provider.Bundled
import Specimen.Random.ChaCha
import Specimen.Seed

/-!
# Specimen.Generation

Example values for a schema.

* `Generation.Session` — validated options, a source of realistic values and a library of regular
  expressions;
* `Session.generate` — one value, with a report; the seed decides on everything;
* `Session.generateMany` — several values, each from a seed of its own.
-/

namespace Specimen.Generation

open Instance (Failure Setting Progress)

/-- What runs have in common. -/
structure Session where
  options : Options
  provider : Provider Random.ChaCha
  /-- The library of regular expressions. -/
  library : Pattern.Library Random.ChaCha
  valid : options.validate = .ok ()

/-- A session with a given source of realistic values, and the bundled library. -/
def Session.withProvider (options : Options) (provider : Provider Random.ChaCha) :
    Except OptionsError Session :=
  match valid : options.validate with
  | .ok () => .ok ⟨options, provider, .bundled, valid⟩
  | .error error => .error error

/-- A session with the bundled source of realistic values. -/
def Session.ofOptions (options : Options) : Except OptionsError Session :=
  Session.withProvider options (Provider.bundled ((Locale.parse? options.locale).getD default))

/-- The start of a run at a schema, which counts as entered. -/
def start (source : σ) (node : Pointer) (seed : UInt64) : Progress σ :=
  ⟨source, [node], 0, Report.start seed⟩

/-- How a run from any random source ends, whether or not there is a value. -/
def finish {σ : Type} [Random.Source σ] (setting : Setting σ) (source : σ) (node : Pointer)
    (seed : UInt64) : Except Failure Json × Progress σ :=
  Instance.value setting setting.options.maxDepth node none (start source node seed)

/-- A run from any random source. -/
def run {σ : Type} [Random.Source σ] (setting : Setting σ) (source : σ) (node : Pointer)
    (seed : UInt64) : Except Failure (Json × Report) :=
  let (result, progress) := finish setting source node seed
  result.map (·, progress.report)

namespace Session

variable (session : Session) (document : Document) (node : Pointer)

/-- A value for a schema of a document, from a seed. -/
def generate (seed : UInt64) : Except Failure (Json × Report) :=
  run ⟨document, session.options, session.provider, session.library⟩
    (Random.ChaCha.ofSeed seed) node seed

/-- The values of the instances from `index` on, as many as asked for, behind the values so far. -/
def generateFrom (base : UInt64) (values : List Json) (report : Report) (index : Nat) :
    (count : Nat) → Except Failure (List Json × Report)
  | 0 => return (values.reverse, report)
  | count + 1 => do
    let (value, other) ←
      session.generate document node (Seed.ofInstance base index.toUInt64)
    generateFrom base (value :: values) (report.absorb other) (index + 1) count

/-- Several values for a schema, each from its own seed, with one report. -/
def generateMany (base : UInt64) (count : Nat) : Except Failure (List Json × Report) :=
  session.generateFrom document node base [] (Report.start base) 0 count

end Session

end Specimen.Generation
