import Specimen.Instance.Run

/-!
# Specimen.Instance.Text

Strings for a schema.

A `pattern` comes first, then a `format`, then the hint of the property that the string is for;
otherwise the string has no meaning. A pattern outweighs the length (`patterned`), a format and
a hint give way to it (`hinted`).
-/

namespace Specimen.Instance

variable {σ : Type} [Random.Source σ]

/-- The lengths to choose from. -/
def lengthBounds (set : Constraints) (fallback : Nat × Nat) : Except SchemaError (Nat × Nat) :=
  let least := set.minLength.getD 0
  let greatest := set.maxLength.getD (max fallback.2 least)
  if greatest < least then
    .error (.unsatisfiable set.pointer s!"minLength {least} exceeds maxLength {greatest}")
  else .ok (set.minLength.getD (min fallback.1 greatest), greatest)

/-- Whether a text has a length in `[lo, hi]`. -/
def fits (text : String) (lo hi : Nat) : Bool := lo ≤ text.length && text.length ≤ hi

/-- Draws samples until one has a length in `[lo, hi]`; without success the last one, `last` at
first, stays. -/
def drawPatterned (sample : Random.Draw σ String) (lo hi : Nat) (last : String) :
    (attempts : Nat) → Random.Draw σ (Bool × String)
  | 0 => return (false, last)
  | attempts + 1 => do
    let text ← sample
    if fits text lo hi then return (true, text) else drawPatterned sample lo hi text attempts

/-- A text for a pattern, if it can be drawn from. When no text has a length in `[lo, hi]` the last
one stays. -/
def patterned (setting : Setting σ) (set : Constraints) (pattern : String) (lo hi : Nat) :
    Run σ (Option String) := do
  match setting.library.samples? pattern setting.options.patternMaxRepeat with
  | none =>
    record .patternUnsupported set.pointer
      s!"pattern '{pattern}' cannot be sampled; plain text used"
    return none
  | some sample =>
    let (isFitting, text) ←
      Run.draw (drawPatterned sample lo hi "" setting.options.formatAttempts)
    unless isFitting do
      record .patternLengthRelaxed set.pointer
        s!"no sample of '{pattern}' within length [{lo}, {hi}]; length relaxed"
    return some text

/-- Draws texts for a hint until one has a length in `[lo, hi]`. -/
def hinted (provider : Provider σ) (hint : String) (lo hi : Nat) :
    (attempts : Nat) → Random.Draw σ (Option String)
  | 0 => return none
  | attempts + 1 => do
    match ← provider.provideTextWithin hint lo hi with
    | none => return none
    | some text => if fits text lo hi then return some text else hinted provider hint lo hi attempts

/-- A text for a format, if there is one with a length in `[lo, hi]`. -/
def formatted (setting : Setting σ) (set : Constraints) (format : String) (lo hi : Nat) :
    Run σ (Option String) := do
  if setting.provider.supports format then
    let text? ← Run.draw
      (hinted setting.provider format lo hi setting.options.formatAttempts)
    if text?.isSome then return text?
    record .formatFallback set.pointer
      s!"no '{format}' value within length [{lo}, {hi}]; plain text used"
  else
    record .formatFallback set.pointer s!"format '{format}' is not recognized; plain text used"
  return none

/-- A text with a meaning, if the schema or the name of the property suggests one. -/
def meaningful (setting : Setting σ) (set : Constraints) (property : Option String)
    (lo hi : Nat) : Run σ (Option String) :=
  match set.pattern, set.format with
  | some pattern, _ => patterned setting set pattern lo hi
  | none, some format => formatted setting set format lo hi
  | none, none =>
    match property.bind setting.provider.propertyHint with
    | some hint =>
      Run.draw (hinted setting.provider hint lo hi setting.options.formatAttempts)
    | none => return none

/-- A string for a schema. -/
def string (setting : Setting σ) (set : Constraints) (property : Option String) :
    Run σ String := do
  let (lo, hi) ← Run.check (lengthBounds set setting.options.stringLength)
  match ← meaningful setting set property lo hi with
  | some text => return text
  | none => Run.draw (PlainText.draw lo hi)

end Specimen.Instance
