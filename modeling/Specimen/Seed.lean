import Specimen.Hash.Sha256
import Specimen.Numeral

/-!
# Specimen.Seed

Seeds of runs.

* `Seed.parse` — a text that writes a number is that number, any other text is a label;
* `Seed.toUInt64` — a label stands for the first eight bytes of its hash, the lowest first;
* `Seed.ofInstance` — the seed of one instance of a batch. The first instance keeps the seed of
  the batch, so a batch of one is a single run.
-/

namespace Specimen

/-- A seed. -/
inductive Seed where
  | number (value : UInt64)
  | text (label : String)
  deriving DecidableEq

namespace Seed

/-- The seed that a text writes. -/
def parse (text : String) : Seed :=
  match Numeral.unsigned64? text with
  | some value => .number value.toUInt64
  | none => .text text

/-- The bytes of a word in the opposite order. -/
private def swapBytes (word : UInt32) : UInt32 :=
  (word <<< 24) ||| ((word &&& (0xff00 : UInt32)) <<< 8) |||
    ((word >>> 8) &&& (0xff00 : UInt32)) ||| (word >>> 24)

/-- The number that a run starts from. -/
def toUInt64 : Seed → UInt64
  | .number value => value
  | .text label =>
    let digest := Hash.Sha256.digest label.toUTF8.toList
    (swapBytes digest.a).toUInt64 ||| ((swapBytes digest.b).toUInt64 <<< 32)

/-- The written form of a seed. -/
def display : Seed → String
  | .number value => toString value
  | .text label => label

/-- The seed of an instance of a batch. -/
def ofInstance (seed index : UInt64) : UInt64 :=
  if index = 0 then seed
  else ((seed ^^^ 0xcbf29ce484222325) * 0x100000001b3 ^^^ index) * 0x100000001b3

end Seed

end Specimen
