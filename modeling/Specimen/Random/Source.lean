import Specimen.Double.Basic

/-!
# Specimen.Random.Source

Sources of random words, and the plain draws from them.

Everything that is drawn is drawn from 32-bit words, one after the other, so a draw is a
function of the state of an arbitrary source: `Draw σ α` holds for every `Random.Source σ`, of
which `ChaCha` is one. A draw from nothing fails with a `Fault`, and so does one that asks for more
than a machine can hold.
-/

namespace Specimen.Random

/-- A state that yields one word after the other. -/
class Source (σ : Type) where
  /-- The next word and the state behind it. -/
  next : σ → UInt32 × σ

/-- Why nothing can be drawn. -/
inductive Fault where
  /-- No number lies in the range. -/
  | emptyRange
  /-- A probability lies outside `[0, 1]`. -/
  | notProbability
  /-- A number or a length is too large for the place it is kept in. -/
  | overflow
  /-- Every word that the source yields from now on is discarded. -/
  | endless
  deriving DecidableEq

/-- A value drawn from a source. -/
abbrev Draw (σ : Type) : Type → Type := ExceptT Fault (StateM σ)

variable {σ : Type} [Source σ]

/-- One word. -/
def word : Draw σ UInt32 := do
  let (value, state) := Source.next (← get)
  set state
  return value

/-- A 32-bit number: one word. -/
def draw32 : Draw σ Nat := return (← word).toNat

/-- A 64-bit number: two words, the low one first. -/
def draw64 : Draw σ Nat := do
  let low ← draw32
  let high ← draw32
  return high * 2 ^ 32 + low

/-- A 128-bit number: two 64-bit numbers, the low one first. -/
def draw128 : Draw σ Nat := do
  let low ← draw64
  let high ← draw64
  return high * 2 ^ 64 + low

/-- Bytes: each word gives four, the low one first, and what the last word has too much is
dropped. -/
def bytes (count : Nat) : Draw σ (List UInt8) := do
  let words ← (List.range ((count + 3) / 4)).mapM fun _ => word
  return (words.flatMap fun (w : UInt32) =>
    [w.toUInt8, (w >>> 8).toUInt8, (w >>> 16).toUInt8, (w >>> 24).toUInt8]).take count

/-- A byte: the low one of a word. -/
def byte : Draw σ UInt8 := return (← word).toUInt8

/-- A Boolean: the highest bit of a word. -/
def flip : Draw σ Bool := return 2 ^ 31 ≤ (← draw32)

/-- A double in `[0, 1)` with 53 random bits. -/
def unit : Draw σ Double := return .ofRatio false ((← draw64) / 2 ^ 11 * Double.one) (2 ^ 53)

/-- True with the given probability; certainty takes no draw. -/
def chance (probability : Double) : Draw σ Bool := do
  unless Double.zero ≤ probability ∧ probability ≤ Double.ofNat 1 do throw .notProbability
  if probability == Double.ofNat 1 then return true
  let threshold := (probability * Double.ofNat (2 ^ 64)).toUInt64
  return (← draw64) < threshold

end Specimen.Random
