import Specimen.Random.Source

/-!
# Specimen.Random.Range

Numbers drawn from a range.

* `Random.below` — scales a draw to the range and corrects the remaining bias with at most one
  further draw;
* `Random.evenly` — scales a draw to the range and discards the draws that would be biased;
* `Random.index`, `Random.size`, `Random.integer` and their companions — the ranges in use, each
  with the width of its draws;
* `Random.sizeAfter`, `Random.reserve` — the limits for lengths and for room.
-/

namespace Specimen.Random

/-- A number below `count`, from draws of `bits` bits. The high part of `draw * count` is the
answer; a low part close to the top may carry into it, which a second draw decides. -/
def below [Monad m] (bits : Nat) (draw : m Nat) (count : Nat) : m Nat := do
  let first ← draw
  if count = 2 ^ bits then return first
  let high := first * count / 2 ^ bits
  let low := first * count % 2 ^ bits
  if 2 ^ bits - count < low then
    let second ← draw
    let carry := second * count / 2 ^ bits
    return if 2 ^ bits ≤ low + carry then high + 1 else high
  return high

variable {σ : Type} [Source σ]

/-- A draw from a range of `count` numbers, of which there has to be one. -/
def within (count : Nat) (draw : Draw σ α) : Draw σ α :=
  if count = 0 then throw .emptyRange else draw

/-- A number below `count`, from 32-bit draws. -/
def below32 (count : Nat) : Draw σ Nat := within count (below 32 draw32 count)

/-- A number below `count`, from 64-bit draws. -/
def below64 (count : Nat) : Draw σ Nat := within count (below 64 draw64 count)

/-- A number in `[lo, hi]`, from 32-bit draws. -/
def between32 (lo hi : Nat) : Draw σ Nat := return lo + (← below32 (hi + 1 - lo))

/-- A signed number in `[lo, hi]`, from draws of `bits` bits. When the range has `2 ^ bits` numbers,
a draw is one of them as it stands, in two's complement. -/
def signed (bits : Nat) (draw : Draw σ Nat) (lo hi : Int) : Draw σ Int := do
  let count := (hi - lo + 1).toNat
  if count = 2 ^ bits then return Int.bmod (← draw) (2 ^ bits)
  return lo + (← within count (below bits draw count))

/-- A signed 64-bit number in `[lo, hi]`. -/
def integer (lo hi : Int) : Draw σ Int := signed 64 draw64 lo hi

/-- A signed 128-bit number in `[lo, hi]`. -/
def wideInteger (lo hi : Int) : Draw σ Int := signed 128 draw128 lo hi

/-- A number below `count`; the draws have 64 bits when the limit as given, `bound`, does not
fit into 32. -/
def sized (bound count : Nat) : Draw σ Nat :=
  if bound < 2 ^ 32 then below32 count else below64 count

/-- A position in a sequence of the given length. -/
def index (length : Nat) : Draw σ Nat := sized length length

/-- A length in `[lo, hi]`. -/
def size (lo hi : Nat) : Draw σ Nat := return lo + (← sized hi (hi + 1 - lo))

/-- A length in `[lo, stop)`. -/
def sizeBefore (lo stop : Nat) : Draw σ Nat := return lo + (← sized stop (stop - lo))

/-- An element of a sequence. -/
def choose [Inhabited α] (items : Array α) : Draw σ α :=
  return items.getD (← index items.size) default

/-- A search for a word among those that a source yields from a state on. -/
structure Search (σ : Type) where
  accept : UInt32 → Bool
  state : σ

/-- The first word that is accepted, and the state behind it. Nothing bounds how many are
discarded before. -/
def Search.first? (search : Search σ) : Option (UInt32 × σ) :=
  let drawn := Source.next search.state
  if search.accept drawn.1 then some drawn
  else { search with state := drawn.2 } |>.first?
partial_fixpoint

/-- Whether a 32-bit draw is as likely as any other when it is scaled to the numbers below
`count`. -/
def isUnbiased (count : Nat) (value : UInt32) : Bool :=
  (2 ^ 32 - count) % count ≤ value.toNat * count % 2 ^ 32

/-- A number below `count`, from 32-bit draws, of which the biased ones are discarded. -/
def evenlyBelow (count : Nat) : Draw σ Nat := fun state =>
  match Search.first? ⟨isUnbiased count, state⟩ with
  | some (value, state) => (.ok (value.toNat * count / 2 ^ 32), state)
  | none => (.error .endless, state)

/-- A number in `[lo, hi]`, every one with the same probability. -/
def evenly (lo hi : Nat) : Draw σ Nat := return lo + (← evenlyBelow (hi - lo + 1))

/-! ### Lengths -/

/-- The largest length. -/
def maxSize : Nat := 2 ^ 64 - 1

/-- The largest number of bytes that room can be made for. -/
def maxRoom : Nat := 2 ^ 63 - 1

/-- The length behind another one, which the largest does not have. -/
def sizeAfter (length : Nat) : Draw σ Nat :=
  if maxSize ≤ length then throw .overflow else return length + 1

/-- Makes room for a number of bytes. -/
def reserve (size : Nat) : Draw σ Unit :=
  if maxRoom < size then throw .overflow else pure ()

end Specimen.Random
