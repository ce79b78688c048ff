import Specimen.Random.Range

/-!
# Specimen.Random.Shuffle

Random permutations. Position `i` is exchanged with one of the positions up to `i`, for each
`i` from the start on. The positions are read off one 32-bit draw as long as it lasts: a draw
below `m * (m + 1) * … * (m + k - 1)` serves `k` positions.
-/

namespace Specimen.Random

/-- What is left of the last draw. -/
structure Chunk where
  /-- How many positions were exchanged so far. -/
  position : Nat
  /-- The rest of the draw. -/
  value : Nat
  /-- How many positions the rest still serves. -/
  remaining : Nat

/-- Multiplies `product` by successive factors from `factor` on, as long as it stays below
`2 ^ 32`; also counts the factors taken. At most 13 fit. -/
def growBound (product factor taken : Nat) : Nat → Nat × Nat
  | 0 => (product, taken)
  | fuel + 1 =>
    if product * factor < 2 ^ 32 then growBound (product * factor) (factor + 1) (taken + 1) fuel
    else (product, taken)

variable {σ : Type} [Source σ]

/-- The position to exchange with the current one, and what is left of the draw. -/
def nextPosition (chunk : Chunk) : Draw σ (Nat × Chunk) := do
  let next := chunk.position + 1
  if next = 1 then return (0, ⟨1, 0, 0⟩)
  let chunk ← if chunk.remaining = 0 then do
      let (bound, served) := growBound next (next + 1) 1 32
      pure { chunk with value := ← below32 bound, remaining := served }
    else pure chunk
  if chunk.remaining = 1 then return (chunk.value, ⟨next, 0, 0⟩)
  return (chunk.value % next, ⟨next, chunk.value / next, chunk.remaining - 1⟩)

/-- The array with its positions from that of `chunk` on exchanged. -/
def shuffleFrom (items : Array α) (chunk : Chunk) : Nat → Draw σ (Array α)
  | 0 => return items
  | fuel + 1 => do
    let (target, next) ← nextPosition chunk
    shuffleFrom (items.swapIfInBounds chunk.position target) next fuel

/-- A random permutation of a list; fewer than two elements take no draw. -/
def shuffle (items : List α) : Draw σ (List α) := do
  if items.length < 2 then return items
  return (← shuffleFrom items.toArray ⟨0, 0, 0⟩ items.length).toList

end Specimen.Random
