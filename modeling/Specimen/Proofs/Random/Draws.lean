import Specimen.Proofs.Outcome
import Specimen.Random.Shuffle

/-!
# Specimen.Proofs.Random.Draws

What is drawn, whatever the random source yields.

* `yields_index` — a position in a sequence is below its length. The second draw of
  `Random.below` carries into the first only where there is room for that (`high_succ_lt`);
* `yields_integer` — a number from a range lies in it, also when the range holds all 64-bit integers;
  `yields_size`, `yields_evenly` — a size lies between its bounds;
* `yields_bytes_length` — there are as many bytes as asked for;
* `yields_shuffle` — a random permutation is a permutation.
-/

namespace Specimen.Random

variable {σ α : Type}

/-! ### Numbers below a limit -/

/-- The high part of a scaled draw is below the limit. -/
theorem high_lt {first count bound : Nat} (hf : first < bound) (hc : 0 < count) :
    first * count / bound < count :=
  Nat.div_lt_of_lt_mul (Nat.mul_lt_mul_of_pos_right hf hc)

/-- Where the low part of a scaled draw is so large that a second draw may carry, the high part is
not the last number below the limit. -/
theorem high_succ_lt {first count bound : Nat} (hf : first < bound)
    (hlow : bound - count < first * count % bound) : first * count / bound + 1 < count := by
  have hsplit := Nat.div_add_mod (first * count) bound
  have hmod := Nat.mod_lt (first * count) (Nat.zero_lt_of_lt hf)
  -- Otherwise the high part times `bound`, with the low part, would exceed `first * count`.
  generalize first * count / bound = high at hsplit ⊢
  generalize first * count % bound = low at hsplit hmod hlow
  refine Decidable.byContradiction fun hge => ?_
  have hscaled : (first + 1) * count ≤ bound * count := Nat.mul_le_mul_right count hf
  rw [Nat.add_mul, Nat.one_mul] at hscaled
  have hhigh : bound * count ≤ bound * (high + 1) := Nat.mul_le_mul_left bound (by omega)
  rw [Nat.mul_add, Nat.mul_one] at hhigh
  omega

theorem yields_below {bits count : Nat} {draw : Draw σ Nat} (hd : Yields draw (· < 2 ^ bits))
    (hc : 0 < count) : Yields (below bits draw count) (· < count) := by
  unfold below
  refine hd.bind fun first => ?_
  split
  · rename_i hfull
    exact ends_pure fun hfirst => hfull ▸ hfirst
  · dsimp only
    split
    · -- The second draw decides on the carry; either way the result is below the limit.
      rename_i hlow
      refine hd.andThen fun second => ends_pure fun hfirst => ?_
      split
      · exact high_succ_lt hfirst hlow
      · exact high_lt hfirst hc
    · exact ends_pure fun hfirst => high_lt hfirst hc

theorem yields_within {count : Nat} {draw : Draw σ α} {result : α → Prop}
    (hd : 0 < count → Yields draw result) : Yields (within count draw) result := by
  unfold within
  split
  · exact ends_throw
  · exact hd (by omega)

variable [Source σ]

theorem yields_word : Yields (word : Draw σ UInt32) fun _ => True :=
  fun _ => ⟨fun h => h, fun _ _ => .inr trivial⟩

theorem yields_draw32 : Yields (draw32 : Draw σ Nat) (· < 2 ^ 32) :=
  yields_word.bind fun value => ends_pure fun _ => value.toNat_lt

theorem yields_draw64 : Yields (draw64 : Draw σ Nat) (· < 2 ^ 64) := by
  refine yields_draw32.bind fun low => yields_draw32.bind fun high => ends_pure fun hhigh hlow => ?_
  omega

theorem yields_draw128 : Yields (draw128 : Draw σ Nat) (· < 2 ^ 128) := by
  refine yields_draw64.bind fun low => yields_draw64.bind fun high => ends_pure fun hhigh hlow => ?_
  omega

theorem yields_sized (bound count : Nat) : Yields (sized bound count : Draw σ Nat) (· < count) := by
  unfold sized
  split
  · exact yields_within (yields_below yields_draw32)
  · exact yields_within (yields_below yields_draw64)

/-- A position in a sequence. -/
theorem yields_index (length : Nat) : Yields (index length : Draw σ Nat) (· < length) :=
  yields_sized length length

/-- An element of a sequence. -/
theorem yields_choose [Inhabited α] (items : Array α) :
    Yields (choose items : Draw σ α) (· ∈ items) := by
  refine (yields_index items.size).bind fun index => ends_pure fun hindex => ?_
  rw [Array.getD_eq_getD_getElem?, Array.getElem?_eq_getElem hindex]
  exact Array.getElem_mem hindex

/-- A length in a range. -/
theorem yields_size (lo hi : Nat) :
    Yields (size lo hi : Draw σ Nat) fun length => lo ≤ length ∧ length ≤ hi :=
  (yields_sized hi (hi + 1 - lo)).bind fun offset => ends_pure fun hoffset => by omega

/-- A length in a range without its end. -/
theorem yields_sizeBefore (lo stop : Nat) :
    Yields (sizeBefore lo stop : Draw σ Nat) fun length => lo ≤ length ∧ length < stop :=
  (yields_sized stop (stop - lo)).bind fun offset => ends_pure fun hoffset => by omega

/-- There are as many bytes as asked for. -/
theorem yields_bytes_length (count : Nat) :
    Yields (bytes count : Draw σ (List UInt8)) (·.length = count) := by
  refine (yields_length_mapM _ _).bind fun words => ends_pure fun hwords => ?_
  rw [List.length_take, List.length_flatMap]
  simp only [List.length_cons, List.length_nil, List.map_const', List.sum_replicate_nat, hwords,
    List.length_range]
  omega

/-- A number in a range; where the bounds are not in order, it is the lower one. -/
theorem yields_evenly (lo hi : Nat) :
    Yields (evenly lo hi : Draw σ Nat) fun number => lo ≤ number ∧ number - lo ≤ hi - lo := by
  have hbelow (count : Nat) (hc : 0 < count) :
      Yields (evenlyBelow count : Draw σ Nat) (· < count) := by
    refine fun state => ⟨fun h => h, fun number hnumber => .inr ?_⟩
    unfold evenlyBelow at hnumber
    split at hnumber
    · rename_i value _ _
      cases hnumber
      exact high_lt value.toNat_lt hc
    · cases hnumber
  refine (hbelow _ (Nat.succ_pos _)).bind fun offset => ends_pure fun hoffset => ?_
  omega

omit [Source σ] in
theorem yields_sizeAfter (length : Nat) : Yields (sizeAfter length : Draw σ Nat) (· = length + 1) := by
  unfold sizeAfter
  split
  · exact ends_throw
  · exact ends_pure rfl

omit [Source σ] in
/-- A number in a range whose ends have `bits + 1` bits in two's complement. -/
theorem yields_signed {bits : Nat} {draw : Draw σ Nat} {lo hi : Int}
    (hd : Yields draw (· < 2 ^ (bits + 1))) (hlo : -2 ^ bits ≤ lo) (hhi : hi < 2 ^ bits) :
    Yields (signed (bits + 1) draw lo hi) fun value => lo ≤ value ∧ value ≤ hi := by
  unfold signed
  dsimp only
  split
  · -- The range is full, so every draw is in it.
    rename_i hfull
    have hpow : ((2 ^ (bits + 1) : Nat) : Int) = 2 * 2 ^ bits := by
      rw [Nat.pow_succ, Nat.mul_comm]
      push_cast
      rfl
    have hcount : hi - lo + 1 = 2 * 2 ^ bits := by
      have hpos := Nat.two_pow_pos (bits + 1)
      rw [← hpow, ← hfull, Int.toNat_of_nonneg (by omega)]
    refine hd.bind fun number => ends_pure fun _ => ?_
    have hleast := Int.le_bmod (x := (number : Int)) (Nat.two_pow_pos (bits + 1))
    have hgreatest := Int.bmod_lt (x := (number : Int)) (Nat.two_pow_pos (bits + 1))
    omega
  · refine (yields_within fun hc => yields_below hd hc).bind fun offset => ends_pure fun hoffset => ?_
    omega

theorem yields_integer {lo hi : Int} (hlo : -2 ^ 63 ≤ lo) (hhi : hi < 2 ^ 63) :
    Yields (integer lo hi : Draw σ Int) fun value => lo ≤ value ∧ value ≤ hi :=
  yields_signed yields_draw64 hlo hhi

theorem yields_wideInteger {lo hi : Int} (hlo : -2 ^ 127 ≤ lo) (hhi : hi < 2 ^ 127) :
    Yields (wideInteger lo hi : Draw σ Int) fun value => lo ≤ value ∧ value ≤ hi :=
  yields_signed yields_draw128 hlo hhi

/-! ### Permutations -/

theorem swapIfInBounds_perm (items : Array α) (i j : Nat) :
    (items.swapIfInBounds i j).Perm items := by
  rw [Array.swapIfInBounds_def]
  split
  · split
    · exact Array.swap_perm _ _
    · exact .rfl
  · exact .rfl

theorem yields_nextPosition (chunk : Chunk) :
    Yields (nextPosition chunk : Draw σ (Nat × Chunk)) fun _ => True :=
  fun _ => ⟨fun h => h, fun _ _ => .inr trivial⟩

theorem yields_shuffleFrom (items : Array α) (chunk : Chunk) (count : Nat) :
    Yields (shuffleFrom items chunk count : Draw σ (Array α)) (·.Perm items) := by
  induction count generalizing items chunk with
  | zero => exact ends_pure .rfl
  | succ count ih =>
    refine (yields_nextPosition chunk).andThen fun (target, next) => ?_
    refine (ih (items.swapIfInBounds chunk.position target) next).mono fun shuffled h => ?_
    exact h.trans (swapIfInBounds_perm items chunk.position target)

/-- A random permutation of a list. -/
theorem yields_shuffle (items : List α) :
    Yields (shuffle items : Draw σ (List α)) (·.Perm items) := by
  unfold shuffle
  split
  · exact ends_pure (.refl items)
  · refine (yields_shuffleFrom items.toArray ⟨0, 0, 0⟩ items.length).bind fun shuffled => ?_
    exact ends_pure fun h => h.toList

/-! ### Sources for examples -/

/-- A source that yields the largest word again and again. -/
structure Highest where

instance : Source Highest := ⟨fun source => (0xFFFFFFFF, source)⟩

/-- A source that yields some words, and zeros after them. -/
structure Scripted where
  words : List UInt32

instance : Source Scripted := ⟨fun source => (source.words.headD 0, ⟨source.words.tail⟩)⟩

end Specimen.Random
