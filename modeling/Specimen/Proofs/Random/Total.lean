import Specimen.Proofs.Random.Draws

/-!
# Specimen.Proofs.Random.Total

Which draws succeed, whatever the random source yields: those from a range with at least one number
in it (`total_index`, `total_size`, `total_integer` and their companions) and those with a
probability in `[0, 1]` (`total_chance`). A permutation always succeeds (`total_shuffle`). A draw
that discards words fails only where it discards all of them (`failsOnly_evenly`), and lengths and room
are there up to their limits.
-/

namespace Specimen.Random

variable {σ α : Type}

/-! ### Plain draws -/

section Plain

variable [Source σ]

/-- Every source has a next word. -/
theorem total_word : Total (word : Draw σ UInt32) := by
  intro state error h
  cases h

theorem total_draw32 : Total (draw32 : Draw σ Nat) :=
  total_word.bind fun _ => failsOnly_pure _

theorem total_draw64 : Total (draw64 : Draw σ Nat) :=
  total_draw32.bind fun _ => total_draw32.bind fun _ => failsOnly_pure _

theorem total_draw128 : Total (draw128 : Draw σ Nat) :=
  total_draw64.bind fun _ => total_draw64.bind fun _ => failsOnly_pure _

theorem total_bytes (count : Nat) : Total (bytes count : Draw σ (List UInt8)) :=
  (FailsOnly.mapM fun _ => total_word).bind fun _ => failsOnly_pure _

theorem total_byte : Total (byte : Draw σ UInt8) :=
  total_word.bind fun _ => failsOnly_pure _

theorem total_flip : Total (flip : Draw σ Bool) :=
  total_draw32.bind fun _ => failsOnly_pure _

theorem total_unit : Total (unit : Draw σ Double) :=
  total_draw64.bind fun _ => failsOnly_pure _

/-- A draw with a probability in `[0, 1]`. -/
theorem total_chance {probability : Double}
    (h : Double.zero ≤ probability ∧ probability ≤ Double.ofNat 1) :
    Total (chance probability : Draw σ Bool) := by
  unfold chance
  rw [if_pos h]
  split
  · exact failsOnly_pure _
  · exact total_draw64.bind fun _ => failsOnly_pure _

/-- A draw fails only with what is no probability. -/
theorem failsOnly_chance (probability : Double) :
    FailsOnly (chance probability : Draw σ Bool) fun fault =>
      fault = .notProbability ∧ ¬(Double.zero ≤ probability ∧ probability ≤ Double.ofNat 1) := by
  by_cases hp : Double.zero ≤ probability ∧ probability ≤ Double.ofNat 1
  · exact (total_chance hp).failsOnly
  · unfold chance
    rw [if_neg hp]
    refine (failsOnly_throw ⟨rfl, hp⟩).bind ?_
    intro _
    split
    · exact failsOnly_pure _
    · exact total_draw64.failsOnly.bind fun _ => failsOnly_pure _

/-- A draw with even odds. -/
theorem total_coin : Total (chance (.ofDecimal false 5 (-1)) : Draw σ Bool) :=
  total_chance (by decide +kernel)

end Plain

/-! ### Ranges -/

/-- One more word at most corrects the first one, so there is no loop. -/
theorem total_below (bits count : Nat) {draw : Draw σ Nat} (hd : Total draw) :
    Total (below bits draw count) := by
  unfold below
  refine hd.bind ?_
  intro low
  split
  · exact failsOnly_pure _
  · dsimp only
    split
    · exact hd.bind fun _ => failsOnly_pure _
    · exact failsOnly_pure _

/-- A draw from a range that is not empty succeeds; only an empty range is a fault. -/
theorem total_within {count : Nat} {draw : Draw σ α} (hc : 0 < count) (hd : Total draw) :
    Total (within count draw) := by
  unfold within
  rw [if_neg (Nat.ne_zero_of_lt hc)]
  exact hd

/-- A signed range is drawn from as the unsigned range of the same length. -/
theorem total_signed {bits : Nat} {draw : Draw σ Nat} {lo hi : Int} (hd : Total draw)
    (h : lo ≤ hi) : Total (signed bits draw lo hi) := by
  have hcount : 0 < (hi - lo + 1).toNat := by omega
  unfold signed
  dsimp only
  split
  · exact hd.bind fun _ => failsOnly_pure _
  · exact (total_within hcount (total_below bits _ hd)).bind fun _ => failsOnly_pure _

variable [Source σ]

theorem total_below32 {count : Nat} (hc : 0 < count) : Total (below32 count : Draw σ Nat) :=
  total_within hc (total_below 32 count total_draw32)

theorem total_below64 {count : Nat} (hc : 0 < count) : Total (below64 count : Draw σ Nat) :=
  total_within hc (total_below 64 count total_draw64)

theorem total_between32 {lo hi : Nat} (h : lo ≤ hi) : Total (between32 lo hi : Draw σ Nat) :=
  (total_below32 (by omega)).bind fun _ => failsOnly_pure _

theorem total_integer {lo hi : Int} (h : lo ≤ hi) : Total (integer lo hi : Draw σ Int) :=
  total_signed total_draw64 h

theorem total_wideInteger {lo hi : Int} (h : lo ≤ hi) :
    Total (wideInteger lo hi : Draw σ Int) :=
  total_signed total_draw128 h

/-- Small ranges are drawn from words of 32 bits, greater ones from words of 64 bits. -/
theorem total_sized {bound count : Nat} (hc : 0 < count) :
    Total (sized bound count : Draw σ Nat) := by
  unfold sized
  split
  · exact total_below32 hc
  · exact total_below64 hc

theorem total_index {length : Nat} (h : 0 < length) : Total (index length : Draw σ Nat) :=
  total_sized h

theorem total_size {lo hi : Nat} (h : lo ≤ hi) : Total (size lo hi : Draw σ Nat) :=
  (total_sized (by omega)).bind fun _ => failsOnly_pure _

/-- The end of the range does not belong to it, so the range has to have a number in it. -/
theorem total_sizeBefore {lo stop : Nat} (h : lo < stop) :
    Total (sizeBefore lo stop : Draw σ Nat) :=
  (total_sized (by omega)).bind fun _ => failsOnly_pure _

theorem total_choose [Inhabited α] {items : Array α} (h : 0 < items.size) :
    Total (choose items : Draw σ α) :=
  (total_index h).bind fun _ => failsOnly_pure _

/-! ### Discarded words -/

/-- The state behind some words. -/
def behind : (count : Nat) → (state : σ) → σ
  | 0, state => state
  | count + 1, state => behind count (Source.next state).2

/-- A source yields nothing but words that are not accepted. -/
def Search.Discards (search : Search σ) : Prop :=
  ∀ count, search.accept (Source.next (behind count search.state)).1 = false

/-- A search without an end has discarded every word: by induction on the number of words seen. -/
theorem Search.discards_of_first? {search : Search σ} (h : search.first? = none) :
    search.Discards := by
  intro count
  induction count generalizing search with
  | zero =>
    rw [first?] at h
    split at h
    · cases h
    · rename_i hfirst
      exact eq_false_of_ne_true hfirst
  | succ count ih =>
    rw [first?] at h
    split at h
    · cases h
    · exact ih h

/-- Where a word is accepted sooner or later, one is found. -/
theorem Search.not_discards_of_first? {search : Search σ} {found : UInt32 × σ}
    (h : search.first? = some found) : ¬search.Discards := by
  refine first?.partial_correctness (fun search _ => ¬search.Discards) ?_ _ _ h
  intro first? ih search found hfound hdiscards
  dsimp only at hfound
  split at hfound
  · rename_i hfirst
    exact Bool.false_ne_true ((hdiscards 0).symm.trans hfirst)
  · exact ih _ _ hfound fun count => hdiscards (count + 1)

/-- A search goes on for ever exactly if each word of the source is discarded. -/
theorem Search.first?_eq_none_iff {search : Search σ} :
    search.first? = none ↔ search.Discards := by
  refine ⟨discards_of_first?, fun hdiscards => ?_⟩
  cases hfound : search.first? with
  | none => rfl
  | some found => exact absurd hdiscards (not_discards_of_first? hfound)

/-- From some state on, nothing but words to discard is yielded. -/
def Stalls (σ : Type) [Source σ] (fault : Fault) : Prop :=
  fault = .endless ∧ ∃ count, ∃ state : σ, (Search.mk (isUnbiased count) state).Discards

/-- An even draw fails only if its source never gives a word that is accepted. -/
theorem failsOnly_evenly (lo hi : Nat) : FailsOnly (evenly lo hi : Draw σ Nat) (Stalls σ) := by
  refine FailsOnly.bind (fun state fault hfault => ?_) fun _ => failsOnly_pure _
  unfold evenlyBelow at hfault
  split at hfault
  · cases hfault
  · rename_i hnone
    cases hfault
    exact ⟨rfl, _, state, Search.first?_eq_none_iff.mp hnone⟩

/-! ### Lengths -/

omit [Source σ] in
/-- The greatest size has no size after it. -/
theorem sizeAfter_of_le {length : Nat} (h : maxSize ≤ length) :
    (sizeAfter length : Draw σ Nat) = throw .overflow := if_pos h

omit [Source σ] in
/-- Any other size is followed by the next one. -/
theorem sizeAfter_of_lt {length : Nat} (h : length < maxSize) :
    (sizeAfter length : Draw σ Nat) = pure (length + 1) := if_neg (Nat.not_le.mpr h)

omit [Source σ] in
/-- Room for a text can be had up to a limit. -/
theorem reserve_of_le {size : Nat} (h : size ≤ maxRoom) : (reserve size : Draw σ Unit) = pure () :=
  if_neg (Nat.not_lt.mpr h)

omit [Source σ] in
/-- Beyond the limit, reserving room is a fault. -/
theorem reserve_of_lt {size : Nat} (h : maxRoom < size) :
    (reserve size : Draw σ Unit) = throw .overflow := if_pos h

/-! ### Permutations -/

/-- A bound on positions stays positive as it grows. -/
theorem growBound_pos (product factor taken fuel : Nat) (hp : 0 < product) (hf : 0 < factor) :
    0 < (growBound product factor taken fuel).1 := by
  induction fuel generalizing product factor taken with
  | zero => exact hp
  | succ fuel ih =>
    unfold growBound
    split
    · exact ih _ _ _ (Nat.mul_pos hp hf) (Nat.succ_pos factor)
    · exact hp

/-- A position is drawn below a bound that is positive. -/
theorem total_nextPosition (chunk : Chunk) :
    Total (nextPosition chunk : Draw σ (Nat × Chunk)) := by
  unfold nextPosition
  dsimp only
  split
  · exact failsOnly_pure _
  · have hbound := growBound_pos (chunk.position + 1) (chunk.position + 1 + 1) 1 32
      (Nat.succ_pos _) (Nat.succ_pos _)
    split
    · refine (total_below32 hbound).bind ?_
      intro value
      refine FailsOnly.bind (failsOnly_pure _) ?_
      intro next
      split
      · exact failsOnly_pure _
      · exact failsOnly_pure _
    · refine FailsOnly.bind (failsOnly_pure _) ?_
      intro next
      split
      · exact failsOnly_pure _
      · exact failsOnly_pure _

/-- Each position is drawn from those up to the element in turn, so no range is empty. -/
theorem total_shuffle (items : List α) : Total (shuffle items : Draw σ (List α)) := by
  have hfrom (array : Array α) (chunk : Chunk) (fuel : Nat) :
      Total (shuffleFrom array chunk fuel : Draw σ (Array α)) := by
    induction fuel generalizing array chunk with
    | zero => exact failsOnly_pure _
    | succ fuel ih =>
      unfold shuffleFrom
      exact (total_nextPosition chunk).bind fun _ => ih _ _
  unfold shuffle
  split
  · exact failsOnly_pure _
  · exact (hfrom _ _ _).bind fun _ => failsOnly_pure _

end Specimen.Random
