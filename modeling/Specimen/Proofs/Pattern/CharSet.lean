import Mathlib.Algebra.GroupWithZero.Nat
import Specimen.Pattern.CharSet

/-!
# Specimen.Proofs.Pattern.CharSet

Which characters a set has (`CharSet.contains_ofRanges`, `CharSet.contains_union` and their
companions), and that a position below its size is that of one of its characters
(`CharSet.exists_get?`).

Ranges are joined in the order of their first code points. A range that is added begins behind the
beginnings of all the others, so that no code point is lost or gained (`inRanges_append`).
-/

namespace Specimen.Pattern.CharSet

variable {ranges : List (Nat × Nat)} {range : Nat × Nat} {code index : Nat} {c d : Char}

/-- A code point lies in one of some ranges. -/
def InRanges (ranges : List (Nat × Nat)) (code : Nat) : Prop :=
  ∃ range ∈ ranges, range.1 ≤ code ∧ code ≤ range.2

theorem not_inRanges_nil : ¬InRanges [] code := by
  rintro ⟨range, hrange, -⟩
  cases hrange

theorem inRanges_cons :
    InRanges (range :: ranges) code ↔ (range.1 ≤ code ∧ code ≤ range.2) ∨ InRanges ranges code := by
  simp only [InRanges, List.mem_cons, or_and_right, exists_or, exists_eq_left]

theorem inRanges_append_list {more : List (Nat × Nat)} :
    InRanges (ranges ++ more) code ↔ InRanges ranges code ∨ InRanges more code := by
  simp only [InRanges, List.mem_append, or_and_right, exists_or]

/-! ### Joining -/

/-- A range that begins behind the beginning of the last one adds its code points. -/
theorem inRanges_append (h : ∀ other ∈ ranges, other.1 ≤ range.1) :
    InRanges (append ranges range) code ↔
      InRanges ranges code ∨ (range.1 ≤ code ∧ code ≤ range.2) := by
  unfold append
  split
  · rename_i first last rest
    have hfirst : first ≤ range.1 := h _ List.mem_cons_self
    split
    · have hjoined : (first ≤ code ∧ code ≤ max last range.2) ↔
          (first ≤ code ∧ code ≤ last) ∨ (range.1 ≤ code ∧ code ≤ range.2) := by omega
      simp only [inRanges_cons]
      rw [hjoined, or_right_comm]
    · simp only [inRanges_cons]
      exact or_comm
  · simp only [inRanges_cons]
    exact or_comm

theorem fst_of_mem_append {other : Nat × Nat} (h : other ∈ append ranges range) :
    other.1 = range.1 ∨ ∃ r ∈ ranges, r.1 = other.1 := by
  unfold append at h
  split at h
  · rename_i first last rest
    split at h
    · rcases List.mem_cons.mp h with rfl | hrest
      · exact .inr ⟨_, List.mem_cons_self, rfl⟩
      · exact .inr ⟨other, List.mem_cons_of_mem _ hrest, rfl⟩
    · rcases List.mem_cons.mp h with rfl | hrest
      · exact .inl rfl
      · exact .inr ⟨other, hrest, rfl⟩
  · obtain rfl := List.mem_singleton.mp h
    exact .inl rfl

theorem inRanges_foldl {sorted joined : List (Nat × Nat)}
    (hs : sorted.Pairwise fun a b => a.1 ≤ b.1) (hj : ∀ a ∈ joined, ∀ b ∈ sorted, a.1 ≤ b.1) :
    InRanges (sorted.foldl append joined) code ↔ InRanges joined code ∨ InRanges sorted code := by
  induction sorted generalizing joined with
  | nil => simp only [List.foldl_nil, not_inRanges_nil, or_false]
  | cons range rest ih =>
    obtain ⟨hrange, hrest⟩ := List.pairwise_cons.mp hs
    have hbehind : ∀ a ∈ append joined range, ∀ b ∈ rest, a.1 ≤ b.1 := by
      intro a ha b hb
      rcases fst_of_mem_append ha with heq | ⟨r, hr, heq⟩
      · exact heq ▸ hrange b hb
      · exact heq ▸ hj r hr b (List.mem_cons_of_mem range hb)
    rw [List.foldl_cons, ih hrest hbehind,
      inRanges_append fun other hother => hj other hother range List.mem_cons_self,
      inRanges_cons, or_assoc]

theorem inRanges_congr {other : List (Nat × Nat)} (h : ∀ r, r ∈ ranges ↔ r ∈ other) :
    InRanges ranges code ↔ InRanges other code := by
  simp only [InRanges, h]

theorem inRanges_join : InRanges (join ranges) code ↔ InRanges ranges code := by
  have hsorted : (ranges.mergeSort fun a b => a.1 ≤ b.1).Pairwise fun a b => a.1 ≤ b.1 := by
    refine (List.pairwise_mergeSort (fun a b c hab hbc => ?_) (fun a b => ?_) ranges).imp
      of_decide_eq_true
    · exact decide_eq_true (Nat.le_trans (of_decide_eq_true hab) (of_decide_eq_true hbc))
    · rw [Bool.or_eq_true, decide_eq_true_iff, decide_eq_true_iff]
      exact Nat.le_total a.1 b.1
  unfold join
  rw [inRanges_congr fun r => List.mem_reverse,
    inRanges_foldl hsorted fun a ha => absurd ha List.not_mem_nil]
  simp only [not_inRanges_nil, false_or]
  exact inRanges_congr fun r => List.mem_mergeSort

/-! ### Members -/

theorem contains_iff {set : CharSet} : set.contains c ↔ InRanges set.ranges c.toNat := by
  simp only [contains, InRanges, List.any_eq_true, Bool.and_eq_true, decide_eq_true_iff]

theorem inRanges_scalars :
    InRanges (scalars range) c.toNat ↔ range.1 ≤ c.toNat ∧ c.toNat ≤ range.2 := by
  have hscalar := (isScalarRange_char c).2
  simp only [InRanges, scalars, List.mem_filter, List.mem_cons, List.not_mem_nil, or_false,
    decide_eq_true_iff]
  constructor
  · rintro ⟨r, ⟨rfl | rfl, -⟩, hfirst, hlast⟩
    · exact ⟨hfirst, by omega⟩
    · exact ⟨by omega, by omega⟩
  · rintro ⟨hfirst, hlast⟩
    rcases hscalar with hlow | ⟨hhigh, hmax⟩
    · exact ⟨_, ⟨.inl rfl, by dsimp only at hlow ⊢; omega⟩, hfirst, by dsimp only at hlow ⊢; omega⟩
    · exact ⟨_, ⟨.inr rfl, by dsimp only at hhigh hmax ⊢; omega⟩, by dsimp only at hhigh ⊢; omega,
        by dsimp only at hmax ⊢; omega⟩

theorem contains_ofRanges : (ofRanges ranges).contains c ↔ InRanges ranges c.toNat := by
  rw [contains_iff]
  show InRanges (join (ranges.flatMap scalars)) c.toNat ↔ _
  rw [inRanges_join]
  constructor
  · rintro ⟨r, hr, hcode⟩
    obtain ⟨range, hrange, hscalar⟩ := List.mem_flatMap.mp hr
    exact ⟨range, hrange, inRanges_scalars.mp ⟨r, hscalar, hcode⟩⟩
  · rintro ⟨range, hrange, hcode⟩
    obtain ⟨r, hr, hin⟩ := inRanges_scalars.mpr hcode
    exact ⟨r, List.mem_flatMap.mpr ⟨range, hrange, hr⟩, hin⟩

theorem not_contains_empty : ¬empty.contains c := by
  rw [contains_iff]
  exact not_inRanges_nil

theorem contains_union {a b : CharSet} :
    (a.union b).contains c ↔ a.contains c ∨ b.contains c := by
  rw [union, contains_ofRanges, inRanges_append_list, contains_iff, contains_iff]

theorem eq_ofNat_iff (h : IsScalarRange (code, code)) : c = Char.ofNat code ↔ c.toNat = code := by
  have hvalid : code.isValidChar := by
    simp only [IsScalarRange, maxCode] at h
    simp only [Nat.isValidChar]
    omega
  constructor
  · rintro rfl
    rw [Char.ofNat, dif_pos hvalid]
    rfl
  · rintro rfl
    exact (Char.ofNat_toNat c).symm

theorem contains_singleton : (singleton d).contains c ↔ c = d := by
  rw [contains_iff]
  show InRanges [(d.toNat, d.toNat)] c.toNat ↔ _
  rw [inRanges_cons]
  simp only [not_inRanges_nil, or_false]
  rw [← Char.toNat_inj]
  omega

theorem contains_of_only? {set : CharSet} (h : set.only? = some d) :
    set.contains c ↔ c = d := by
  obtain ⟨ranges, hscalar⟩ := set
  unfold only? at h
  split at h
  · rename_i first last hranges
    dsimp only at hranges
    subst hranges
    split at h
    · rename_i heq
      subst heq
      cases h
      rw [eq_ofNat_iff (hscalar _ List.mem_cons_self), contains_iff, inRanges_cons]
      simp only [not_inRanges_nil, or_false]
      omega
    · cases h
  · cases h

/-! ### Positions -/

theorem exists_getFrom? (h : ∀ r ∈ ranges, IsScalarRange r)
    (hi : index < (ranges.map fun r => r.2 + 1 - r.1).sum) :
    ∃ c, getFrom? ranges index = some c ∧ InRanges ranges c.toNat := by
  induction ranges generalizing index with
  | nil => cases hi
  | cons range rest ih =>
    obtain ⟨hrange, hrest⟩ := List.forall_mem_cons.mp h
    rw [List.map_cons, List.sum_cons] at hi
    unfold getFrom?
    split
    · rename_i hlt
      have hcode : IsScalarRange (range.1 + index, range.1 + index) := by
        simp only [IsScalarRange] at hrange ⊢
        omega
      refine ⟨_, rfl, inRanges_cons.mpr (.inl ?_)⟩
      rw [(eq_ofNat_iff hcode).mp rfl]
      omega
    · have hbehind : index - (range.2 + 1 - range.1) < (rest.map fun r => r.2 + 1 - r.1).sum := by
        omega
      obtain ⟨c, hc, hin⟩ := ih hrest hbehind
      exact ⟨c, hc, inRanges_cons.mpr (.inr hin)⟩

/-- A position below the size of a set is that of one of its characters. -/
theorem exists_get? {set : CharSet} (h : index < set.size) :
    ∃ c, set.get? index = some c ∧ set.contains c := by
  have hsize : set.size = (set.ranges.map fun r => r.2 + 1 - r.1).sum := by
    rw [List.sum_eq_foldl, List.foldl_map]
    rfl
  obtain ⟨c, hc, hin⟩ := exists_getFrom? set.scalar (hsize ▸ h)
  exact ⟨c, hc, contains_iff.mpr hin⟩

end Specimen.Pattern.CharSet
