import Mathlib.Data.List.TakeWhile
import Specimen.Pattern.Parser
import Specimen.Proofs.Pattern.CharSet
import Specimen.Proofs.Pattern.Dialect

/-!
# Specimen.Proofs.Pattern.Thinned

How a text is taken apart together with the one without its anchors and word boundaries.

Most signs that the readers of regular expressions look for are plain: they are no signs of the
translation (`IsPlain`), so they are kept (`Thinned.cons`), also where a reader passes over many of
them (`Thinned.dropWhile`). The other way round, what comes first in the thinned text need not come
first in the whole one, unless it is the sign of a repetition (`Thinned.of_isQuantifier`).
-/

namespace Specimen.Pattern

variable {inClass : Bool} {c d : Char} {text thin rest : List Char}

/-! ### Characters -/

/-- A character that is no sign of the translation. -/
def IsPlain (c : Char) : Prop := c ∉ ['\\', '[', ']', '^', '$']

instance : Decidable (IsPlain c) :=
  inferInstanceAs (Decidable (c ∉ ['\\', '[', ']', '^', '$']))

theorem isPlain_of_accepts {accepts : Char → Bool}
    (h : ['\\', '[', ']', '^', '$'].all fun c => !accepts c) (hc : accepts c) : IsPlain c := by
  intro hmem
  have hnot := List.all_eq_true.mp h c hmem
  rw [hc] at hnot
  cases hnot

theorem isPlain_of_isDigit (h : c.isDigit) : IsPlain c :=
  isPlain_of_accepts (by decide) h

theorem isPlain_of_hexValue? (h : (Numeral.hexValue? c).isSome) : IsPlain c :=
  @isPlain_of_accepts c (fun c => (Numeral.hexValue? c).isSome) (by decide) h

theorem isPlain_of_isBoundaryChar (h : Regex.isBoundaryChar c) : IsPlain c :=
  isPlain_of_accepts (by decide) h

theorem not_contains_ofRanges {ranges : List (Nat × Nat)}
    (h : ranges.all fun range => c.toNat < range.1 || range.2 < c.toNat) :
    (CharSet.ofRanges ranges).contains c = false := by
  rw [Bool.eq_false_iff]
  intro hc
  obtain ⟨range, hrange, hfirst, hlast⟩ := CharSet.contains_ofRanges.mp hc
  have hout := List.all_eq_true.mp h range hrange
  simp only [Bool.or_eq_true, decide_eq_true_iff] at hout
  omega

theorem isPlain_of_isBlank (h : Regex.isBlank c) : IsPlain c := by
  intro hmem
  have hout : ['\\', '[', ']', '^', '$'].all fun c =>
      Unicode.whiteSpace.all fun range => c.toNat < range.1 || range.2 < c.toNat := by decide
  have hnot : Regex.isBlank c = false := not_contains_ofRanges (List.all_eq_true.mp hout c hmem)
  rw [h] at hnot
  cases hnot

/-! ### Thinned texts -/

namespace Thinned

theorem cons (hc : IsPlain c) (h : Thinned inClass (c :: text) thin) :
    ∃ more, thin = c :: more ∧ Thinned inClass text more := by
  cases h with
  | escape => exact absurd (by decide) hc
  | char _ _ h => exact ⟨_, rfl, h⟩
  | close => exact absurd (by decide) hc
  | openClass => exact absurd (by decide) hc
  | openNegated => exact absurd (by decide) hc
  | edge hedge =>
    rcases isEdge_iff.mp hedge with rfl | rfl
    · exact absurd (by decide) hc
    · exact absurd (by decide) hc
  | boundary => exact absurd (by decide) hc

theorem nil_left (h : Thinned inClass [] thin) : thin = [] := by
  cases h
  rfl

/-- Nothing is left out directly before the sign of a repetition. -/
theorem of_isQuantifier (hc : isQuantifier c) (h : Thinned inClass text (c :: thin)) :
    ∃ more, text = c :: more ∧ Thinned inClass more thin := by
  generalize hthin : c :: thin = whole at h
  have hleft {text : List Char} (hq : startsQuantified text = false) :
      ¬∃ more, text = c :: more ∧ Thinned false more thin := by
    rintro ⟨more, rfl, -⟩
    rw [startsQuantified, List.head?_cons, Option.any_some, hc] at hq
    cases hq
  induction h with
  | nil => cases hthin
  | edge _ hq _ ih => exact absurd (ih hthin) (hleft hq)
  | boundary _ hq _ ih => exact absurd (ih hthin) (hleft hq)
  | char _ _ h =>
    cases hthin
    exact ⟨_, rfl, h⟩
  | escape | close | openClass | openNegated =>
    cases hthin
    exact absurd hc (by decide)

theorem of_cons (hc : IsPlain c) (h : Thinned true text (c :: thin)) :
    ∃ more, text = c :: more ∧ Thinned true more thin := by
  cases h with
  | escape => exact absurd (by decide) hc
  | char _ _ h => exact ⟨_, rfl, h⟩
  | close => exact absurd (by decide) hc

/-- In a class nothing is left out. -/
theorem head? (h : Thinned true text thin) : thin.head? = text.head? := by
  cases h <;> rfl

/-- Passing over plain characters comes to the same place in both texts. -/
theorem dropWhile_of_takeWhile {p : Char → Bool} (hp : ∀ c ∈ text.takeWhile p, IsPlain c)
    (hd : IsPlain d) (h : Thinned inClass text thin) (hdrop : text.dropWhile p = d :: rest) :
    thin.takeWhile p = text.takeWhile p ∧ Thinned inClass (d :: rest) (thin.dropWhile p) := by
  induction text generalizing thin with
  | nil => cases hdrop
  | cons c text ih =>
    cases hc : p c with
    | true =>
      rw [List.takeWhile_cons_of_pos hc] at hp ⊢
      obtain ⟨hplain, hp⟩ := List.forall_mem_cons.mp hp
      obtain ⟨more, rfl, hmore⟩ := h.cons hplain
      rw [List.dropWhile_cons_of_pos hc] at hdrop ⊢
      rw [List.takeWhile_cons_of_pos hc]
      exact (ih hp hmore hdrop).imp_left (congrArg (c :: ·))
    | false =>
      have hneg := Bool.eq_false_iff.mp hc
      rw [List.dropWhile_cons_of_neg hneg] at hdrop
      cases hdrop
      obtain ⟨more, rfl, -⟩ := h.cons hd
      rw [List.dropWhile_cons_of_neg hneg, List.takeWhile_cons_of_neg hneg,
        List.takeWhile_cons_of_neg hneg]
      exact ⟨rfl, h⟩

/-- As `dropWhile_of_takeWhile`, where only plain characters are passed over. -/
theorem dropWhile {p : Char → Bool} (hp : ∀ c, p c → IsPlain c) (hd : IsPlain d)
    (h : Thinned inClass text thin) (hdrop : text.dropWhile p = d :: rest) :
    thin.takeWhile p = text.takeWhile p ∧ Thinned inClass (d :: rest) (thin.dropWhile p) :=
  h.dropWhile_of_takeWhile (fun c hc => hp c (List.mem_takeWhile_imp hc)) hd hdrop

/-- Brackets are kept as well. They count as those of a class, so the place behind one may be in a
class. -/
theorem cons_bracket (hc : c ∉ ['\\', '^', '$']) (h : Thinned inClass (c :: text) thin) :
    ∃ behind more, thin = c :: more ∧ Thinned behind text more := by
  cases h with
  | escape => exact absurd (by decide) hc
  | char _ _ h => exact ⟨_, _, rfl, h⟩
  | close h => exact ⟨_, _, rfl, h⟩
  | openClass _ h => exact ⟨_, _, rfl, h⟩
  | openNegated _ h => exact ⟨true, _, rfl, .char (by decide) (fun hout => nomatch hout) h⟩
  | edge hedge =>
    rcases isEdge_iff.mp hedge with rfl | rfl
    · exact absurd (by decide) hc
    · exact absurd (by decide) hc
  | boundary => exact absurd (by decide) hc

/-- As `dropWhile`, where brackets may be passed over. -/
theorem dropWhile_bracket {p : Char → Bool} (hp : ∀ c, p c → c ∉ ['\\', '^', '$'])
    (hd : IsPlain d) (h : Thinned inClass text thin) (hdrop : text.dropWhile p = d :: rest) :
    ∃ behind more, thin.takeWhile p = text.takeWhile p ∧ thin.dropWhile p = d :: more ∧
      Thinned behind rest more := by
  induction text generalizing inClass thin with
  | nil => cases hdrop
  | cons c text ih =>
    cases hc : p c with
    | true =>
      obtain ⟨behind, more, rfl, hmore⟩ := h.cons_bracket (hp c hc)
      rw [List.dropWhile_cons_of_pos hc] at hdrop
      obtain ⟨behind, tail, htake, hrest, htail⟩ := ih hmore hdrop
      refine ⟨behind, tail, ?_, ?_, htail⟩
      · rw [List.takeWhile_cons_of_pos hc, List.takeWhile_cons_of_pos hc, htake]
      · rw [List.dropWhile_cons_of_pos hc, hrest]
    | false =>
      have hneg := Bool.eq_false_iff.mp hc
      rw [List.dropWhile_cons_of_neg hneg] at hdrop
      cases hdrop
      obtain ⟨more, rfl, hmore⟩ := h.cons hd
      refine ⟨inClass, more, ?_, ?_, hmore⟩
      · rw [List.takeWhile_cons_of_neg hneg, List.takeWhile_cons_of_neg hneg]
      · rw [List.dropWhile_cons_of_neg hneg]

end Thinned

end Specimen.Pattern
