import Specimen.Pattern.Dialect

/-!
# Specimen.Proofs.Pattern.Dialect

The two translations of a pattern differ in nothing but anchors and word boundaries
(`thinned_translateFrom`).

`Thinned` relates the translation for matching to the one for sampling, place by place. It also says
what the readers of regular expressions rely on: where a class opens, that no class has an opening
bracket in it or a closing one at its start, and that nothing is left out directly before the sign
of a repetition, which would then repeat something else.
-/

namespace Specimen.Pattern

/-- The signs of a repetition. -/
def isQuantifier (c : Char) : Bool := c == '?' || c == '*' || c == '+' || c == '\x7b'

/-- Whether a text begins with the sign of a repetition. -/
def startsQuantified (text : List Char) : Bool := text.head?.any isQuantifier

/-- Whether an escape is that of a word boundary, or of none. -/
def isBoundary (c : Char) : Bool := c == 'b' || c == 'B'

/-- Whether a sign is that of the start or the end. -/
def isEdge (c : Char) : Bool := c == '^' || c == '$'

theorem isEdge_iff {c : Char} : isEdge c ↔ c = '^' ∨ c = '$' := by
  simp only [isEdge, Bool.or_eq_true, beq_iff_eq]

/-- Whether no anchor and no word boundary outside a class is directly before the sign of a
repetition. -/
def anchorsOnce : (inClass : Bool) → List Char → Bool
  | _, [] => true
  | inClass, '\\' :: c :: rest =>
    (inClass || !isBoundary c || !startsQuantified rest) && anchorsOnce inClass rest
  | inClass, c :: rest =>
    (inClass || !isEdge c || !startsQuantified rest) &&
      anchorsOnce (if inClass then c != ']' else c == '[') rest

/-- A text without its anchors and word boundaries outside classes. -/
inductive Thinned : (inClass : Bool) → List Char → List Char → Prop where
  | nil (inClass : Bool) : Thinned inClass [] []
  | escape {inClass : Bool} {c : Char} {text thin : List Char}
      (hc : inClass = false → isBoundary c = false) (h : Thinned inClass text thin) :
    Thinned inClass ('\\' :: c :: text) ('\\' :: c :: thin)
  | char {inClass : Bool} {c : Char} {text thin : List Char} (hc : c ∉ ['\\', '[', ']'])
      (he : inClass = false → isEdge c = false) (h : Thinned inClass text thin) :
    Thinned inClass (c :: text) (c :: thin)
  | close {inClass : Bool} {text thin : List Char} (h : Thinned false text thin) :
    Thinned inClass (']' :: text) (']' :: thin)
  | openClass {text thin : List Char} (hc : text.head? ≠ some '^' ∧ text.head? ≠ some ']')
      (h : Thinned true text thin) :
    Thinned false ('[' :: text) ('[' :: thin)
  | openNegated {text thin : List Char} (hc : text.head? ≠ some ']') (h : Thinned true text thin) :
    Thinned false ('[' :: '^' :: text) ('[' :: '^' :: thin)
  /-- A sign for the start or the end is left out. -/
  | edge {c : Char} {text thin : List Char} (hc : isEdge c) (hq : startsQuantified text = false)
      (h : Thinned false text thin) :
    Thinned false (c :: text) thin
  /-- A word boundary is left out. -/
  | boundary {c : Char} {text thin : List Char} (hc : isBoundary c)
      (hq : startsQuantified text = false) (h : Thinned false text thin) :
    Thinned false ('\\' :: c :: text) thin

variable {inClass behind : Bool} {c : Char} {used text thin : List Char}

/-! ### Kept pieces -/

/-- Whether a place is in a class, behind a piece of text of which nothing is left out. -/
def keeps? : (inClass : Bool) → List Char → Option Bool
  | inClass, [] => some inClass
  | inClass, '\\' :: c :: rest =>
    if inClass || !isBoundary c then keeps? inClass rest else none
  | false, '[' :: '^' :: c :: rest => if c == ']' then none else keeps? true (c :: rest)
  | false, '[' :: c :: rest => if c == '^' || c == ']' then none else keeps? true (c :: rest)
  | _, ']' :: rest => keeps? false rest
  | inClass, c :: rest =>
    if c == '\\' || c == '[' || !inClass && isEdge c then none else keeps? inClass rest

theorem Thinned.append (hk : keeps? inClass used = some behind) (h : Thinned behind text thin) :
    Thinned inClass (used ++ text) (used ++ thin) := by
  fun_induction keeps? inClass used with
  | case1 inClass =>
    cases hk
    exact h
  | case2 inClass c rest hc ih =>
    refine .escape (fun hout => ?_) (ih hk)
    simpa only [hout, Bool.false_or, Bool.not_eq_true'] using hc
  | case5 c rest hc ih =>
    refine .openNegated (fun hhead => hc ?_) (ih hk)
    exact beq_iff_eq.mpr (Option.some.inj hhead)
  | case7 c rest hne hc ih =>
    rw [Bool.or_eq_true, beq_iff_eq, beq_iff_eq, not_or] at hc
    exact .openClass ⟨fun hhead => hc.1 (Option.some.inj hhead), fun hhead =>
      hc.2 (Option.some.inj hhead)⟩ (ih hk)
  | case8 inClass rest ih => exact .close (ih hk)
  | case10 inClass c rest _ _ _ hclose hc ih =>
    simp only [Bool.or_eq_true, beq_iff_eq, not_or, Bool.and_eq_true, not_and,
      Bool.not_eq_true, Bool.not_eq_true'] at hc
    obtain ⟨⟨hescape, hopen⟩, hedge⟩ := hc
    refine .char (fun hmem => ?_) hedge (ih hk)
    simp only [List.mem_cons, List.not_mem_nil, or_false] at hmem
    exact hmem.elim hescape fun hmem => hmem.elim hopen hclose
  | _ => cases hk

theorem anchorsOnce_cons (hc : c ≠ '\\') :
    anchorsOnce inClass (c :: text) =
      ((inClass || !isEdge c || !startsQuantified text) &&
        anchorsOnce (if inClass then c != ']' else c == '[') text) := by
  rw [anchorsOnce]
  exact fun d rest hescape => absurd hescape hc

theorem anchorsOnce_append (hk : keeps? inClass used = some behind) :
    anchorsOnce inClass (used ++ text) = anchorsOnce behind text := by
  fun_induction keeps? inClass used with
  | case1 inClass =>
    cases hk
    rfl
  | case2 inClass c rest hc ih =>
    rw [← ih hk]
    simp only [List.cons_append, anchorsOnce, hc, Bool.true_or, Bool.true_and]
  | case5 c rest hc ih =>
    rw [← ih hk]
    rfl
  | case7 c rest hne hc ih =>
    rw [← ih hk]
    rfl
  | case8 inClass rest ih =>
    rw [← ih hk]
    cases inClass <;> rfl
  | case10 inClass c rest _ _ _ hclose hc ih =>
    simp only [Bool.or_eq_true, beq_iff_eq, not_or, Bool.and_eq_true, not_and,
      Bool.not_eq_true, Bool.not_eq_true'] at hc
    obtain ⟨⟨hescape, hopen⟩, hedge⟩ := hc
    rw [← ih hk, List.cons_append, anchorsOnce_cons hescape]
    cases inClass with
    | true => simp only [Bool.true_or, Bool.true_and, if_true, bne_iff_ne.mpr hclose]
    | false =>
      simp only [hedge rfl, Bool.not_false, Bool.or_true, Bool.true_or, Bool.true_and, if_false,
        beq_eq_false_iff_ne.mpr hopen, Bool.false_eq_true]
  | _ => cases hk

/-! ### Translations -/

/-- What an escape is translated to is kept, but for a word boundary. -/
theorem keeps?_translateEscape (hc : inClass = false → isBoundary c = false) :
    translateEscape true inClass c = translateEscape false inClass c ∧
      keeps? inClass (translateEscape false inClass c) = some inClass := by
  fun_cases translateEscape false inClass c with
  | case10 => cases inClass <;> exact ⟨rfl, rfl⟩
  | case11 =>
    rename_i hsampling
    cases hsampling.1
  | case12 =>
    have hkept : (inClass || !isBoundary c) = true := by
      cases inClass with
      | true => rfl
      | false => rw [hc rfl]; rfl
    constructor
    · rw [translateEscape, if_neg]
      · rintro ⟨-, hout, hboundary⟩
        rw [Bool.not_eq_true'] at hout
        have hnot := hc hout
        simp only [isBoundary, Bool.or_eq_false_iff, beq_eq_false_iff_ne] at hnot
        exact hboundary.elim hnot.1 hnot.2
      all_goals assumption
    · rw [keeps?, if_pos hkept, keeps?]
  | _ => exact ⟨rfl, rfl⟩

/-- The sign that negates a class and its closing bracket come from a pattern as they are. -/
theorem head?_of_translateFrom (hc : c = '^' ∨ c = ']')
    (h : (translateFrom false inClass text).head? = some c) : text.head? = some c := by
  have hescape (inClass : Bool) (d : Char) : ∃ first more,
      translateEscape false inClass d = first :: more ∧ first ≠ '^' ∧ first ≠ ']' := by
    fun_cases translateEscape false inClass d with
    | case11 =>
      rename_i hsampling
      cases hsampling.1
    | _ => exact ⟨_, _, rfl, by decide, by decide⟩
  fun_induction translateFrom false inClass text with
  | case3 inClass d rest =>
    obtain ⟨first, more, heq, hstart, hclose⟩ := hescape inClass d
    rw [heq] at h
    cases h
    exact absurd hc (not_or.mpr ⟨hstart, hclose⟩)
  | case8 rest =>
    cases h
    exact absurd hc (by decide)
  | case10 =>
    rename_i hsampling _
    cases hsampling.1
  | _ => exact h

theorem translateEscape_of_isBoundary (hc : isBoundary c) :
    translateEscape false false c = ['\\', c] ∧ translateEscape true false c = [] := by
  rcases Bool.or_eq_true_iff.mp hc with hb | hb
  · obtain rfl := beq_iff_eq.mp hb
    exact ⟨rfl, rfl⟩
  · obtain rfl := beq_iff_eq.mp hb
    exact ⟨rfl, rfl⟩

/-- An escape is kept, or it is a word boundary and left out. -/
theorem thinned_translateEscape (h : anchorsOnce inClass (translateEscape false inClass c ++ text))
    (ht : anchorsOnce inClass text → Thinned inClass text thin) :
    Thinned inClass (translateEscape false inClass c ++ text)
      (translateEscape true inClass c ++ thin) := by
  by_cases hc : inClass = false → isBoundary c = false
  · obtain ⟨hsame, hkept⟩ := keeps?_translateEscape hc
    rw [anchorsOnce_append hkept] at h
    rw [hsame]
    exact (ht h).append hkept
  · obtain ⟨rfl, hboundary⟩ := Classical.not_imp.mp hc
    rw [Bool.not_eq_false] at hboundary
    obtain ⟨hkept, hleft⟩ := translateEscape_of_isBoundary hboundary
    rw [hkept] at h
    rw [hkept, hleft]
    simp only [List.cons_append, List.nil_append, anchorsOnce, hboundary, Bool.not_true,
      Bool.or_false, Bool.false_or, Bool.and_eq_true, Bool.not_eq_true'] at h
    exact .boundary hboundary h.1 (ht h.2)

/-- A character that stands for itself is kept, or it is an anchor and left out. -/
theorem thinned_cons (hc : c ≠ '\\') (hopen : c ≠ '[') (hclose : inClass = true → c ≠ ']')
    (h : anchorsOnce inClass (c :: text))
    (ht : anchorsOnce inClass text → Thinned inClass text thin) :
    Thinned inClass (c :: text)
      (if true ∧ !inClass ∧ (c = '^' ∨ c = '$') then thin else c :: thin) := by
  rw [anchorsOnce_cons hc, Bool.and_eq_true] at h
  obtain ⟨hquantified, hrest⟩ := h
  cases inClass with
  | true =>
    have hbracket : (c != ']') = true := bne_iff_ne.mpr (hclose rfl)
    rw [if_pos rfl, hbracket] at hrest
    rw [if_neg (fun hdrop => nomatch hdrop.2.1)]
    refine .char ?_ (fun hout => nomatch hout) (ht hrest)
    simp only [List.mem_cons, List.not_mem_nil, or_false, not_or]
    exact ⟨hc, hopen, hclose rfl⟩
  | false =>
    have hbracket : (c == '[') = false := beq_eq_false_iff_ne.mpr hopen
    rw [if_neg Bool.false_ne_true, hbracket] at hrest
    by_cases hedge : isEdge c
    · rw [if_pos ⟨rfl, rfl, isEdge_iff.mp hedge⟩]
      simp only [hedge, Bool.not_true, Bool.or_false, Bool.false_or, Bool.not_eq_true']
        at hquantified
      exact .edge hedge hquantified (ht hrest)
    · rw [if_neg fun hdrop => hedge (isEdge_iff.mpr hdrop.2.2)]
      by_cases hend : c = ']'
      · subst hend
        exact .close (ht hrest)
      · refine .char ?_ (fun _ => Bool.eq_false_iff.mpr hedge) (ht hrest)
        simp only [List.mem_cons, List.not_mem_nil, or_false, not_or]
        exact ⟨hc, hopen, hend⟩

/-- The two translations differ in the anchors and word boundaries outside classes. -/
theorem thinned_translateFrom (h : anchorsOnce inClass (translateFrom false inClass text)) :
    Thinned inClass (translateFrom false inClass text) (translateFrom true inClass text) := by
  fun_induction translateFrom false inClass text with
  | case1 inClass => exact .nil inClass
  | case2 inClass => exact .escape (fun _ => rfl) (.nil inClass)
  | case3 inClass c rest ih =>
    rw [translateFrom]
    exact thinned_translateEscape h ih
  | case4 rest ih =>
    simp only [translateFrom]
    exact (ih h).append (show keeps? false ['[', '^', '\\', ']'] = some true from rfl)
  | case5 rest hne ih =>
    simp only [translateFrom]
    refine .openNegated (fun hhead => ?_) (ih h)
    obtain ⟨more, hmore⟩ := List.head?_eq_some_iff.mp (head?_of_translateFrom (.inr rfl) hhead)
    exact hne more hmore
  | case6 rest ih =>
    simp only [translateFrom]
    exact (ih h).append (show keeps? false ['[', '\\', ']'] = some true from rfl)
  | case7 rest _ hstart hclose ih =>
    simp only [translateFrom]
    refine .openClass ⟨fun hhead => ?_, fun hhead => ?_⟩ (ih h)
    · obtain ⟨more, hmore⟩ := List.head?_eq_some_iff.mp (head?_of_translateFrom (.inl rfl) hhead)
      exact hstart more hmore
    · obtain ⟨more, hmore⟩ := List.head?_eq_some_iff.mp (head?_of_translateFrom (.inr rfl) hhead)
      exact hclose more hmore
  | case8 rest ih =>
    rw [translateFrom]
    exact .escape (fun hout => nomatch hout) (ih h)
  | case9 rest ih =>
    rw [translateFrom]
    exact .close (ih h)
  | case10 =>
    rename_i hsampling _
    cases hsampling.1
  | case11 inClass c rest hlast hescape _ _ _ hopen hopen' hclose _ ih =>
    have hc : c ≠ '\\' := by
      rintro rfl
      cases rest with
      | nil => exact hlast rfl rfl
      | cons d rest => exact hescape d rest rfl rfl
    have hbracket : c ≠ '[' := by
      cases inClass with
      | true => exact hopen' rfl
      | false => exact hopen rfl
    rw [translateFrom]
    · exact thinned_cons hc hbracket hclose h ih
    all_goals assumption

end Specimen.Pattern
