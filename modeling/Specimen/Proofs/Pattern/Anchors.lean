import Specimen.Proofs.Pattern.Dialect

/-!
# Specimen.Proofs.Pattern.Anchors

The translation of a pattern for sampling is the one for matching without its anchors and word
boundaries (`translate_sampling`).

Which of them stand outside classes is read off the translation for matching alone
(`withoutAnchors`), as the dialect reads it. That reading agrees with the one of the pattern because
a translated class ends at its first closing bracket: none stands at its start, and no opening
bracket stands in it without a backslash.
-/

namespace Specimen.Pattern

/-- A text without the anchors and word boundaries outside its classes; `depth` classes are open. A
closing bracket at the start of a class stands for itself, and an opening bracket in a class opens
one more. -/
def withoutAnchors : (depth : Nat) → List Char → List Char
  | _, [] => []
  | depth, '\\' :: c :: rest =>
    if depth = 0 ∧ isBoundary c then withoutAnchors depth rest
    else '\\' :: c :: withoutAnchors depth rest
  | depth, '[' :: '^' :: ']' :: rest => '[' :: '^' :: ']' :: withoutAnchors (depth + 1) rest
  | depth, '[' :: '^' :: rest => '[' :: '^' :: withoutAnchors (depth + 1) rest
  | depth, '[' :: ']' :: rest => '[' :: ']' :: withoutAnchors (depth + 1) rest
  | depth, '[' :: rest => '[' :: withoutAnchors (depth + 1) rest
  | depth + 1, ']' :: rest => ']' :: withoutAnchors depth rest
  | depth, c :: rest =>
    if depth = 0 ∧ isEdge c then withoutAnchors depth rest else c :: withoutAnchors depth rest

variable {inClass behind : Bool} {depth : Nat} {c : Char} {used text thin : List Char}

/-! ### Readings of the parts -/

theorem withoutAnchors_escape :
    withoutAnchors depth ('\\' :: c :: text) =
      if depth = 0 ∧ isBoundary c then withoutAnchors depth text
      else '\\' :: c :: withoutAnchors depth text :=
  rfl

theorem withoutAnchors_openNegated (hc : text.head? ≠ some ']') :
    withoutAnchors depth ('[' :: '^' :: text) = '[' :: '^' :: withoutAnchors (depth + 1) text := by
  rw [withoutAnchors]
  rintro rest rfl
  exact hc rfl

theorem withoutAnchors_openClass (hstart : text.head? ≠ some '^') (hclose : text.head? ≠ some ']') :
    withoutAnchors depth ('[' :: text) = '[' :: withoutAnchors (depth + 1) text := by
  rw [withoutAnchors]
  · rintro rest rfl
    exact hstart rfl
  · rintro rest rfl
    exact hstart rfl
  · rintro rest rfl
    exact hclose rfl

theorem withoutAnchors_close :
    withoutAnchors inClass.toNat (']' :: text) = ']' :: withoutAnchors 0 text := by
  cases inClass with
  | true => rfl
  | false => cases text <;> rfl

theorem withoutAnchors_char (hescape : c ≠ '\\') (hopen : c ≠ '[') (hclose : depth ≠ 0 → c ≠ ']') :
    withoutAnchors depth (c :: text) =
      if depth = 0 ∧ isEdge c then withoutAnchors depth text
      else c :: withoutAnchors depth text := by
  rw [withoutAnchors]
  all_goals simp_all

/-- Of a kept piece nothing is left out, and it is read as opening and closing the same class. -/
theorem withoutAnchors_append (hk : keeps? inClass used = some behind) :
    withoutAnchors inClass.toNat (used ++ text) = used ++ withoutAnchors behind.toNat text := by
  fun_induction keeps? inClass used with
  | case1 inClass =>
    cases hk
    rfl
  | case2 inClass c rest hc ih =>
    have hkept : ¬(inClass.toNat = 0 ∧ isBoundary c = true) := by
      cases inClass with
      | true => exact fun h => absurd h.1 Nat.one_ne_zero
      | false =>
        rw [Bool.false_or, Bool.not_eq_true'] at hc
        exact fun h => Bool.false_ne_true (hc.symm.trans h.2)
    rw [List.cons_append, List.cons_append, withoutAnchors_escape, if_neg hkept, ih hk]
    rfl
  | case5 c rest hc ih =>
    have hclose : (c :: rest ++ text).head? ≠ some ']' := fun hhead =>
      hc (beq_iff_eq.mpr (Option.some.inj hhead))
    exact (withoutAnchors_openNegated hclose).trans (congrArg ('[' :: '^' :: ·) (ih hk))
  | case7 c rest hne hc ih =>
    rw [Bool.or_eq_true, beq_iff_eq, beq_iff_eq, not_or] at hc
    have hstart : (c :: rest ++ text).head? ≠ some '^' := fun hhead => hc.1 (Option.some.inj hhead)
    have hclose : (c :: rest ++ text).head? ≠ some ']' := fun hhead => hc.2 (Option.some.inj hhead)
    exact (withoutAnchors_openClass hstart hclose).trans (congrArg ('[' :: ·) (ih hk))
  | case8 inClass rest ih =>
    exact withoutAnchors_close.trans (congrArg (']' :: ·) (ih hk))
  | case10 inClass c rest _ _ _ hclose hc ih =>
    simp only [Bool.or_eq_true, beq_iff_eq, not_or, Bool.and_eq_true, not_and,
      Bool.not_eq_true, Bool.not_eq_true'] at hc
    obtain ⟨⟨hescape, hopen⟩, hedge⟩ := hc
    have hkept : ¬(inClass.toNat = 0 ∧ isEdge c = true) := by
      cases inClass with
      | true => exact fun h => absurd h.1 Nat.one_ne_zero
      | false => exact fun h => Bool.false_ne_true ((hedge rfl).symm.trans h.2)
    rw [List.cons_append, withoutAnchors_char hescape hopen fun _ => hclose, if_neg hkept, ih hk]
    rfl
  | _ => cases hk

/-! ### Translations -/

/-- An escape is kept, or it is a word boundary outside classes and left out. -/
theorem withoutAnchors_translateEscape :
    withoutAnchors inClass.toNat (translateEscape false inClass c ++ text) =
      translateEscape true inClass c ++ withoutAnchors inClass.toNat text := by
  by_cases hc : inClass = false → isBoundary c = false
  · obtain ⟨hsame, hkept⟩ := keeps?_translateEscape hc
    rw [hsame, withoutAnchors_append hkept]
  · obtain ⟨rfl, hboundary⟩ := Classical.not_imp.mp hc
    rw [Bool.not_eq_false] at hboundary
    obtain ⟨hkept, hleft⟩ := translateEscape_of_isBoundary hboundary
    rw [hkept, hleft]
    exact withoutAnchors_escape.trans (if_pos ⟨rfl, hboundary⟩)

/-- The translation for sampling, from some position on, is the one for matching without its anchors
and word boundaries. -/
theorem withoutAnchors_translateFrom (inClass : Bool) (text : List Char) :
    withoutAnchors inClass.toNat (translateFrom false inClass text) =
      translateFrom true inClass text := by
  -- The reading of the result is in a class exactly where the one of the pattern is, so the induction
  -- follows the latter, and each piece that it writes is kept or left out as a whole.
  fun_induction translateFrom false inClass text with
  | case1 inClass =>
    rw [translateFrom]
    rfl
  | case2 inClass =>
    rw [translateFrom]
    cases inClass <;> rfl
  | case3 inClass c rest ih => rw [translateFrom, withoutAnchors_translateEscape, ih]
  | case4 rest ih =>
    simp only [translateFrom]
    rw [← ih]
    exact withoutAnchors_append (show keeps? false ['[', '^', '\\', ']'] = some true from rfl)
  | case5 rest hne ih =>
    simp only [translateFrom]
    rw [← ih]
    refine withoutAnchors_openNegated fun hhead => ?_
    obtain ⟨more, hmore⟩ := List.head?_eq_some_iff.mp (head?_of_translateFrom (.inr rfl) hhead)
    exact hne more hmore
  | case6 rest ih =>
    simp only [translateFrom]
    rw [← ih]
    exact withoutAnchors_append (show keeps? false ['[', '\\', ']'] = some true from rfl)
  | case7 rest _ hstart hclose ih =>
    simp only [translateFrom]
    rw [← ih]
    refine withoutAnchors_openClass (fun hhead => ?_) fun hhead => ?_
    · obtain ⟨more, hmore⟩ := List.head?_eq_some_iff.mp (head?_of_translateFrom (.inl rfl) hhead)
      exact hstart more hmore
    · obtain ⟨more, hmore⟩ := List.head?_eq_some_iff.mp (head?_of_translateFrom (.inr rfl) hhead)
      exact hclose more hmore
  | case8 rest ih =>
    rw [translateFrom, ← ih]
    exact withoutAnchors_append (show keeps? true ['\\', '['] = some true from rfl)
  | case9 rest ih =>
    rw [translateFrom, ← ih]
    exact withoutAnchors_close
  | case10 =>
    rename_i hsampling _
    cases hsampling.1
  | case11 inClass c rest hlast hescape _ _ _ hopen hopen' hclose _ ih =>
    have hc : c ≠ '\\' := by
      rintro rfl
      cases rest with
      | nil => exact hlast rfl rfl
      | cons d rest => exact hescape d rest rfl rfl
    have hbracket : c ≠ '[' := by
      cases inClass with
      | true => exact hopen' rfl
      | false => exact hopen rfl
    have hend : inClass.toNat ≠ 0 → c ≠ ']' := by
      cases inClass with
      | true => exact fun _ => hclose rfl
      | false => exact fun h => absurd rfl h
    rw [withoutAnchors_char hc hbracket hend, ih, translateFrom]
    · cases inClass <;> simp [isEdge_iff]
    all_goals assumption

/-- **The two translations of a pattern.** The translation for sampling is the one for matching
without the anchors and word boundaries outside its classes. Nothing else differs. -/
theorem translate_sampling (pattern : String) :
    translate pattern true =
      String.ofList (withoutAnchors 0 (translate pattern false).toList) := by
  unfold translate
  rw [String.toList_ofList]
  exact congrArg String.ofList (withoutAnchors_translateFrom false pattern.toList).symm

/-- An anchor in a class, a word boundary in a class and an escaped anchor stay. -/
example : withoutAnchors 0 "^[^$\\b]\\$\\b$".toList = "[^$\\b]\\$".toList := by decide

end Specimen.Pattern
