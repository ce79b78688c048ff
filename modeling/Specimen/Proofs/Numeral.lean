import Mathlib.Data.List.Induction
import Specimen.Numeral

/-!
# Specimen.Proofs.Numeral

Which texts the reader of unsigned numbers takes, number by number: a number has one written form,
and all other texts for it have zeros or a plus sign in front (`Numeral.unsigned64?_eq_some_iff`).
-/

namespace Specimen.Numeral

variable {digits : List Char} {c : Char} {number : Nat}

theorem ofDigits_eq_ofDigitChars (digits : List Char) :
    ofDigits digits = Nat.ofDigitChars 10 digits 0 := Nat.ofDigitChars_eq_foldl.symm

theorem ofDigits_append_singleton (digits : List Char) (c : Char) :
    ofDigits (digits ++ [c]) = 10 * ofDigits digits + digitValue c := by
  unfold ofDigits
  rw [List.foldl_append, List.foldl_cons, List.foldl_nil]

theorem toNat_of_isDigit (h : c.isDigit = true) : 48 ≤ c.toNat ∧ c.toNat ≤ 57 := by
  simpa [Char.isDigit, UInt32.le_iff_toNat_le] using h

theorem digitValue_lt_of_isDigit (h : c.isDigit = true) : digitValue c < 10 := by
  have hrange := toNat_of_isDigit h
  show c.toNat - 48 < 10
  omega

theorem digitChar_digitValue (h : c.isDigit = true) : Nat.digitChar (digitValue c) = c := by
  have hrange := toNat_of_isDigit h
  apply Char.toNat_inj.mp
  rw [Nat.toNat_digitChar_of_lt_ten (digitValue_lt_of_isDigit h)]
  show 48 + (c.toNat - 48) = c.toNat
  omega

/-- A sequence of digits is the written form of its number, behind zeros. -/
theorem exists_eq_zeros_append (hne : digits ≠ []) (hdigits : ∀ c ∈ digits, c.isDigit = true) :
    ∃ zeros, digits = List.replicate zeros '0' ++ Nat.toDigits 10 (ofDigits digits) := by
  -- From the last digit: it is the last one of the written form as well.
  induction digits using List.reverseRecOn with
  | nil => exact absurd rfl hne
  | append_singleton front c ih =>
    have hc : c.isDigit = true := hdigits c (by simp)
    have hlast : Nat.toDigits 10 (digitValue c) = [c] := by
      rw [Nat.toDigits_of_lt_base (digitValue_lt_of_isDigit hc), digitChar_digitValue hc]
    rw [ofDigits_append_singleton]
    cases hfront : front with
    | nil => exact ⟨0, by simpa [ofDigits] using hlast.symm⟩
    | cons first rest =>
      rw [← hfront]
      obtain ⟨zeros, heq⟩ := ih (by simp [hfront]) fun c hc => hdigits c (by simp [hc])
      rcases Nat.eq_zero_or_pos (ofDigits front) with hzero | hpos
      · refine ⟨zeros + 1, ?_⟩
        rw [hzero, Nat.mul_zero, Nat.zero_add, hlast, List.replicate_succ']
        rw [hzero] at heq
        exact congrArg (· ++ [c]) heq
      · refine ⟨zeros, ?_⟩
        rw [← Nat.toDigits_append_toDigits (by decide) hpos (digitValue_lt_of_isDigit hc), hlast,
          ← List.append_assoc, ← heq]

/-- No written form of more than one digit starts with a zero. -/
theorem toDigits_ne_zero_cons {rest : List Char} (hne : rest ≠ []) :
    Nat.toDigits 10 number ≠ '0' :: rest := by
  intro h
  have hvalue : ofDigits rest = number := by
    rw [← Nat.ofDigitChars_toDigits (b := 10) (n := number) (by decide) (by decide), h,
      Nat.ofDigitChars_cons]
    exact ofDigits_eq_ofDigitChars rest
  have hdigits : ∀ c ∈ rest, c.isDigit = true := fun c hc =>
    Nat.isDigit_of_mem_toDigits (by decide) (by decide) (h ▸ List.mem_cons_of_mem '0' hc)
  -- What follows the zero writes the same number, and would have to be as long with the zero.
  obtain ⟨zeros, heq⟩ := exists_eq_zeros_append hne hdigits
  have hlength := congrArg List.length heq
  rw [hvalue, h] at hlength
  simp at hlength
  omega

theorem isDigit_of_mem_zeros_append {zeros : Nat}
    (h : c ∈ List.replicate zeros '0' ++ Nat.toDigits 10 number) : c.isDigit = true := by
  rcases List.mem_append.mp h with hc | hc
  · rw [List.eq_of_mem_replicate hc]
    rfl
  · exact Nat.isDigit_of_mem_toDigits (by decide) (by decide) hc

/-- The digits for a number are its written form, behind zeros. -/
theorem digits64?_eq_some_iff : digits64? digits = some number ↔
    number < 2 ^ 64 ∧ ∃ zeros, digits = List.replicate zeros '0' ++ Nat.toDigits 10 number := by
  unfold digits64?
  constructor
  · intro h
    split at h
    · rename_i hread
      obtain ⟨hne, hdigits, hlt⟩ := hread
      cases h
      exact ⟨hlt, exists_eq_zeros_append hne (List.all_eq_true.mp hdigits)⟩
    · cases h
  · rintro ⟨hlt, zeros, rfl⟩
    have hvalue : ofDigits (List.replicate zeros '0' ++ Nat.toDigits 10 number) = number := by
      rw [ofDigits_eq_ofDigitChars, Nat.ofDigitChars_append, Nat.ofDigitChars_replicate_zero,
        Nat.mul_zero, Nat.ofDigitChars_toDigits (by decide) (by decide)]
    have hdigits := List.all_eq_true.mpr fun c => @isDigit_of_mem_zeros_append c number zeros
    have hne : List.replicate zeros '0' ++ Nat.toDigits 10 number ≠ [] := by
      simp [Nat.toDigits_ne_nil]
    rw [hvalue, if_pos ⟨hne, hdigits, hlt⟩]

/-- The texts for a number are its written form behind zeros, with or without a plus sign. -/
theorem unsigned64?_eq_some_iff {text : String} : unsigned64? text = some number ↔
    number < 2 ^ 64 ∧ ∃ zeros,
      text.toList = List.replicate zeros '0' ++ Nat.toDigits 10 number ∨
      text.toList = '+' :: (List.replicate zeros '0' ++ Nat.toDigits 10 number) := by
  unfold unsigned64?
  split
  · rename_i digits htext
    have hplus (zeros : Nat) :
        '+' :: digits ≠ List.replicate zeros '0' ++ Nat.toDigits 10 number := by
      intro h
      have hdigit := @isDigit_of_mem_zeros_append '+' number zeros (h ▸ List.mem_cons_self)
      exact absurd hdigit (by decide)
    simp [digits64?_eq_some_iff, htext, hplus]
  · rename_i hother
    have hnone (zeros : Nat) :
        text.toList ≠ '+' :: (List.replicate zeros '0' ++ Nat.toDigits 10 number) := hother _
    simp [digits64?_eq_some_iff, hnone]

end Specimen.Numeral
