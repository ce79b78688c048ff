import Specimen.Options

/-!
# Specimen.Proofs.Options

What it means that options are accepted (`Options.validate_eq_ok_iff`).
-/

namespace Specimen.Options

/-- Options that can be honoured. -/
structure IsValid (options : Options) : Prop where
  maxDepth : options.maxDepth ≠ 0
  integerRange : options.integerRange.1 ≤ options.integerRange.2
  finiteRange : options.numberRange.1.isFinite = true ∧ options.numberRange.2.isFinite = true
  numberRange : ¬options.numberRange.2 < options.numberRange.1
  stringLength : options.stringLength.1 ≤ options.stringLength.2
  arrayLength : options.arrayLength.1 ≤ options.arrayLength.2
  probability : Double.zero ≤ options.optionalPropertyProbability ∧
    options.optionalPropertyProbability ≤ Double.ofNat 1
  uniqueAttempts : options.uniqueAttempts ≠ 0
  formatAttempts : options.formatAttempts ≠ 0
  patternMaxRepeat : options.patternMaxRepeat ≠ 0
  locale : (Locale.parse? options.locale).isSome = true

variable {options : Options}

theorem IsValid.of_validate (h : options.validate = .ok ()) : options.IsValid := by
  unfold validate at h
  dsimp only at h
  split at h
  · cases h
  split at h
  · cases h
  split at h
  · cases h
  split at h
  · cases h
  split at h
  · cases h
  split at h
  · cases h
  split at h
  · cases h
  split at h
  · cases h
  split at h
  · cases h
  rename_i hdepth hinteger hnumber hstring harray hprobability hattempts hrepeat hlocale
  rw [not_or, not_or] at hnumber
  rw [not_or] at hattempts
  obtain ⟨hlowest, hhighest, hordered⟩ := hnumber
  constructor
  · exact hdepth
  · exact Int.not_lt.mp hinteger
  · exact ⟨by simpa using hlowest, by simpa using hhighest⟩
  · exact hordered
  · exact Nat.not_lt.mp hstring
  · exact Nat.not_lt.mp harray
  · exact Bool.and_eq_true_iff.mp (by simpa using hprobability)
  · exact hattempts.1
  · exact hattempts.2
  · exact hrepeat
  · exact Option.isSome_iff_ne_none.mpr fun hnone => hlocale (by rw [hnone]; rfl)

/-- Options are accepted if and only if they can be honoured. -/
theorem validate_eq_ok_iff : options.validate = .ok () ↔ options.IsValid := by
  refine ⟨.of_validate, fun h => ?_⟩
  obtain ⟨hlowest, hhighest⟩ := h.finiteRange
  have hprobability : (Double.zero.le options.optionalPropertyProbability &&
      options.optionalPropertyProbability.le (Double.ofNat 1)) = true :=
    Bool.and_eq_true_iff.mpr h.probability
  unfold validate
  dsimp only
  rw [if_neg h.maxDepth, if_neg (Int.not_lt.mpr h.integerRange),
    if_neg (by simp [hlowest, hhighest, h.numberRange]), if_neg (Nat.not_lt.mpr h.stringLength),
    if_neg (Nat.not_lt.mpr h.arrayLength), if_neg (by simp [hprobability]),
    if_neg (not_or.mpr ⟨h.uniqueAttempts, h.formatAttempts⟩), if_neg h.patternMaxRepeat,
    if_neg (by rw [Option.isNone_iff_eq_none]; exact Option.isSome_iff_ne_none.mp h.locale)]

/-- Neither of the limits matters to the other options. -/
theorem IsValid.withLimits {maxDepth : Nat} {nodeBudget : Option Nat} (h : options.IsValid)
    (hdepth : maxDepth ≠ 0) : IsValid { options with maxDepth, nodeBudget } :=
  { h with maxDepth := hdepth }

/-- Any lengths of arrays that are in order will do. -/
theorem IsValid.withArrayLength {arrayLength : Nat × Nat} (h : options.IsValid)
    (hordered : arrayLength.1 ≤ arrayLength.2) : IsValid { options with arrayLength } :=
  { h with arrayLength := hordered }

/-- Options are accepted when nothing is chosen. -/
theorem isValid_default : default.IsValid := by
  have hok : default.validate.isOk = true := by decide +kernel
  cases hresult : default.validate with
  | error error => rw [hresult] at hok; cases hok
  | ok _ => exact .of_validate hresult

end Specimen.Options
