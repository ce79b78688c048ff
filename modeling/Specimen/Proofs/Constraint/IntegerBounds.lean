import Mathlib.Algebra.Order.Field.Basic
import Mathlib.Algebra.Order.Field.Rat
import Specimen.Constraint.Settle

/-!
# Specimen.Proofs.Constraint.IntegerBounds

Which integers the bounds of a set of demands admit (`Constraints.conflict?_integer`).

The second side are the bounds themselves, compared as exact numbers (`Double.toRat`,
`Constraints.Bounds`). On the way from there to `Constraints.integerBounds` an end is rounded to an
integer, moved by one if it is exclusive, kept within the 128-bit integers twice, and kept within
the 64-bit integers. No step matters to a 64-bit integer on either side of the end, as long as the
end is not beyond all of them; that is what `Constraints.integerConflict?` rules out first.
-/

namespace Specimen

/-! ### Doubles and integers -/

namespace Double

variable {x : Double} {number : Int}

/-- The number that a finite double stands for. -/
def toRat (x : Double) : ℚ := x.scaled / one

theorem one_pos_int : (0 : Int) < one := by
  exact_mod_cast Nat.two_pow_pos unitBits

theorem toRat_le_iff : x.toRat ≤ number ↔ x.scaled ≤ number * one := by
  have hone : (0 : ℚ) < (one : Nat) := by exact_mod_cast one_pos_int
  unfold toRat
  rw [div_le_iff₀ hone]
  exact_mod_cast Iff.rfl

theorem le_toRat_iff : (number : ℚ) ≤ x.toRat ↔ number * one ≤ x.scaled := by
  have hone : (0 : ℚ) < (one : Nat) := by exact_mod_cast one_pos_int
  unfold toRat
  rw [le_div_iff₀ hone]
  exact_mod_cast Iff.rfl

theorem toRat_eq_iff : x.toRat = number ↔ x.scaled = number * one := by
  rw [le_antisymm_iff, le_antisymm_iff, toRat_le_iff, le_toRat_iff]

theorem le_floorInt_iff : number ≤ x.floorInt ↔ (number : ℚ) ≤ x.toRat := by
  unfold floorInt
  rw [le_toRat_iff, Int.le_ediv_iff_mul_le one_pos_int]

theorem ceilInt_le_iff : x.ceilInt ≤ number ↔ x.toRat ≤ number := by
  have hneg : -number ≤ -x.scaled / one ↔ -number * one ≤ -x.scaled :=
    Int.le_ediv_iff_mul_le one_pos_int
  rw [Int.neg_mul] at hneg
  unfold ceilInt
  rw [toRat_le_iff]
  omega

theorem floorInt_lt_iff : x.floorInt < number ↔ x.toRat < number := by
  rw [← not_le, le_floorInt_iff, not_le]

theorem lt_ceilInt_iff : number < x.ceilInt ↔ (number : ℚ) < x.toRat := by
  rw [← not_le, ceilInt_le_iff, not_le]

end Double

/-! ### Bounds -/

/-- An integer that 64 bits hold. -/
def IsInt64 (number : Int) : Prop :=
  Constraints.minInteger ≤ number ∧ number ≤ Constraints.maxInteger

instance (number : Int) : Decidable (IsInt64 number) := inferInstanceAs (Decidable (_ ∧ _))

namespace Bound

/-- The bound as a lower one admits a number. -/
def AdmitsFrom (bound : Bound) (number : ℚ) : Prop :=
  if bound.exclusive then bound.value.toRat < number else bound.value.toRat ≤ number

/-- The bound as an upper one admits a number. -/
def AdmitsUpTo (bound : Bound) (number : ℚ) : Prop :=
  if bound.exclusive then number < bound.value.toRat else number ≤ bound.value.toRat

end Bound

/-- A number lies between two ends; a missing end is open. -/
def Between (ends : Option Int × Option Int) (number : Int) : Prop :=
  (∀ lo ∈ ends.1, lo ≤ number) ∧ ∀ hi ∈ ends.2, number ≤ hi

namespace Constraints

variable {set : Constraints} {bound : Bound} {number : Int} {ends : Option Int × Option Int}

/-- A number meets both bounds. -/
structure Bounds (set : Constraints) (number : ℚ) : Prop where
  minimum : ∀ bound ∈ set.minimum, bound.AdmitsFrom number
  maximum : ∀ bound ∈ set.maximum, bound.AdmitsUpTo number

/-! ### Limits -/

theorem saturate128_le_iff {value : Int} (h : IsInt64 number) :
    saturate128 value ≤ number ↔ value ≤ number := by
  unfold IsInt64 minInteger maxInteger at h
  unfold saturate128
  omega

theorem le_saturate128_iff {value : Int} (h : IsInt64 number) :
    number ≤ saturate128 value ↔ number ≤ value := by
  unfold IsInt64 minInteger maxInteger at h
  unfold saturate128
  omega

/-- One above a 64-bit integer is still a 128-bit one, so the first saturation does not show. -/
theorem saturate128_succ_le_iff {value : Int} (h : IsInt64 number) :
    saturate128 (saturate128 value + 1) ≤ number ↔ value < number := by
  unfold IsInt64 minInteger maxInteger at h
  unfold saturate128
  omega

theorem le_saturate128_pred_iff {value : Int} (h : IsInt64 number) :
    number ≤ saturate128 (saturate128 value - 1) ↔ number < value := by
  unfold IsInt64 minInteger maxInteger at h
  unfold saturate128
  omega

/-- Between the integer limits lie the 64-bit integers that meet the bounds. -/
theorem between_integerLimits (h : IsInt64 number) :
    Between set.integerLimits number ↔ set.Bounds number := by
  have hmin (bound : Bound) :
      (if bound.exclusive then saturate128 (saturate128 bound.value.floorInt + 1)
        else saturate128 bound.value.ceilInt) ≤ number ↔ bound.AdmitsFrom number := by
    unfold Bound.AdmitsFrom
    split
    · rw [saturate128_succ_le_iff h, Double.floorInt_lt_iff]
    · rw [saturate128_le_iff h, Double.ceilInt_le_iff]
  have hmax (bound : Bound) :
      number ≤ (if bound.exclusive then saturate128 (saturate128 bound.value.ceilInt - 1)
        else saturate128 bound.value.floorInt) ↔ bound.AdmitsUpTo number := by
    unfold Bound.AdmitsUpTo
    split
    · rw [le_saturate128_pred_iff h, Double.lt_ceilInt_iff]
    · rw [le_saturate128_iff h, Double.le_floorInt_iff]
  unfold Between integerLimits
  simp only [Option.mem_def, Option.map_eq_some_iff, forall_exists_index, and_imp,
    forall_apply_eq_imp_iff₂, hmin, hmax]
  exact ⟨fun hb => ⟨hb.1, hb.2⟩, fun hb => ⟨hb.minimum, hb.maximum⟩⟩

/-! ### Conflicts -/

/-- Two ends leave room for a 64-bit integer: neither is beyond all of them, and they are in
order. -/
def LeaveRoom (ends : Option Int × Option Int) : Prop :=
  (∀ lo ∈ ends.1, lo ≤ maxInteger) ∧ (∀ hi ∈ ends.2, minInteger ≤ hi) ∧
    ∀ lo ∈ ends.1, ∀ hi ∈ ends.2, lo ≤ hi

theorem integerConflict?_eq_none_iff :
    set.integerConflict? = none ↔ LeaveRoom set.integerLimits := by
  unfold integerConflict? LeaveRoom
  obtain ⟨lower, upper⟩ := set.integerLimits
  cases lower with
  | none => cases upper <;> simp
  | some lo =>
    cases upper with
    | none => simp
    | some hi =>
      simp only [Option.any_some, decide_eq_true_eq, Option.mem_def, Option.some.injEq,
        forall_eq']
      split_ifs <;> simp <;> omega

/-- The nearest 64-bit integer to the lower end lies between ends that leave room. -/
theorem leaveRoom_iff : LeaveRoom ends ↔ ∃ number, IsInt64 number ∧ Between ends number := by
  unfold LeaveRoom IsInt64 Between
  have hends : minInteger ≤ maxInteger := by decide
  constructor
  · rintro ⟨hlower, hupper, hordered⟩
    cases hlo : ends.1 with
    | none =>
      cases hhi : ends.2 with
      | none => exact ⟨minInteger, ⟨Int.le_refl _, hends⟩, by simp, by simp⟩
      | some hi => exact ⟨minInteger, ⟨Int.le_refl _, hends⟩, by simp, by simpa using hupper hi hhi⟩
    | some lo =>
      have hlo' := hlower lo hlo
      refine ⟨max minInteger lo, ⟨by omega, by omega⟩, by simp, fun hi hhi => ?_⟩
      have hhi' := hupper hi hhi
      have := hordered lo hlo hi hhi
      omega
  · rintro ⟨number, hnumber, hlower, hupper⟩
    refine ⟨fun lo hlo => ?_, fun hi hhi => ?_, fun lo hlo hi hhi => ?_⟩
    · exact Int.le_trans (hlower lo hlo) hnumber.2
    · exact Int.le_trans hnumber.1 (hupper hi hhi)
    · exact Int.le_trans (hlower lo hlo) (hupper hi hhi)

/-- Moving the limits into the 64-bit integers keeps the integers between them, unless a limit is
beyond all of them. -/
theorem between_integerBounds (hroom : LeaveRoom set.integerLimits) (h : IsInt64 number) :
    Between set.integerBounds number ↔ Between set.integerLimits number := by
  obtain ⟨hlower, hupper, -⟩ := hroom
  unfold IsInt64 at h
  have hmin (lo : Int) (hlo : lo ∈ set.integerLimits.1) :
      max minInteger (min maxInteger lo) ≤ number ↔ lo ≤ number := by
    have := hlower lo hlo
    omega
  have hmax (hi : Int) (hhi : hi ∈ set.integerLimits.2) :
      number ≤ max minInteger (min maxInteger hi) ↔ number ≤ hi := by
    have := hupper hi hhi
    omega
  unfold Between integerBounds
  simp only [Option.mem_def, Option.map_eq_some_iff, forall_exists_index, and_imp,
    forall_apply_eq_imp_iff₂]
  exact and_congr (forall₂_congr hmin) (forall₂_congr hmax)

/-! ### Integers that the bounds admit -/

/-- **The integers that the bounds admit.** There is no reason against the kind `integer` exactly
when some 64-bit integer meets both bounds, compared as exact numbers; the 64-bit integers between
the integer bounds are then those that do. -/
theorem conflict?_integer (set : Constraints) :
    (set.conflict? .integer = none ↔ ∃ number : Int, IsInt64 number ∧ set.Bounds number) ∧
    (set.conflict? .integer = none → ∀ number : Int, IsInt64 number →
      (Between set.integerBounds number ↔ set.Bounds number)) := by
  have hconflict : set.conflict? .integer = none ↔ LeaveRoom set.integerLimits :=
    integerConflict?_eq_none_iff
  rw [hconflict]
  refine ⟨?_, fun hroom number hnumber => ?_⟩
  · rw [leaveRoom_iff]
    exact exists_congr fun number => and_congr_right fun hnumber => between_integerLimits hnumber
  · rw [between_integerBounds hroom hnumber, between_integerLimits hnumber]

/-- Only integers that are no doubles meet the lower bound, and no integer is near the upper one. -/
def aboveLastDouble : Constraints :=
  { Constraints.any .root with
    minimum := some ⟨.ofInt (2 ^ 63 - 1024), true⟩
    maximum := some ⟨.ofDecimal false 1 300, false⟩ }

/-- The last 64-bit integer meets both bounds, the last double among them does not. -/
theorem conflict?_integer_aboveLastDouble :
    aboveLastDouble.conflict? .integer = none ∧ IsInt64 (2 ^ 63 - 1) ∧
      aboveLastDouble.Bounds (2 ^ 63 - 1 : Int) ∧
      ¬aboveLastDouble.Bounds (2 ^ 63 - 1024 : Int) := by
  have hnone : aboveLastDouble.conflict? .integer = none := by decide +kernel
  have hends : aboveLastDouble.integerBounds = (some (2 ^ 63 - 1023), some (2 ^ 63 - 1)) := by
    decide +kernel
  have hlast : IsInt64 (2 ^ 63 - 1) := by decide
  have hdouble : IsInt64 (2 ^ 63 - 1024) := by decide
  have hadmits := (conflict?_integer aboveLastDouble).2 hnone
  refine ⟨hnone, hlast, (hadmits _ hlast).mp ?_, fun h => ?_⟩
  · rw [hends]
    exact ⟨by simp, by simp⟩
  · have hbetween := (hadmits _ hdouble).mpr h
    rw [hends] at hbetween
    exact absurd (hbetween.1 _ rfl) (by decide)

end Constraints

end Specimen
