import Specimen.Proofs.Constraint.IntegerBounds
import Specimen.Proofs.Double.Arithmetic

/-!
# Specimen.Proofs.Constraint.NumberBounds

The ends between which numbers are drawn (`Constraints.numberBounds`).

An exclusive bound is moved inward by one part in `2 ^ 50` of its size, or of one (`epsilon_eq`). This
is more than rounding can take back, so what lies between the ends meets the bounds
(`bounds_of_between_ends`); but it also skips the doubles nearest to the bound, and two bounds may be
so near to each other that their moved ends cross. Bounds that are four times as far apart are far
enough (`moved_le_moved`).
-/

namespace Specimen

namespace Double

variable {x y : Double}

theorem toRat_le_toRat_iff : x.toRat ≤ y.toRat ↔ x.scaled ≤ y.scaled := by
  unfold toRat
  rw [div_le_div_iff_of_pos_right (by exact_mod_cast one_pos)]
  exact_mod_cast Iff.rfl

theorem toRat_lt_toRat_iff : x.toRat < y.toRat ↔ x.scaled < y.scaled := by
  unfold toRat
  rw [div_lt_div_iff_of_pos_right (by exact_mod_cast one_pos)]
  exact_mod_cast Iff.rfl

end Double

namespace Constraints

open Double (rounded clip one Representable)

variable {x : Double}

/-! ### Moving an end -/

/-- The epsilon is exactly one part in `2 ^ 50` of the size, or of one. -/
theorem epsilon_eq (h : x.isFinite = true) :
    (epsilon x).isFinite = true ∧ 2 ^ 50 * (epsilon x).scaled = max (x.scaled.natAbs : Int) one := by
  have hstep : (Double.ofRatio false one (2 ^ 52)).isFinite = true ∧
      (Double.ofRatio false one (2 ^ 52)).scaled = 2 ^ 1022 := by decide +kernel
  have hfour : (Double.ofNat 4).isFinite = true ∧ (Double.ofNat 4).scaled = 4 * one := by
    decide +kernel
  have hone : (2 ^ 1022 * 2 ^ 52 : Int) = one := by decide +kernel
  have habs : x.abs.isFinite = true := by rw [Double.isFinite_abs, h]
  have hsize : (x.abs.max (.ofNat 1)).isFinite = true := Double.isFinite_max habs Double.isFinite_one
  have hscaled : (x.abs.max (.ofNat 1)).scaled = max (x.scaled.natAbs : Int) one := by
    rw [Double.scaled_max (Double.isNaN_of_isFinite habs) (Double.isNaN_ofNat 1),
      Double.scaled_abs h, Double.scaled_one]
  have hrepresentable := Double.representable_scaled hsize
  unfold epsilon
  generalize x.abs.max (.ofNat 1) = size at hsize hscaled hrepresentable ⊢
  rw [← hscaled]
  obtain ⟨q, hq⟩ := Double.two_pow_dvd_of_representable hrepresentable (by omega)
  have hunits : size.scaled = 2 ^ 52 * q := by omega
  -- Both products are exact: they only move the point.
  have hquarter : Representable (q : Int).natAbs := by
    rw [hq, Nat.mul_comm] at hrepresentable
    exact Double.representable_of_mul_two_pow hrepresentable
  have hwhole : Representable (4 * q : Int).natAbs := by
    refine Double.representable_of_mul_two_pow (e := 50) ?_
    rwa [show (4 * q : Int).natAbs * 2 ^ 50 = size.scaled.natAbs by omega]
  obtain ⟨hfinite, hproduct⟩ := Double.mul_eq_of_representable hstep.1 hsize
    (by rw [hstep.2, hunits, ← Int.mul_assoc, hone, Int.mul_comm]) hquarter
  obtain ⟨hfinite', hproduct'⟩ := Double.mul_eq_of_representable hfinite hfour.1
    (by rw [hproduct, hfour.2, ← Int.mul_assoc, Int.mul_comm (q : Int)]) hwhole
  exact ⟨hfinite', by omega⟩

/-- Rounding takes back at most a quarter of the epsilon. -/
theorem rounded_moved_close (h : x.isFinite = true) {moved : Int}
    (hmoved : moved = x.scaled + (epsilon x).scaled ∨ moved = x.scaled - (epsilon x).scaled) :
    4 * (rounded moved 1 - moved).natAbs ≤ (epsilon x).scaled := by
  obtain ⟨-, hepsilon⟩ := epsilon_eq h
  have hclose := Double.rounded_one_close moved
  omega

theorem lt_add_epsilon (h : x.isFinite = true) : x.scaled < (x + epsilon x).scaled := by
  obtain ⟨hfinite, hepsilon⟩ := epsilon_eq h
  have hclose := rounded_moved_close h (.inl rfl)
  have hlimit := (Double.isFinite_iff (Double.isNaN_of_isFinite h)).mp h
  have hone := Double.one_pos
  rw [Double.scaled_add h hfinite]
  unfold clip
  omega

theorem sub_epsilon_lt (h : x.isFinite = true) : (x - epsilon x).scaled < x.scaled := by
  obtain ⟨hfinite, hepsilon⟩ := epsilon_eq h
  have hclose := rounded_moved_close h (.inr rfl)
  have hlimit := (Double.isFinite_iff (Double.isNaN_of_isFinite h)).mp h
  have hone := Double.one_pos
  rw [Double.scaled_sub h hfinite]
  unfold clip
  omega

/-- Where two bounds are far enough apart, their moved ends do not cross. -/
theorem moved_le_moved {lo hi : Double} (hlo : lo.isFinite = true) (hhi : hi.isFinite = true)
    (h : max 1 (max |lo.toRat| |hi.toRat|) ≤ 2 ^ 48 * (hi.toRat - lo.toRat)) :
    lo + epsilon lo ≤ hi - epsilon hi := by
  have hone : (0 : ℚ) < one := by exact_mod_cast Double.one_pos
  -- The hypothesis in units.
  have hunits {size : Int} (hsize : (size : ℚ) / one ≤ max 1 (max |lo.toRat| |hi.toRat|)) :
      size ≤ 2 ^ 48 * (hi.scaled - lo.scaled) := by
    have hle := hsize.trans h
    unfold Double.toRat at hle
    rw [← sub_div, ← mul_div_assoc, div_le_div_iff_of_pos_right hone] at hle
    exact_mod_cast hle
  have hsizes : ((one : Int) : ℚ) / one ≤ max 1 (max |lo.toRat| |hi.toRat|) :=
    (div_self hone.ne').le.trans (le_max_left ..)
  have habs (x : Double) : ((|x.scaled| : Int) : ℚ) / one = |x.toRat| := by
    unfold Double.toRat
    rw [abs_div, Int.cast_abs, abs_of_pos hone]
  have hleast := hunits hsizes
  have hlower := hunits ((habs lo).le.trans (by simp))
  have hupper := hunits ((habs hi).le.trans (by simp))
  rw [Int.abs_eq_natAbs] at hlower hupper
  obtain ⟨hfinite, hepsilon⟩ := epsilon_eq hlo
  obtain ⟨hfinite', hepsilon'⟩ := epsilon_eq hhi
  have hclose := rounded_moved_close hlo (.inl rfl)
  have hclose' := rounded_moved_close hhi (.inr rfl)
  rw [Double.le_iff (Double.isNaN_add hlo hfinite) (Double.isNaN_sub hhi hfinite'),
    Double.scaled_add hlo hfinite, Double.scaled_sub hhi hfinite']
  refine Double.clip_le_clip ?_
  omega

end Constraints

/-! ### Bounds -/

namespace Bound

open Constraints

variable {x : Double} {bound : Bound}

/-- The least number that is drawn for a lower bound. -/
def lowerEnd (bound : Bound) : Double :=
  if bound.exclusive then bound.value + epsilon bound.value else bound.value

/-- The greatest number that is drawn for an upper bound. -/
def upperEnd (bound : Bound) : Double :=
  if bound.exclusive then bound.value - epsilon bound.value else bound.value

theorem admitsFrom_of_le (h : bound.value.isFinite = true) (hle : bound.lowerEnd ≤ x) :
    bound.AdmitsFrom x.toRat := by
  have hscaled := Double.scaled_le_of_le hle
  unfold lowerEnd at hscaled
  unfold AdmitsFrom
  split
  · rename_i hexclusive
    rw [if_pos hexclusive] at hscaled
    exact Double.toRat_lt_toRat_iff.mpr (Int.lt_of_lt_of_le (lt_add_epsilon h) hscaled)
  · rename_i hexclusive
    rw [if_neg hexclusive] at hscaled
    exact Double.toRat_le_toRat_iff.mpr hscaled

theorem admitsUpTo_of_le (h : bound.value.isFinite = true) (hle : x ≤ bound.upperEnd) :
    bound.AdmitsUpTo x.toRat := by
  have hscaled := Double.scaled_le_of_le hle
  unfold upperEnd at hscaled
  unfold AdmitsUpTo
  split
  · rename_i hexclusive
    rw [if_pos hexclusive] at hscaled
    exact Double.toRat_lt_toRat_iff.mpr (Int.lt_of_le_of_lt hscaled (sub_epsilon_lt h))
  · rename_i hexclusive
    rw [if_neg hexclusive] at hscaled
    exact Double.toRat_le_toRat_iff.mpr hscaled

end Bound

namespace Constraints

variable {set : Constraints} {x : Double}

theorem numberBounds_eq (set : Constraints) :
    set.numberBounds = (set.minimum.map Bound.lowerEnd, set.maximum.map Bound.upperEnd) := rfl

/-- The bounds of a set of demands are finite. -/
structure HasFiniteBounds (set : Constraints) : Prop where
  minimum : ∀ bound ∈ set.minimum, bound.value.isFinite = true
  maximum : ∀ bound ∈ set.maximum, bound.value.isFinite = true

/-- What lies between the ends meets the bounds. -/
theorem bounds_of_between_ends (h : set.HasFiniteBounds)
    (hlo : ∀ bound ∈ set.minimum, bound.lowerEnd ≤ x)
    (hhi : ∀ bound ∈ set.maximum, x ≤ bound.upperEnd) : set.Bounds x.toRat where
  minimum bound hbound := Bound.admitsFrom_of_le (h.minimum bound hbound) (hlo bound hbound)
  maximum bound hbound := Bound.admitsUpTo_of_le (h.maximum bound hbound) (hhi bound hbound)

end Constraints

end Specimen
