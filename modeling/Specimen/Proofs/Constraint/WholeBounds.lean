import Specimen.Proofs.Constraint.NumberBounds
import Specimen.Proofs.Double.Step

/-!
# Specimen.Proofs.Constraint.WholeBounds

Bounds that are integers of at most 53 bits (`Bound.IsWhole`), and the factors of a whole step between
them (`Bound.IsWhole.lowerEnd_spec`).
-/

namespace Specimen

namespace Bound

open Double (one rounded)

variable {bound : Bound} {step : Double} {whole : Nat} {a : Int}

/-- A bound that is an integer of at most 53 bits. -/
structure IsWhole (bound : Bound) (value : Int) : Prop where
  isFinite : bound.value.isFinite = true
  small : value.natAbs < 2 ^ 53
  toRat_eq : bound.value.toRat = value

theorem IsWhole.scaled_eq (h : bound.IsWhole a) : bound.value.scaled = a * one :=
  Double.toRat_eq_iff.mp h.toRat_eq

theorem isWhole_ofNat (value : Nat) (hsmall : value < 2 ^ 53) (exclusive : Bool) :
    IsWhole ⟨.ofNat value, exclusive⟩ value where
  isFinite := Double.isFinite_ofInt (by omega)
  small := by omega
  toRat_eq := by exact_mod_cast Double.toRat_ofNat value (by omega)

/-- The least integer that a whole bound admits. -/
def leastInteger (bound : Bound) (a : Int) : Int := if bound.exclusive then a + 1 else a

/-- The greatest integer that a whole bound admits. -/
def greatestInteger (bound : Bound) (a : Int) : Int := if bound.exclusive then a - 1 else a

theorem IsWhole.admitsFrom (h : bound.IsWhole a) {x : Double}
    (hle : bound.leastInteger a * one ≤ x.scaled) : bound.AdmitsFrom x.toRat := by
  have hone := Double.one_pos
  unfold leastInteger at hle
  unfold AdmitsFrom
  split
  · rename_i hexclusive
    rw [if_pos hexclusive, Int.add_mul, Int.one_mul] at hle
    rw [Double.toRat_lt_toRat_iff, h.scaled_eq]
    omega
  · rename_i hexclusive
    rw [if_neg hexclusive] at hle
    rwa [Double.toRat_le_toRat_iff, h.scaled_eq]

theorem IsWhole.admitsUpTo (h : bound.IsWhole a) {x : Double}
    (hle : x.scaled ≤ bound.greatestInteger a * one) : bound.AdmitsUpTo x.toRat := by
  have hone := Double.one_pos
  unfold greatestInteger at hle
  unfold AdmitsUpTo
  split
  · rename_i hexclusive
    rw [if_pos hexclusive, Int.sub_mul, Int.one_mul] at hle
    rw [Double.toRat_lt_toRat_iff, h.scaled_eq]
    omega
  · rename_i hexclusive
    rw [if_neg hexclusive] at hle
    rwa [Double.toRat_le_toRat_iff, h.scaled_eq]

theorem IsWhole.natAbs_lt (h : bound.IsWhole a) : (a * one).natAbs < 2 ^ 53 * one := by
  rw [Int.natAbs_mul, Int.natAbs_natCast]
  exact Nat.mul_lt_mul_of_pos_right h.small Double.one_pos

/-- A whole bound is not moved out of the format. -/
theorem IsWhole.moved_eq (h : bound.IsWhole a) {x : Double} {moved : Int} (hx : x.isNaN = false)
    (hscaled : x.scaled = Double.clip moved)
    (hmoved : (moved - a * one).natAbs ≤ 2 * (Constraints.epsilon bound.value).scaled) :
    x.isFinite = true ∧ x.scaled = moved := by
  have hlimit : (2 ^ 60 * one : Int) < 2 ^ Double.limitBits := by decide +kernel
  have hsize := h.natAbs_lt
  have hepsilon := (Constraints.epsilon_eq h.isFinite).2
  rw [h.scaled_eq] at hepsilon
  exact Double.finite_of_eq_clip hx hscaled (by omega) (by omega)

/-- The end for a whole bound is finite, and the factors from its quotient on lead to integers that
the bound admits. -/
theorem IsWhole.lowerEnd_spec (h : bound.IsWhole a) (hstep : step.IsWholeStep whole) :
    bound.lowerEnd.isFinite = true ∧
      ∀ q, (bound.lowerEnd / step).ceilInt ≤ q → bound.leastInteger a ≤ q * whole := by
  have hquotient {x : Double} (hx : x.isFinite = true) {q : Int} (hq : (x / step).ceilInt ≤ q) :
      rounded x.scaled whole ≤ q * one := by
    rw [← (hstep.div_eq hx).2]
    exact Double.toRat_le_iff.mp (Double.ceilInt_le_iff.mp hq)
  unfold lowerEnd leastInteger
  split
  · obtain ⟨hfinite, hepsilon⟩ := Constraints.epsilon_eq h.isFinite
    have hclose := Constraints.rounded_moved_close h.isFinite (.inl rfl)
    have hmoved := Double.scaled_add h.isFinite hfinite
    rw [h.scaled_eq] at hepsilon hclose hmoved
    obtain ⟨hend, hscaled⟩ := h.moved_eq (Double.isNaN_add h.isFinite hfinite) hmoved (by omega)
    refine ⟨hend, fun q hq => ?_⟩
    have hle := hquotient hend hq
    rw [hscaled] at hle
    have := Double.lt_mul_of_rounded_le hstep.positive hstep.bounded hepsilon hclose hle
    omega
  · refine ⟨h.isFinite, fun q hq => ?_⟩
    have hle := hquotient h.isFinite hq
    rw [h.scaled_eq] at hle
    exact Double.le_mul_of_rounded_le hstep.positive hstep.bounded h.small hle

/-- As `IsWhole.lowerEnd_spec`, downward. -/
theorem IsWhole.upperEnd_spec (h : bound.IsWhole a) (hstep : step.IsWholeStep whole) :
    bound.upperEnd.isFinite = true ∧
      ∀ q, q ≤ (bound.upperEnd / step).floorInt → q * whole ≤ bound.greatestInteger a := by
  have hquotient {x : Double} (hx : x.isFinite = true) {q : Int} (hq : q ≤ (x / step).floorInt) :
      q * one ≤ rounded x.scaled whole := by
    rw [← (hstep.div_eq hx).2]
    exact Double.le_toRat_iff.mp (Double.le_floorInt_iff.mp hq)
  unfold upperEnd greatestInteger
  split
  · obtain ⟨hfinite, hepsilon⟩ := Constraints.epsilon_eq h.isFinite
    have hclose := Constraints.rounded_moved_close h.isFinite (.inr rfl)
    have hmoved := Double.scaled_sub h.isFinite hfinite
    rw [h.scaled_eq] at hepsilon hclose hmoved
    obtain ⟨hend, hscaled⟩ := h.moved_eq (Double.isNaN_sub h.isFinite hfinite) hmoved (by omega)
    refine ⟨hend, fun q hq => ?_⟩
    have hle := hquotient hend hq
    rw [hscaled] at hle
    have := Double.mul_lt_of_le_rounded hstep.positive hstep.bounded hepsilon hclose hle
    omega
  · refine ⟨h.isFinite, fun q hq => ?_⟩
    have hle := hquotient h.isFinite hq
    rw [h.scaled_eq] at hle
    exact Double.mul_le_of_le_rounded hstep.positive hstep.bounded h.small hle

end Bound

/-- Both bounds, where they are given, are integers of at most 53 bits. -/
structure Constraints.HasWholeBounds (set : Constraints) : Prop where
  minimum : ∀ bound ∈ set.minimum, ∃ value, bound.IsWhole value
  maximum : ∀ bound ∈ set.maximum, ∃ value, bound.IsWhole value

end Specimen
