import Specimen.Double.Decimal
import Specimen.Proofs.Double.Arithmetic

/-!
# Specimen.Proofs.Double.Whole

Whole doubles: rounding to one does not lead past another (`le_roundInt`), and
the text of one has no places behind the point (`decimalPlaces_of_isIntegral`).
-/

namespace Specimen.Double

variable {x y : Double} {a b : Int}

/-! ### Integers as doubles -/

/-- An integer becomes the nearest double, within the limits. -/
theorem scaled_ofInt_eq (a : Int) : (ofInt a).scaled = clip (rounded (a * one) 1) := by
  have hsign : decide (a < 0) = decide (a * one < 0) :=
    decide_eq_decide.mpr (mul_neg_iff one_pos).symm
  have hsize : a.natAbs * one = (a * one).natAbs := by rw [Int.natAbs_mul, Int.natAbs_natCast]
  unfold ofInt
  rw [hsign, hsize, scaled_ofRatio_natAbs]

/-- Integers up to 2^53 are kept exactly. -/
theorem scaled_ofInt_of_le (h : a.natAbs ≤ 2 ^ 53) : (ofInt a).scaled = a * one := by
  rw [scaled_ofInt (by omega), nearest_eq_self h]

/-- Conversion keeps the order. -/
theorem scaled_ofInt_le_scaled_ofInt (h : a ≤ b) : (ofInt a).scaled ≤ (ofInt b).scaled := by
  rw [scaled_ofInt_eq, scaled_ofInt_eq]
  refine clip_le_clip (rounded_le_rounded ?_)
  exact Int.mul_le_mul_of_nonneg_right h (Int.natCast_nonneg _)

theorem scaled_integral (h : x.isFinite = true) (a : Int) :
    (integral x a).scaled = (ofInt a).scaled := by
  obtain ⟨negative, magnitude, rfl⟩ := exists_of_isFinite h
  unfold integral
  dsimp only
  split
  · rename_i hzero
    rw [hzero, scaled_ofInt_of_le (by decide), Int.zero_mul]
    cases negative <;> rfl
  · rfl

theorem isNaN_integral (h : x.isFinite = true) (a : Int) : (integral x a).isNaN = false := by
  obtain ⟨negative, magnitude, rfl⟩ := exists_of_isFinite h
  unfold integral
  dsimp only
  split
  · rfl
  · exact isNaN_ofInt a

/-! ### Rounding to whole doubles -/

/-- The integer to which a double is rounded. -/
def roundInt (x : Double) : Int :=
  let size := (2 * x.scaled.natAbs + one) / (2 * one)
  if x.scaled < 0 then -(size : Int) else size

/-- The rounded integer is at most half a one away. -/
theorem roundInt_close (x : Double) :
    2 * (x.roundInt * one) ≤ 2 * x.scaled + one ∧ 2 * x.scaled ≤ 2 * (x.roundInt * one) + one := by
  have hdiv := Nat.div_add_mod (2 * x.scaled.natAbs + one) (2 * one)
  have hmod := Nat.mod_lt (2 * x.scaled.natAbs + one) (Nat.mul_pos Nat.two_pos one_pos)
  unfold roundInt
  dsimp only
  generalize (2 * x.scaled.natAbs + one) / (2 * one) = size at hdiv hmod ⊢
  have hsize : ((one * size : Nat) : Int) = (size : Int) * one := by
    rw [Nat.mul_comm, Int.natCast_mul]
  rw [Nat.mul_assoc] at hdiv
  split
  · rw [Int.neg_mul, ← hsize]
    omega
  · rw [← hsize]
    omega

/-- Rounding does not go below an integer under the number. -/
theorem le_roundInt (h : a * one ≤ x.scaled) : a ≤ x.roundInt := by
  have hclose := roundInt_close x
  have hpos : (0 : Int) < one := Int.natCast_pos.mpr one_pos
  refine Int.not_lt.mp fun hlt => ?_
  have hsucc := Int.mul_le_mul_of_nonneg_right hlt (Int.le_of_lt hpos)
  rw [Int.add_mul, Int.one_mul] at hsucc
  omega

/-- Rounding does not go beyond an integer above the number. -/
theorem roundInt_le (h : x.scaled ≤ a * one) : x.roundInt ≤ a := by
  have hclose := roundInt_close x
  have hpos : (0 : Int) < one := Int.natCast_pos.mpr one_pos
  refine Int.not_lt.mp fun hlt => ?_
  have hsucc := Int.mul_le_mul_of_nonneg_right hlt (Int.le_of_lt hpos)
  rw [Int.add_mul, Int.one_mul] at hsucc
  omega

theorem isNaN_ceil (h : x.isFinite = true) : x.ceil.isNaN = false := isNaN_integral h x.ceilInt

theorem isNaN_floor (h : x.isFinite = true) : x.floor.isNaN = false := isNaN_integral h x.floorInt

theorem scaled_ceil (h : x.isFinite = true) : x.ceil.scaled = (ofInt x.ceilInt).scaled :=
  scaled_integral h x.ceilInt

theorem scaled_floor (h : x.isFinite = true) : x.floor.scaled = (ofInt x.floorInt).scaled :=
  scaled_integral h x.floorInt

theorem scaled_round (h : x.isFinite = true) : x.round.scaled = (ofInt x.roundInt).scaled :=
  scaled_integral h x.roundInt

/-! ### One as a factor -/

/-- A factor of one changes nothing. -/
theorem mul_one_eq (h : x.isFinite = true) :
    (x * ofNat 1).isFinite = true ∧ (x * ofNat 1).scaled = x.scaled :=
  mul_eq_of_representable h isFinite_one (by rw [scaled_one]) (representable_scaled h)

theorem div_one_eq (h : x.isFinite = true) : (x / ofNat 1).scaled = x.scaled := by
  have hpos : 0 < (ofNat 1).scaled := by
    rw [scaled_one]
    exact Int.natCast_pos.mpr one_pos
  rw [scaled_div h isFinite_one hpos, scaled_one, Int.toNat_natCast,
    rounded_mul_self one_pos (representable_scaled h), clip_scaled]

/-! ### What is finite in the end -/

/-- Only finite numbers have a finite product. -/
theorem isFinite_of_mul (h : (x * y).isFinite = true) : x.isFinite = true := by
  cases x with
  | finite negative magnitude => rfl
  | infinite negative =>
    cases y with
    | finite other magnitude =>
      change (if magnitude.units = 0 then nan else infinite (negative ^^ other)).isFinite = true at h
      split at h <;> cases h
    | infinite other => cases h
    | nan => cases h
  | nan => cases h

theorem isFinite_of_div (h : (x / y).isFinite = true) : x.isFinite = true := by
  cases x with
  | finite negative magnitude => rfl
  | infinite negative => cases y <;> cases h
  | nan => cases h

theorem isFinite_of_round (h : x.round.isFinite = true) : x.isFinite = true := by
  cases x with
  | finite negative magnitude => rfl
  | infinite negative => cases h
  | nan => cases h

/-! ### Places behind the point -/

section Places

variable {magnitude : Magnitude} {n : Nat}

/-- Dropping zeros only raises the exponent. -/
theorem le_dropZeros_exponent (fuel digits : Nat) (exponent : Int) :
    exponent ≤ (dropZeros fuel digits exponent).exponent := by
  induction fuel generalizing digits exponent with
  | zero => exact Int.le_refl _
  | succ fuel ih =>
    unfold dropZeros
    split
    · exact Int.le_trans (by omega) (ih (digits / 10) (exponent + 1))
    · exact Int.le_refl _

/-- The digits of a whole number read back to it. -/
theorem ofDecimal_zero_eq (hn : n ≠ 0) (hunits : magnitude.units = n * one) :
    ofDecimal false n 0 = .finite false magnitude := by
  have hlimit : n < 10 ^ 400 := by
    have hfits := magnitude.representable.2
    have hlast : 2 ^ limitBits = 2 ^ 1024 * one := by decide +kernel
    rw [hunits, hlast] at hfits
    exact Nat.lt_trans (Nat.lt_of_mul_lt_mul_right hfits) (by decide +kernel)
  have hlength : (Nat.repr n).length ≤ 400 := (Nat.length_repr_le_iff (by decide)).mpr hlimit
  have hround : roundUnits (n * one) 1 = magnitude.units := by
    rw [← hunits]
    exact roundUnits_eq_self magnitude.representable
  unfold ofDecimal
  dsimp only
  rw [if_neg (by omega), if_neg (by omega), if_pos (Int.le_refl 0), Int.toNat_zero, Nat.pow_zero,
    Nat.mul_one]
  unfold ofRatio
  simp [hround, magnitude.representable]

/-- A grid of whole numbers is reached before one with places behind the point, and fits. -/
theorem shortestFrom_exponent_nonneg (hn : n ≠ 0) (hunits : magnitude.units = n * one)
    (leading : Int) (fuel : Nat) (h : 0 ≤ leading - 17 + fuel) :
    0 ≤ (shortestFrom magnitude leading fuel).exponent := by
  induction fuel with
  | zero => exact Int.le_refl _
  | succ fuel ih =>
    unfold shortestFrom
    dsimp only
    split
    · exact Int.le_trans (by omega) (le_dropZeros_exponent ..)
    · rename_i hnone
      refine ih (Int.not_lt.mp fun hlast => ?_)
      -- On the grid of ones the number itself is a candidate.
      rw [show leading - 16 + fuel = 0 by omega, hunits] at hnone
      have hcandidate : n ∈ neighbours (n * one) 0 := by
        simp [neighbours, Nat.mul_div_cancel n one_pos, roundDiv_mul_self one_pos]
      have hfails := List.find?_eq_none.mp hnone n hcandidate
      rw [ofDecimal_zero_eq hn hunits] at hfails
      simp at hfails

/-- A number of at least one has no negative exponent. -/
theorem leadingExponent_nonneg (hn : n ≠ 0) : 0 ≤ leadingExponent (n * one) := by
  have hshift : n * one * 10 ^ 330 / one = n * 10 ^ 330 := by
    rw [Nat.mul_right_comm, Nat.mul_div_cancel _ one_pos]
  have hlength : ¬(Nat.repr (n * 10 ^ 330)).length ≤ 330 := by
    rw [Nat.length_repr_le_iff (by decide), Nat.not_lt]
    exact Nat.le_mul_of_pos_left _ (Nat.pos_of_ne_zero hn)
  unfold leadingExponent
  rw [hshift]
  omega

/-- A whole number is written without places behind the point. -/
theorem decimalPlaces_of_isIntegral (h : x.isIntegral = true) : x.decimalPlaces = 0 := by
  cases x with
  | finite negative magnitude =>
    have hunits : magnitude.units = magnitude.units / one * one := by
      have := Nat.div_add_mod' magnitude.units one
      have hmod : magnitude.units % one = 0 := by simpa [isIntegral] using h
      omega
    have hexponent : 0 ≤ (shortest magnitude).exponent := by
      unfold shortest
      split
      · exact Int.le_refl _
      · rename_i hzero
        have hn : magnitude.units / one ≠ 0 := by
          intro hquotient
          rw [hquotient, Nat.zero_mul] at hunits
          exact hzero hunits
        have hleading := leadingExponent_nonneg hn
        rw [← hunits] at hleading
        exact shortestFrom_exponent_nonneg hn hunits _ 17 (by omega)
    unfold decimalPlaces
    dsimp only
    omega
  | infinite negative => rfl
  | nan => rfl

end Places

end Specimen.Double
