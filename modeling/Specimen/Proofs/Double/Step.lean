import Mathlib.Tactic.Ring
import Specimen.Instance.Number
import Specimen.Proofs.Constraint.IntegerBounds
import Specimen.Proofs.Double.Whole

/-!
# Specimen.Proofs.Double.Step

Steps that are integers (`Double.IsWholeStep`), and what dividing and multiplying by one does.

The quotient of an integer of at most 53 bits is exact enough that no factor from it on leads below the
integer (`le_mul_of_rounded_le`), and the quotient of an integer that was moved by its epsilon still
tells it from the integer itself (`lt_mul_of_rounded_le`).
-/

namespace Specimen.Double

variable {x step : Double} {whole : Nat} {a q : Int}

/-! ### Integers -/

/-- A positive number below the limit is finite. -/
theorem isFinite_of_scaled (hpos : 0 < x.scaled) (hlt : x.scaled < 2 ^ limitBits) :
    x.isFinite = true := by
  have hnan : x.isNaN = false := by
    cases x with
    | finite negative magnitude => rfl
    | infinite negative => rfl
    | nan => exact absurd hpos (Int.lt_irrefl _)
  have hlimit : (0 : Int) < 2 ^ limitBits := Int.pow_pos (by decide)
  rw [isFinite_iff hnan]
  omega

/-- A multiple of one is integral. -/
theorem isIntegral_of_scaled (hx : x.isFinite = true) (h : x.scaled = a * one) :
    x.isIntegral = true := by
  obtain ⟨negative, magnitude, rfl⟩ := exists_of_isFinite hx
  have hmod : magnitude.units % one = 0 := by
    rw [← natAbs_scaled negative, h, Int.natAbs_mul, Int.natAbs_natCast, Nat.mul_mod_left]
  simpa [isIntegral] using hmod

/-- An integral number is a multiple of one. -/
theorem exists_scaled_eq_of_isIntegral (h : x.isIntegral = true) : ∃ a : Int, x.scaled = a * one := by
  obtain ⟨a, ha⟩ : (one : Int) ∣ x.scaled := by
    cases x with
    | finite negative magnitude =>
      have hmod : magnitude.units % one = 0 := by simpa [isIntegral] using h
      rw [Int.natCast_dvd, natAbs_scaled]
      exact Nat.dvd_of_mod_eq_zero hmod
    | infinite negative => cases h
    | nan => cases h
  exact ⟨a, by rw [ha, Int.mul_comm]⟩

/-- An integer is moved into the range only. -/
theorem toIntClamped_of_scaled {lo hi : Int} (hx : x.isFinite = true) (h : x.scaled = a * one) :
    x.toIntClamped lo hi = max lo (min hi a) := by
  obtain ⟨negative, magnitude, rfl⟩ := exists_of_isFinite hx
  show max lo (min hi (finite negative magnitude).truncInt) = _
  rw [truncInt_eq_tdiv, h, Int.mul_tdiv_cancel _ (Int.ne_of_gt one_pos_int)]

/-- An integral number within the limits is converted as it is. -/
theorem toIntClamped_eq {lo hi : Int} (hx : x.isFinite = true) (h : x.scaled = a * one)
    (hlo : lo ≤ a) (hhi : a ≤ hi) : x.toIntClamped lo hi = a := by
  rw [toIntClamped_of_scaled hx h]
  omega

/-! ### Whole steps -/

/-- A number is a whole multiple of a step. -/
def IsMultiple (step : Double) (number : ℚ) : Prop := ∃ factor : Int, number = factor * step.toRat

/-- Multiples of a whole step are found by division of integers. -/
theorem isMultiple_iff_dvd (h : step.toRat = whole) {number : Int} :
    step.IsMultiple number ↔ (whole : Int) ∣ number := by
  unfold IsMultiple
  rw [h]
  constructor
  · rintro ⟨factor, hfactor⟩
    exact ⟨factor, by rw [Int.mul_comm]; exact_mod_cast hfactor⟩
  · rintro ⟨factor, rfl⟩
    exact ⟨factor, by push_cast; ring⟩

theorem scaled_of_toRat (h : step.toRat = whole) : step.scaled = whole * one :=
  toRat_eq_iff.mp (by exact_mod_cast h)

/-- Neither an infinity nor `nan` stands for a small integer. -/
theorem isFinite_of_toRat (hpositive : 0 < whole) (hbounded : whole ≤ 2 ^ 64)
    (h : step.toRat = whole) : step.isFinite = true := by
  have hlimit : (2 ^ 64 * one : Int) < 2 ^ limitBits := by decide +kernel
  have hle : (whole : Int) * one ≤ 2 ^ 64 * one :=
    Int.mul_le_mul_of_nonneg_right (by omega) (Int.le_of_lt one_pos_int)
  refine isFinite_of_scaled ?_ ?_
  · rw [scaled_of_toRat h]
    exact Int.mul_pos (by omega) one_pos_int
  · rw [scaled_of_toRat h]
    exact Int.lt_of_le_of_lt hle hlimit

/-- A step that is an integer from one to `2 ^ 63`. -/
structure IsWholeStep (step : Double) (whole : Nat) : Prop where
  positive : 0 < whole
  bounded : whole ≤ 2 ^ 63
  toRat_eq : step.toRat = whole

/-- A whole step is a multiple of one. -/
theorem IsWholeStep.scaled_eq (h : step.IsWholeStep whole) : step.scaled = whole * one :=
  scaled_of_toRat h.toRat_eq

theorem IsWholeStep.scaled_le (h : step.IsWholeStep whole) : step.scaled ≤ 2 ^ 63 * one := by
  have hbounded := h.bounded
  rw [h.scaled_eq]
  exact Int.mul_le_mul_of_nonneg_right (by omega) (Int.le_of_lt one_pos_int)

theorem IsWholeStep.scaled_pos (h : step.IsWholeStep whole) : 0 < step.scaled := by
  have hpositive := h.positive
  rw [h.scaled_eq]
  exact Int.mul_pos (by omega) one_pos_int

theorem IsWholeStep.isFinite (h : step.IsWholeStep whole) : step.isFinite = true :=
  isFinite_of_toRat h.positive (Nat.le_trans h.bounded (by decide)) h.toRat_eq

/-- A whole step is converted as it is. -/
theorem IsWholeStep.toInt128_eq (h : step.IsWholeStep whole) : step.toInt128 = whole := by
  have hbounded := h.bounded
  exact toIntClamped_eq h.isFinite h.scaled_eq (by omega) (by omega)

theorem IsWholeStep.isIntegral (h : step.IsWholeStep whole) : step.isIntegral = true :=
  isIntegral_of_scaled h.isFinite h.scaled_eq

theorem IsWholeStep.isIntegralStep (h : step.IsWholeStep whole) :
    Instance.isIntegralStep step = true := by
  have hend : (ofNat (2 ^ 63)).scaled = 2 ^ 63 * one := by decide +kernel
  have hlimit : step ≤ ofNat (2 ^ 63) := by
    rw [le_iff (isNaN_of_isFinite h.isFinite) (isNaN_ofNat _), hend]
    exact h.scaled_le
  simp [Instance.isIntegralStep, h.isIntegral, hlimit]

theorem toRat_ofNat (whole : Nat) (hsmall : whole ≤ 2 ^ 53) : (ofNat whole).toRat = whole := by
  have hscaled : (ofNat whole).scaled = (whole : Int) * one := by
    unfold ofNat
    rw [scaled_ofInt (by omega), nearest_eq_self (by omega)]
  exact_mod_cast toRat_eq_iff.mpr hscaled

/-- Numbers up to 2^53 are whole steps. -/
theorem isWholeStep_ofNat (whole : Nat) (hpositive : 0 < whole) (hsmall : whole ≤ 2 ^ 53) :
    (ofNat whole).IsWholeStep whole :=
  ⟨hpositive, by omega, toRat_ofNat whole hsmall⟩

theorem IsWholeStep.isMultiple_iff (h : step.IsWholeStep whole) {number : Int} :
    step.IsMultiple number ↔ (whole : Int) ∣ number := isMultiple_iff_dvd h.toRat_eq

/-! ### Factors of a whole step -/

/-- A quotient by a whole step is rounded to the units of the format only. -/
theorem IsWholeStep.div_eq (h : step.IsWholeStep whole) (hx : x.isFinite = true) :
    (x / step).isFinite = true ∧ (x / step).scaled = rounded x.scaled whole := by
  have hpositive : (1 : Int) ≤ whole := by exact_mod_cast h.positive
  have hunits : step.scaled.toNat = whole * one := by
    rw [h.scaled_eq]
    exact_mod_cast Int.toNat_natCast (whole * one)
  have hquotient := scaled_div hx h.isFinite h.scaled_pos
  rw [hunits, rounded_mul_mul one_pos] at hquotient
  have hlimit := (isFinite_iff (isNaN_of_isFinite hx)).mp hx
  have hwithin : min 0 x.scaled ≤ rounded x.scaled whole ∧
      rounded x.scaled whole ≤ max 0 x.scaled := by
    refine rounded_within h.positive (representable_scaled hx) ?_
    rcases Int.le_total 0 x.scaled with hpos | hneg
    · exact .inl ⟨hpos, le_mul_of_one_le_right hpos hpositive⟩
    · exact .inr ⟨mul_le_of_one_le_right hneg hpositive, hneg⟩
  exact finite_of_eq_clip (isNaN_div hx h.isFinite h.scaled_pos) hquotient (by omega) (by omega)

/-- Rounding treats both signs alike. -/
theorem rounded_neg (a : Int) (d : Nat) : rounded (-a) d = -rounded a d := by
  rcases Int.lt_trichotomy a 0 with hneg | rfl | hpos
  · simp [rounded, hneg, Int.le_of_lt hneg]
  · simp [rounded_zero]
  · simp [rounded, hpos, Int.not_lt.mpr (Int.le_of_lt hpos)]

/-- An integer other than zero has at least the units of one. -/
theorem one_le_natAbs_mul_one (a : Int) : a = 0 ∨ one ≤ (a * one).natAbs := by
  by_cases h : a = 0
  · exact .inl h
  · rw [Int.natAbs_mul, Int.natAbs_natCast]
    exact .inr (Nat.le_mul_of_pos_left one (Int.natAbs_pos.mpr h))

/-- From the quotient of an integer on, the factors lead at least to it. -/
theorem le_mul_of_rounded_le (hpositive : 0 < whole) (hbounded : whole ≤ 2 ^ 63)
    (ha : a.natAbs < 2 ^ 53) (h : rounded (a * one) whole ≤ q * one) : a ≤ q * whole := by
  have hone : (2 ^ 200 : Int) ≤ one := by decide +kernel
  have hfactor := Int.mul_le_mul_of_nonneg_right h (Int.natCast_nonneg whole)
  rw [Int.mul_right_comm] at hfactor
  rcases one_le_natAbs_mul_one a with rfl | hsize
  · rw [Int.zero_mul, rounded_zero] at h
    exact Int.mul_nonneg (nonneg_of_mul_nonneg_left h (by omega)) (Int.natCast_nonneg whole)
  · have hclose := rounded_close hpositive (a := a * one) (by omega)
    have hlimit : (a * one).natAbs < 2 ^ 53 * one := by
      rw [Int.natAbs_mul, Int.natAbs_natCast]
      exact Nat.mul_lt_mul_of_pos_right ha one_pos
    refine Int.not_lt.mp fun hlt => ?_
    have hbound := Int.mul_le_mul_of_nonneg_right hlt (Int.natCast_nonneg one)
    rw [Int.add_mul, Int.one_mul] at hbound
    omega

/-- From the quotient of an exclusive end on, the factors lead beyond its bound. -/
theorem lt_mul_of_rounded_le {epsilon moved : Int} (hpositive : 0 < whole)
    (hbounded : whole ≤ 2 ^ 63) (hepsilon : 2 ^ 50 * epsilon = max ((a * one).natAbs : Int) one)
    (hmoved : 4 * (moved - (a * one + epsilon)).natAbs ≤ epsilon)
    (h : rounded moved whole ≤ q * one) : a < q * whole := by
  have hone : (2 ^ 200 : Int) ≤ one := by decide +kernel
  have hsize : 2 ^ 52 * whole ≤ moved.natAbs := by
    rcases one_le_natAbs_mul_one a with rfl | hunits
    · omega
    · omega
  have hclose := rounded_close hpositive hsize
  have hfactor := Int.mul_le_mul_of_nonneg_right h (Int.natCast_nonneg whole)
  refine Int.not_le.mp fun hle => ?_
  have hbound := Int.mul_le_mul_of_nonneg_right hle (Int.natCast_nonneg one)
  rw [Int.mul_right_comm] at hfactor
  omega

/-- As `le_mul_of_rounded_le`, downward. -/
theorem mul_le_of_le_rounded (hpositive : 0 < whole) (hbounded : whole ≤ 2 ^ 63)
    (ha : a.natAbs < 2 ^ 53) (h : q * one ≤ rounded (a * one) whole) : q * whole ≤ a := by
  have hneg : rounded (-a * one) whole ≤ -q * one := by
    rw [Int.neg_mul, Int.neg_mul, rounded_neg]
    omega
  have := le_mul_of_rounded_le hpositive hbounded (by omega) hneg
  rw [Int.neg_mul] at this
  omega

/-- As `lt_mul_of_rounded_le`, downward. -/
theorem mul_lt_of_le_rounded {epsilon moved : Int} (hpositive : 0 < whole)
    (hbounded : whole ≤ 2 ^ 63) (hepsilon : 2 ^ 50 * epsilon = max ((a * one).natAbs : Int) one)
    (hmoved : 4 * (moved - (a * one - epsilon)).natAbs ≤ epsilon)
    (h : q * one ≤ rounded moved whole) : q * whole < a := by
  have hneg : rounded (-moved) whole ≤ -q * one := by
    rw [Int.neg_mul, rounded_neg]
    omega
  have hepsilon' : 2 ^ 50 * epsilon = max ((-a * one).natAbs : Int) one := by
    rw [Int.neg_mul]
    omega
  have hmoved' : 4 * (-moved - (-a * one + epsilon)).natAbs ≤ epsilon := by
    rw [Int.neg_mul]
    omega
  have := lt_mul_of_rounded_le hpositive hbounded hepsilon' hmoved' hneg
  rw [Int.neg_mul] at this
  omega

/-! ### Products with a whole step -/

/-- A number of 64 bits is finite. -/
theorem isFinite_ofInt (h : a.natAbs < 2 ^ 64) : (ofInt a).isFinite = true := by
  have hfits : Representable (roundUnits (a.natAbs * one) 1) := by
    rw [roundUnits_mul_one]
    exact representable_roundUnits h
  unfold ofInt ofRatio
  dsimp only
  rw [dif_pos hfits]
  rfl

theorem toInt64_ofInt (h : a.natAbs ≤ 2 ^ 53) : (ofInt a).toInt64 = a :=
  toIntClamped_eq (isFinite_ofInt (by omega)) (scaled_ofInt_of_le h) (by omega) (by omega)

/-- A product with a whole step is the exact product, rounded. -/
theorem IsWholeStep.scaled_mul (h : step.IsWholeStep whole) (hx : x.isFinite = true) :
    (x * step).scaled = clip (rounded (x.scaled * whole) 1) := by
  rw [Double.scaled_mul hx h.isFinite, h.scaled_eq, ← Int.mul_assoc]
  congr 1
  have hcancel := rounded_mul_mul (d := 1) (a := x.scaled * whole) one_pos
  rwa [Nat.one_mul] at hcancel

/-- Rounding the product of a factor and a step does not lead below an integer. -/
theorem IsWholeStep.le_mul (h : step.IsWholeStep whole) {factor : Int} (hq : q.natAbs ≤ 2 ^ 53)
    (hfactor : factor.natAbs < 2 ^ 64) (hle : q ≤ factor) (ha : a ≤ q * whole) :
    (ofInt a).scaled ≤ (ofInt factor * step).scaled := by
  rw [h.scaled_mul (isFinite_ofInt hfactor), scaled_ofInt_eq a]
  refine clip_le_clip (rounded_le_rounded ?_)
  calc a * one ≤ q * whole * one := Int.mul_le_mul_of_nonneg_right ha (Int.natCast_nonneg _)
    _ = (ofInt q).scaled * whole := by rw [scaled_ofInt_of_le hq, Int.mul_right_comm]
    _ ≤ (ofInt factor).scaled * whole :=
      Int.mul_le_mul_of_nonneg_right (scaled_ofInt_le_scaled_ofInt hle) (Int.natCast_nonneg _)

/-- A multiple of a whole step that is at most a bound stays so when it is rounded. -/
theorem IsWholeStep.mul_le (h : step.IsWholeStep whole) {factor : Int} (hq : q.natAbs ≤ 2 ^ 53)
    (hfactor : factor.natAbs < 2 ^ 64) (hle : factor ≤ q) (ha : q * whole ≤ a) :
    (ofInt factor * step).scaled ≤ (ofInt a).scaled := by
  rw [h.scaled_mul (isFinite_ofInt hfactor), scaled_ofInt_eq a]
  refine clip_le_clip (rounded_le_rounded ?_)
  calc (ofInt factor).scaled * whole ≤ (ofInt q).scaled * whole :=
        Int.mul_le_mul_of_nonneg_right (scaled_ofInt_le_scaled_ofInt hle) (Int.natCast_nonneg _)
    _ = q * whole * one := by rw [scaled_ofInt_of_le hq, Int.mul_right_comm]
    _ ≤ a * one := Int.mul_le_mul_of_nonneg_right ha (Int.natCast_nonneg _)

end Specimen.Double
