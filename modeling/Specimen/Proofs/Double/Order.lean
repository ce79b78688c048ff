import Specimen.Double.Basic

/-!
# Specimen.Proofs.Double.Order

The order of doubles and what moving their integer parts into a range keeps of it
(`Double.toIntClamped_le_toIntClamped`). `nan` lies outside the order, and its integer part is zero.
-/

namespace Specimen.Double

variable {x y : Double} {lo hi : Int}

/-- A quotient of counts is a number. -/
theorem isNaN_ofRatio (negative : Bool) (numerator denominator : Nat) :
    (ofRatio negative numerator denominator).isNaN = false := by
  unfold ofRatio
  dsimp only
  split <;> rfl

theorem isNaN_ofInt (value : Int) : (ofInt value).isNaN = false := isNaN_ofRatio ..

theorem isNaN_ofNat (value : Nat) : (ofNat value).isNaN = false := isNaN_ofInt value

theorem isNaN_of_isFinite (h : x.isFinite = true) : x.isNaN = false := by
  cases x <;> simp_all [isFinite, isNaN]

/-- A finite number has a sign and a magnitude. -/
theorem exists_of_isFinite (h : x.isFinite = true) :
    ∃ negative magnitude, x = .finite negative magnitude := by
  cases x with
  | finite negative magnitude => exact ⟨negative, magnitude, rfl⟩
  | infinite negative => cases h
  | nan => cases h

/-- Doubles are compared by their signed numbers of units. -/
theorem lt_iff (hx : x.isNaN = false) (hy : y.isNaN = false) : x < y ↔ x.scaled < y.scaled := by
  show x.lt y = true ↔ _
  simp [lt, hx, hy]

/-- Numbers are ordered by what they stand for. -/
theorem le_iff (hx : x.isNaN = false) (hy : y.isNaN = false) : x ≤ y ↔ x.scaled ≤ y.scaled := by
  show x.le y = true ↔ _
  simp [le, hx, hy]

/-- Numbers are equal if they stand for the same; the sign of zero does not count. -/
theorem beq_iff : (x == y) = true ↔ x.isNaN = false ∧ y.isNaN = false ∧ x.scaled = y.scaled := by
  show x.beq y = true ↔ _
  simp [Double.beq, and_assoc]

theorem scaled_le_of_le (h : x ≤ y) : x.scaled ≤ y.scaled := by
  change x.le y = true at h
  simp only [le, Bool.and_eq_true, decide_eq_true_eq] at h
  exact h.2

/-- Only numbers are compared. -/
theorem isNaN_of_le (h : x ≤ y) : x.isNaN = false ∧ y.isNaN = false := by
  change x.le y = true at h
  simpa [le, and_assoc] using And.left (Bool.and_eq_true_iff.mp h)

theorem not_lt_of_le (h : x ≤ y) : ¬y < x := by
  obtain ⟨hx, hy⟩ := isNaN_of_le h
  rw [lt_iff hy hx]
  exact Int.not_lt.mpr (scaled_le_of_le h)

/-- Numbers are ordered linearly. -/
theorem lt_of_not_le (hx : x.isNaN = false) (hy : y.isNaN = false) (h : ¬x ≤ y) : y < x := by
  rw [le_iff hx hy] at h
  rw [lt_iff hy hx]
  exact Int.not_le.mp h

/-- Of two doubles that are numbers one is at most the other. -/
theorem scaled_le_of_not_lt (hx : x.isNaN = false) (hy : y.isNaN = false) (h : ¬y < x) :
    x.scaled ≤ y.scaled := by
  rw [lt_iff hy hx] at h
  omega

/-- The greater of two numbers is the one that stands for more. -/
theorem scaled_max (hx : x.isNaN = false) (hy : y.isNaN = false) :
    (x.max y).scaled = max x.scaled y.scaled := by
  unfold Double.max
  simp only [hx, hy, lt_iff hx hy, Bool.false_eq_true, if_false]
  split <;> omega

theorem scaled_min (hx : x.isNaN = false) (hy : y.isNaN = false) :
    (x.min y).scaled = min x.scaled y.scaled := by
  unfold Double.min
  simp only [hx, hy, lt_iff hy hx, Bool.false_eq_true, if_false]
  split <;> omega

/-- The greater of two numbers is one of them. -/
theorem max_eq_or (x y : Double) : x.max y = x ∨ x.max y = y := by
  unfold Double.max
  repeat' split
  all_goals simp

theorem min_eq_or (x y : Double) : x.min y = x ∨ x.min y = y := by
  unfold Double.min
  repeat' split
  all_goals simp

theorem isFinite_max (hx : x.isFinite = true) (hy : y.isFinite = true) :
    (x.max y).isFinite = true := by
  rcases max_eq_or x y with h | h <;> simp [h, hx, hy]

theorem isNaN_max (hx : x.isNaN = false) (hy : y.isNaN = false) : (x.max y).isNaN = false := by
  rcases max_eq_or x y with h | h <;> simp [h, hx, hy]

theorem isNaN_min (hx : x.isNaN = false) (hy : y.isNaN = false) : (x.min y).isNaN = false := by
  rcases min_eq_or x y with h | h <;> simp [h, hx, hy]

theorem isFinite_abs (x : Double) : x.abs.isFinite = x.isFinite := by
  cases x <;> rfl

theorem scaled_abs (h : x.isFinite = true) : x.abs.scaled = x.scaled.natAbs := by
  obtain ⟨negative, magnitude, rfl⟩ := exists_of_isFinite h
  cases negative <;> simp [Double.abs, scaled]

/-- What is not between two ends in order is moved to the nearer one. -/
theorem clamp_between {z : Double} (hz : z.isNaN = false) (hx : x.isNaN = false)
    (hy : y.isNaN = false) (h : x.scaled ≤ y.scaled) :
    x ≤ z.clamp x y ∧ z.clamp x y ≤ y := by
  unfold clamp
  simp only [lt_iff hz hx, lt_iff hy hz]
  split
  · rw [le_iff hx hx, le_iff hx hy]
    omega
  · split
    · rw [le_iff hx hy, le_iff hy hy]
      omega
    · rw [le_iff hx hz, le_iff hz hy]
      omega

/-- The magnitude of a number does not depend on its sign. -/
theorem natAbs_scaled (negative : Bool) (magnitude : Magnitude) :
    (Double.finite negative magnitude).scaled.natAbs = magnitude.units := by
  cases negative <;> simp [scaled]

/-- Every finite double lies between the infinities. -/
theorem scaled_lt_limit {negative : Bool} {magnitude : Magnitude} :
    -(2 ^ limitBits) < (Double.finite negative magnitude).scaled ∧
      (Double.finite negative magnitude).scaled < 2 ^ limitBits := by
  have hunits := Int.ofNat_lt.mpr magnitude.representable.2
  rw [Int.natCast_pow, Int.cast_ofNat_Int] at hunits
  have hpos : (0 : Int) ≤ magnitude.units := Int.natCast_nonneg _
  generalize (2 ^ limitBits : Int) = limit at hunits ⊢
  unfold scaled
  dsimp only
  split
  · omega
  · omega

/-- Cutting off the places behind the point is a division toward zero. -/
theorem truncInt_eq_tdiv {negative : Bool} {magnitude : Magnitude} :
    (Double.finite negative magnitude).truncInt =
      (Double.finite negative magnitude).scaled.tdiv one := by
  unfold truncInt scaled
  dsimp only
  split
  · rw [Int.neg_tdiv]
    rfl
  · rfl

/-- A conversion does not go below its least result. -/
theorem le_toIntClamped (hlo : lo ≤ 0) (hlohi : lo ≤ hi) : lo ≤ x.toIntClamped lo hi := by
  cases x with
  | finite negative magnitude => exact Int.le_max_left _ _
  | infinite negative =>
    cases negative with
    | true => exact Int.le_refl _
    | false => exact hlohi
  | nan => exact hlo

/-- A conversion does not go beyond its greatest result. -/
theorem toIntClamped_le (hhi : 0 ≤ hi) (hlohi : lo ≤ hi) : x.toIntClamped lo hi ≤ hi := by
  cases x with
  | finite negative magnitude => exact Int.max_le.mpr ⟨hlohi, Int.min_le_left _ _⟩
  | infinite negative =>
    cases negative with
    | true => exact hlohi
    | false => exact Int.le_refl _
  | nan => exact hhi

/-- The integer parts of two numbers stand in the same order as the numbers. -/
theorem toIntClamped_le_toIntClamped (hlo : lo ≤ 0) (hhi : 0 ≤ hi) (hx : x.isNaN = false)
    (hy : y.isNaN = false) (h : x.scaled ≤ y.scaled) :
    x.toIntClamped lo hi ≤ y.toIntClamped lo hi := by
  have hlohi := Int.le_trans hlo hhi
  cases x with
  | nan => cases hx
  | infinite negative =>
    cases negative with
    | true => exact le_toIntClamped hlo hlohi
    | false =>
      -- Nothing but infinity itself is at least infinity.
      cases y with
      | nan => cases hy
      | infinite other =>
        cases other with
        | true =>
          have hpos : (0 : Int) < 2 ^ limitBits := Int.pow_pos (by decide)
          change (2 ^ limitBits : Int) ≤ -(2 ^ limitBits) at h
          omega
        | false => exact Int.le_refl _
      | finite other magnitude =>
        exact absurd (Int.lt_of_lt_of_le scaled_lt_limit.2 h) (Int.lt_irrefl _)
  | finite negative magnitude =>
    cases y with
    | nan => cases hy
    | infinite other =>
      cases other with
      | true => exact absurd (Int.lt_of_lt_of_le scaled_lt_limit.1 h) (Int.lt_irrefl _)
      | false => exact toIntClamped_le hhi hlohi
    | finite other magnitude' =>
      have htrunc : (Double.finite negative magnitude).truncInt ≤
          (Double.finite other magnitude').truncInt := by
        rw [truncInt_eq_tdiv, truncInt_eq_tdiv]
        exact Int.tdiv_le_tdiv (by exact_mod_cast Nat.two_pow_pos unitBits) h
      show max lo (min hi _) ≤ max lo (min hi _)
      omega

/-- Conversion keeps the order. -/
theorem toInt64_le_toInt64 (hx : x.isNaN = false) (hy : y.isNaN = false)
    (h : x.scaled ≤ y.scaled) : x.toInt64 ≤ y.toInt64 :=
  toIntClamped_le_toIntClamped (by decide) (by decide) hx hy h

end Specimen.Double
