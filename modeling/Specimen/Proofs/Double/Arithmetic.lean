import Specimen.Proofs.Double.Rounding

/-!
# Specimen.Proofs.Double.Arithmetic

What the operations on finite doubles compute: the exact result in units, rounded once
(`Double.rounded`) and cut off where the infinities lie (`Double.clip`).

Both steps keep the order, so an operation keeps the order that the exact results have; and an exact
result that is a double is the result (`rounded_eq_self`).
-/

namespace Specimen.Double

variable {x y : Double} {a b : Int} {n d : Nat}

/-! ### Cutting off -/

/-- What lies beyond the infinities is moved there. -/
def clip (units : Int) : Int := max (-(2 ^ limitBits)) (min (2 ^ limitBits) units)

/-- Cutting off at the limits keeps the order. -/
theorem clip_le_clip (h : a ≤ b) : clip a ≤ clip b := by
  unfold clip
  omega

/-- Between the limits nothing is cut off. -/
theorem clip_eq_self (hleast : -(2 ^ limitBits) ≤ a) (hgreatest : a ≤ 2 ^ limitBits) :
    clip a = a := by
  unfold clip
  omega

theorem clip_of_limit_le (h : 2 ^ limitBits ≤ a) : clip a = 2 ^ limitBits := by
  have hpos : (0 : Int) < 2 ^ limitBits := Int.pow_pos (by decide)
  unfold clip
  omega

theorem clip_of_le_neg_limit (h : a ≤ -(2 ^ limitBits)) : clip a = -(2 ^ limitBits) := by
  have hpos : (0 : Int) < 2 ^ limitBits := Int.pow_pos (by decide)
  unfold clip
  omega

/-- A number is finite if it lies strictly between the limits. -/
theorem isFinite_iff (h : x.isNaN = false) :
    x.isFinite = true ↔ -(2 ^ limitBits) < x.scaled ∧ x.scaled < 2 ^ limitBits := by
  cases x with
  | finite negative magnitude => exact ⟨fun _ => scaled_lt_limit, fun _ => rfl⟩
  | infinite negative => cases negative <;> simp [isFinite, scaled]
  | nan => cases h

/-- Between two finite doubles all doubles are finite. -/
theorem isFinite_of_between {z : Double} (hx : x.isFinite = true) (hy : y.isFinite = true)
    (hz : z.isNaN = false) (hle : x.scaled ≤ z.scaled) (hge : z.scaled ≤ y.scaled) :
    z.isFinite = true := by
  have hleast := ((isFinite_iff (isNaN_of_isFinite hx)).mp hx).1
  have hgreatest := ((isFinite_iff (isNaN_of_isFinite hy)).mp hy).2
  rw [isFinite_iff hz]
  omega

/-- What a finite number stands for is representable. -/
theorem representable_scaled (h : x.isFinite = true) : Representable x.scaled.natAbs := by
  obtain ⟨negative, magnitude, rfl⟩ := exists_of_isFinite h
  rw [natAbs_scaled]
  exact magnitude.representable

theorem clip_scaled (x : Double) : clip x.scaled = x.scaled := by
  have hpos : (0 : Int) < 2 ^ limitBits := Int.pow_pos (by decide)
  cases x with
  | finite negative magnitude =>
    exact clip_eq_self (Int.le_of_lt scaled_lt_limit.1) (Int.le_of_lt scaled_lt_limit.2)
  | infinite negative =>
    cases negative with
    | true => exact clip_of_le_neg_limit (Int.le_refl _)
    | false => exact clip_of_limit_le (Int.le_refl _)
  | nan => exact clip_eq_self (Int.neg_nonpos_of_nonneg (Int.le_of_lt hpos)) (Int.le_of_lt hpos)

/-! ### Rounded results -/

theorem roundUnits_zero (d : Nat) : roundUnits 0 d = 0 := by
  simp [roundUnits, roundDiv]

theorem rounded_zero (d : Nat) : rounded 0 d = 0 := by
  simp [rounded, roundUnits_zero]

/-- What lies between zero and a number that the format holds stays there. -/
theorem rounded_within (hd : 0 < d) (hb : Representable b.natAbs)
    (h : 0 ≤ a ∧ a ≤ b * d ∨ b * d ≤ a ∧ a ≤ 0) :
    min 0 b ≤ rounded a d ∧ rounded a d ≤ max 0 b := by
  have hself := rounded_mul_self hd hb
  have hzero := rounded_zero d
  rcases h with ⟨hpos, hle⟩ | ⟨hge, hneg⟩
  · have hleast := rounded_le_rounded (d := d) hpos
    have hgreatest := rounded_le_rounded (d := d) hle
    omega
  · have hleast := rounded_le_rounded (d := d) hge
    have hgreatest := rounded_le_rounded (d := d) hneg
    omega

/-- Rounding treats both signs alike. -/
theorem rounded_signed (negative : Bool) (n d : Nat) :
    rounded (if negative then -(n : Int) else n) d =
      if negative then -(roundUnits n d : Int) else roundUnits n d := by
  cases negative with
  | false => simp [rounded, Int.not_lt.mpr (Int.natCast_nonneg n)]
  | true =>
    rcases Nat.eq_zero_or_pos n with rfl | hn
    · simp [rounded, roundUnits_zero]
    · simp [rounded, hn]

/-- A quotient is rounded first and cut off at the limits then. -/
theorem scaled_ofRatio (negative : Bool) (n d : Nat) :
    (ofRatio negative n d).scaled = clip (rounded (if negative then -(n : Int) else n) d) := by
  rw [rounded_signed]
  unfold ofRatio
  dsimp only
  split
  · rename_i h
    exact (clip_scaled (.finite negative ⟨roundUnits n d, h⟩)).symm
  · rename_i h
    rw [representable_roundUnits_iff, Nat.not_lt] at h
    have hlarge := Int.ofNat_le.mpr h
    rw [Int.natCast_pow, Int.cast_ofNat_Int] at hlarge
    cases negative with
    | false => exact (clip_of_limit_le hlarge).symm
    | true => exact (clip_of_le_neg_limit (Int.neg_le_neg hlarge)).symm

theorem scaled_ofRatio_natAbs (a : Int) (d : Nat) :
    (ofRatio (a < 0) a.natAbs d).scaled = clip (rounded a d) := by
  have hsigned : (if decide (a < 0) = true then -(a.natAbs : Int) else a.natAbs) = a := by
    split
    · rename_i h
      have := of_decide_eq_true h
      omega
    · rename_i h
      have := of_decide_eq_false (Bool.not_eq_true _ ▸ h)
      omega
  rw [scaled_ofRatio, hsigned]

/-! ### Operations -/

theorem isNaN_add (hx : x.isFinite = true) (hy : y.isFinite = true) : (x + y).isNaN = false := by
  obtain ⟨negative, magnitude, rfl⟩ := exists_of_isFinite hx
  obtain ⟨other, magnitude', rfl⟩ := exists_of_isFinite hy
  show (Double.add _ _).isNaN = false
  unfold Double.add
  dsimp only
  split
  · rfl
  · exact isNaN_ofRatio ..

/-- A sum is the exact sum, rounded. -/
theorem scaled_add (hx : x.isFinite = true) (hy : y.isFinite = true) :
    (x + y).scaled = clip (rounded (x.scaled + y.scaled) 1) := by
  obtain ⟨negative, magnitude, rfl⟩ := exists_of_isFinite hx
  obtain ⟨other, magnitude', rfl⟩ := exists_of_isFinite hy
  show (Double.add _ _).scaled = _
  unfold Double.add
  dsimp only
  split
  · rename_i hzero
    have hresult : (finite (negative && other) .zero).scaled = rounded 0 1 := by
      cases negative <;> cases other <;> simp [scaled, Magnitude.zero, rounded, roundUnits_zero]
    rw [hzero, ← hresult, clip_scaled]
  · exact scaled_ofRatio_natAbs ..

theorem isFinite_neg (x : Double) : (-x).isFinite = x.isFinite := by
  cases x <;> rfl

theorem scaled_neg (x : Double) : (-x).scaled = -x.scaled := by
  cases x with
  | finite negative magnitude =>
    show (finite (!negative) magnitude).scaled = _
    cases negative <;> simp [scaled]
  | infinite negative =>
    show (infinite (!negative)).scaled = _
    cases negative <;> simp [scaled]
  | nan => rfl

/-- A difference of finite numbers is a number. -/
theorem isNaN_sub (hx : x.isFinite = true) (hy : y.isFinite = true) : (x - y).isNaN = false :=
  isNaN_add hx ((isFinite_neg y).trans hy)

theorem scaled_sub (hx : x.isFinite = true) (hy : y.isFinite = true) :
    (x - y).scaled = clip (rounded (x.scaled - y.scaled) 1) := by
  have hy' : (-y).isFinite = true := (isFinite_neg y).trans hy
  have hsum := scaled_add hx hy'
  rwa [scaled_neg, ← Int.sub_eq_add_neg] at hsum

theorem isNaN_mul (hx : x.isFinite = true) (hy : y.isFinite = true) : (x * y).isNaN = false := by
  obtain ⟨negative, magnitude, rfl⟩ := exists_of_isFinite hx
  obtain ⟨other, magnitude', rfl⟩ := exists_of_isFinite hy
  exact isNaN_ofRatio ..

/-- A product is the exact product, rounded. -/
theorem scaled_mul (hx : x.isFinite = true) (hy : y.isFinite = true) :
    (x * y).scaled = clip (rounded (x.scaled * y.scaled) one) := by
  obtain ⟨negative, magnitude, rfl⟩ := exists_of_isFinite hx
  obtain ⟨other, magnitude', rfl⟩ := exists_of_isFinite hy
  have hproduct : (finite negative magnitude).scaled * (finite other magnitude').scaled =
      if (negative ^^ other) then -((magnitude.units * magnitude'.units : Nat) : Int)
      else ((magnitude.units * magnitude'.units : Nat) : Int) := by
    cases negative <;> cases other
    all_goals simp only [scaled, Int.natCast_mul, Bool.xor_self, Bool.xor_true, Bool.xor_false,
      Bool.not_false, Bool.false_eq_true, if_true, if_false, Int.neg_mul, Int.mul_neg, Int.neg_neg]
  rw [hproduct]
  exact scaled_ofRatio ..

/-- A finite number times a natural one, with the sign taken out. -/
theorem scaled_finite_mul (n : Nat) :
    (finite negative magnitude).scaled * n =
      if negative then -((magnitude.units * n : Nat) : Int)
      else ((magnitude.units * n : Nat) : Int) := by
  cases negative with
  | false => exact (Int.natCast_mul _ _).symm
  | true => exact (Int.neg_mul _ _).trans (congrArg _ (Int.natCast_mul _ _).symm)

/-- A quotient by a positive number is a number. -/
theorem isNaN_div (hx : x.isFinite = true) (hy : y.isFinite = true) (hpos : 0 < y.scaled) :
    (x / y).isNaN = false := by
  obtain ⟨negative, magnitude, rfl⟩ := exists_of_isFinite hx
  obtain ⟨other, magnitude', rfl⟩ := exists_of_isFinite hy
  have hunits : magnitude'.units ≠ 0 := by
    rintro hzero
    cases other <;> simp [scaled, hzero] at hpos
  show (Double.div _ _).isNaN = false
  unfold Double.div
  dsimp only
  rw [if_neg hunits]
  exact isNaN_ofRatio ..

/-- A quotient is the exact quotient, rounded. -/
theorem scaled_div (hx : x.isFinite = true) (hy : y.isFinite = true) (hpos : 0 < y.scaled) :
    (x / y).scaled = clip (rounded (x.scaled * one) y.scaled.toNat) := by
  obtain ⟨negative, magnitude, rfl⟩ := exists_of_isFinite hx
  obtain ⟨other, magnitude', rfl⟩ := exists_of_isFinite hy
  -- A positive double has no sign.
  cases other with
  | true => simp [scaled] at hpos; omega
  | false =>
    have hunits : magnitude'.units ≠ 0 := by
      rintro hzero
      simp [scaled, hzero] at hpos
    rw [scaled_finite_mul]
    show (Double.div _ _).scaled = _
    unfold Double.div
    dsimp only
    rw [if_neg hunits, Bool.xor_false]
    exact scaled_ofRatio ..

/-! ### Exact results -/

/-- A result that is not cut off is finite. -/
theorem finite_of_eq_clip (hx : x.isNaN = false) (h : x.scaled = clip a)
    (hleast : -(2 ^ limitBits) < a) (hgreatest : a < 2 ^ limitBits) :
    x.isFinite = true ∧ x.scaled = a := by
  have hscaled : x.scaled = a := by
    rw [h, clip_eq_self (Int.le_of_lt hleast) (Int.le_of_lt hgreatest)]
  rw [isFinite_iff hx, hscaled]
  exact ⟨⟨hleast, hgreatest⟩, rfl⟩

/-- A product that the format holds is not rounded. -/
theorem mul_eq_of_representable (hx : x.isFinite = true) (hy : y.isFinite = true)
    (h : x.scaled * y.scaled = a * one) (ha : Representable a.natAbs) :
    (x * y).isFinite = true ∧ (x * y).scaled = a := by
  have hlimit := Int.ofNat_lt.mpr ha.2
  rw [Int.natCast_pow, Int.cast_ofNat_Int] at hlimit
  have hproduct := scaled_mul hx hy
  rw [h, rounded_mul_self one_pos ha] at hproduct
  exact finite_of_eq_clip (isNaN_mul hx hy) hproduct (by omega) (by omega)

/-! ### Shares -/

/-- One is finite. -/
theorem one_lt_limit : (one : Int) < 2 ^ limitBits := by
  decide +kernel

theorem isFinite_one : (ofNat 1).isFinite = true := by
  decide +kernel

theorem scaled_one : (ofNat 1).scaled = one := by
  decide +kernel

/-- A double from zero to one. -/
structure IsShare (part : Double) : Prop where
  isFinite : part.isFinite = true
  nonneg : 0 ≤ part.scaled
  le_one : part.scaled ≤ one

/-- A number between zero and one is not cut off. -/
theorem isShare_of_eq_clip (hx : x.isNaN = false) (h : x.scaled = clip a) (hleast : 0 ≤ a)
    (hgreatest : a ≤ one) : x.IsShare := by
  have hlimit := one_lt_limit
  obtain ⟨hfinite, hscaled⟩ := finite_of_eq_clip hx h (by omega) (by omega)
  exact ⟨hfinite, hscaled ▸ hleast, hscaled ▸ hgreatest⟩

theorem rounded_one_mul (hd : 0 < d) : rounded (one * d : Int) d = one :=
  rounded_mul_self hd (by decide +kernel)

/-- A quotient of counts whose first is the smaller one is a share. -/
theorem isShare_ofRatio (hd : 0 < d) (h : n ≤ one * d) : (ofRatio false n d).IsShare := by
  refine isShare_of_eq_clip (isNaN_ofRatio ..) (scaled_ofRatio false n d) ?_ ?_
  · rw [← rounded_zero d]
    exact rounded_le_rounded (Int.natCast_nonneg n)
  · rw [← rounded_one_mul hd]
    refine rounded_le_rounded ?_
    show (n : Int) ≤ one * d
    exact_mod_cast h

/-- What is left of one is a share again. -/
theorem IsShare.one_sub {part : Double} (h : part.IsShare) : (ofNat 1 - part).IsShare := by
  have hnonneg := h.nonneg
  have hle := h.le_one
  refine isShare_of_eq_clip (isNaN_sub isFinite_one h.isFinite) (scaled_sub isFinite_one h.isFinite) ?_ ?_
  · calc 0 = rounded 0 1 := (rounded_zero 1).symm
      _ ≤ rounded ((ofNat 1).scaled - part.scaled) 1 := rounded_le_rounded (by rw [scaled_one]; omega)
  · calc rounded ((ofNat 1).scaled - part.scaled) 1
        ≤ rounded (one * (1 : Nat)) 1 := rounded_le_rounded (by rw [scaled_one]; omega)
      _ = one := rounded_one_mul Nat.one_pos

/-- A share of a double does not lie beyond it. -/
theorem IsShare.isFinite_mul {part : Double} (h : part.IsShare) (hx : x.isFinite = true) :
    (x * part).isFinite = true := by
  have hlimit := (isFinite_iff (isNaN_of_isFinite hx)).mp hx
  have hwithin : min 0 x.scaled ≤ rounded (x.scaled * part.scaled) one ∧
      rounded (x.scaled * part.scaled) one ≤ max 0 x.scaled := by
    refine rounded_within one_pos (representable_scaled hx) ?_
    rcases Int.le_total 0 x.scaled with hpos | hneg
    · exact .inl ⟨Int.mul_nonneg hpos h.nonneg, Int.mul_le_mul_of_nonneg_left h.le_one hpos⟩
    · exact .inr ⟨Int.mul_le_mul_of_nonpos_left hneg h.le_one,
        Int.mul_nonpos_of_nonpos_of_nonneg hneg h.nonneg⟩
  exact (finite_of_eq_clip (isNaN_mul hx h.isFinite) (scaled_mul hx h.isFinite)
    (by omega) (by omega)).1

end Specimen.Double
