import Specimen.Constraint.Merge
import Specimen.Proofs.Constraint.Reading
import Specimen.Proofs.Double.Step

/-!
# Specimen.Proofs.Constraint.CommonStep

What the common step of two steps covers that are integers (`commonStep_covers`).

The common multiples of two integers are the multiples of their least common multiple. The common step
is the double nearest to it, as far as it is at most `2 ^ 64` (`scaled_commonStep`): it covers the common
multiples only where the least common multiple is such a step itself, and no sooner.
-/

namespace Specimen

namespace Double

variable {step : Double} {whole : Nat}

/-- A step that is an integer from one to `2 ^ 64`, which is merged with another one by way of their
least common multiple. -/
structure IsMergeable (step : Double) (whole : Nat) : Prop where
  positive : 0 < whole
  bounded : whole ≤ 2 ^ 64
  toRat_eq : step.toRat = whole

theorem IsMergeable.scaled_eq (h : step.IsMergeable whole) : step.scaled = whole * one :=
  scaled_of_toRat h.toRat_eq

theorem IsMergeable.isFinite (h : step.IsMergeable whole) : step.isFinite = true :=
  isFinite_of_toRat h.positive h.bounded h.toRat_eq

theorem IsMergeable.nearest_eq (h : step.IsMergeable whole) : nearest whole = whole := by
  have hunits := representable_scaled h.isFinite
  rw [h.scaled_eq, Int.natAbs_mul, Int.natAbs_natCast, Int.natAbs_natCast] at hunits
  exact rounded_eq_self (representable_of_mul_two_pow hunits)

theorem IsMergeable.toUInt64_eq (h : step.IsMergeable whole) :
    step.toUInt64 = min whole (2 ^ 64 - 1) := by
  unfold toUInt64
  rw [toIntClamped_of_scaled h.isFinite h.scaled_eq]
  omega

theorem IsMergeable.le (h : step.IsMergeable whole) : step.le (ofNat (2 ^ 64)) = true := by
  have hend : (ofNat (2 ^ 64)).scaled = 2 ^ 64 * one := by decide +kernel
  have hbounded := h.bounded
  show step ≤ ofNat (2 ^ 64)
  rw [le_iff (isNaN_of_isFinite h.isFinite) (isNaN_ofNat _), hend, h.scaled_eq]
  exact Int.mul_le_mul_of_nonneg_right (by omega) (Int.le_of_lt one_pos_int)

/-- A number that multiples can be formed of. -/
structure IsStep (step : Double) : Prop where
  finite : step.isFinite = true
  positive : zero < step

theorem isStep_ofNat {whole : Nat} (hpositive : 0 < whole) (hlimit : whole < 2 ^ 64) :
    (ofNat whole).IsStep := by
  refine ⟨isFinite_ofInt (by omega), ?_⟩
  have hone : nearest 1 = 1 := nearest_eq_self (by decide)
  have hleast : nearest 1 ≤ nearest whole := nearest_le_nearest (by omega)
  unfold ofNat
  rw [lt_iff rfl (isNaN_ofInt _), scaled_ofInt (by omega)]
  exact Int.mul_pos (by omega) one_pos_int

/-- An integral step is at least one. -/
theorem IsStep.toUInt64_pos (h : step.IsStep) (hintegral : step.isIntegral = true) :
    0 < step.toUInt64 := by
  obtain ⟨whole, hwhole⟩ := exists_scaled_eq_of_isIntegral hintegral
  have hpositive : 0 < step.scaled := (lt_iff rfl (isNaN_of_isFinite h.finite)).mp h.positive
  rw [hwhole] at hpositive
  have hleast : 0 < whole := (mul_pos_iff_of_pos_right one_pos_int).mp hpositive
  unfold toUInt64
  rw [toIntClamped_of_scaled h.finite hwhole]
  omega

end Double

namespace Constraints

open Double

variable {a b : Double} {m n : Nat}

theorem lcm64_eq (hm : 0 < m) (hn : 0 < n) : lcm64 m n = min (Nat.lcm m n) maxCount := by
  unfold lcm64
  rw [if_neg (by omega), Nat.div_mul_right_comm (Nat.gcd_dvd_left m n)]
  rfl

/-- The largest unsigned 64-bit number stands for all beyond it, and is itself rounded up. -/
theorem nearest_maxCount : nearest maxCount = 2 ^ 64 ∧ nearest (2 ^ 64) = 2 ^ 64 := by
  decide +kernel

/-- Cutting steps and multiple off at the largest unsigned 64-bit number has the effect of cutting the
multiple off at `2 ^ 64`. -/
theorem nearest_lcm64 (hm : 0 < m) (hn : 0 < n) :
    nearest (lcm64 (min m (2 ^ 64 - 1)) (min n (2 ^ 64 - 1))) =
      nearest (min (Nat.lcm m n) (2 ^ 64) : Nat) := by
  have hmax : maxCount = 2 ^ 64 - 1 := rfl
  have hleft := Nat.le_lcm_left m hn
  have hright := Nat.le_lcm_right n hm
  rw [lcm64_eq (by omega) (by omega)]
  rcases Nat.lt_or_ge (Nat.lcm m n) (2 ^ 64) with hlt | hge
  · rw [Nat.min_eq_left (by omega : m ≤ 2 ^ 64 - 1), Nat.min_eq_left (by omega : n ≤ 2 ^ 64 - 1)]
    congr 2
    omega
  · have hcut : maxCount ≤ Nat.lcm (min m (2 ^ 64 - 1)) (min n (2 ^ 64 - 1)) := by
      by_cases hlarge : 2 ^ 64 ≤ m ∨ 2 ^ 64 ≤ n
      · have hleft' := Nat.le_lcm_left (min m (2 ^ 64 - 1)) (by omega : 0 < min n (2 ^ 64 - 1))
        have hright' := Nat.le_lcm_right (min n (2 ^ 64 - 1)) (by omega : 0 < min m (2 ^ 64 - 1))
        omega
      · rw [Nat.min_eq_left (by omega : m ≤ 2 ^ 64 - 1), Nat.min_eq_left (by omega : n ≤ 2 ^ 64 - 1)]
        omega
    rw [Nat.min_eq_right hcut, Nat.min_eq_right hge]
    exact nearest_maxCount.1.trans nearest_maxCount.2.symm

/-- The common step is the double nearest to the least common multiple, or to `2 ^ 64` if that is
smaller. -/
theorem scaled_commonStep (ha : a.IsMergeable m) (hb : b.IsMergeable n) :
    (commonStep a b).scaled = nearest (min (Nat.lcm m n) (2 ^ 64) : Nat) * one := by
  unfold commonStep
  dsimp only
  split
  · rename_i hsame
    have hscaled := (beq_iff.mp hsame).2.2
    rw [ha.scaled_eq, hb.scaled_eq] at hscaled
    obtain rfl : m = n := by
      exact_mod_cast Int.eq_of_mul_eq_mul_right (Int.ne_of_gt one_pos_int) hscaled
    rw [Nat.lcm_self, Nat.min_eq_left ha.bounded, ha.nearest_eq, ha.scaled_eq]
  · have hintegral : ((a.isIntegral && a.le (ofNat (2 ^ 64))) &&
        (b.isIntegral && b.le (ofNat (2 ^ 64)))) = true := by
      simp [isIntegral_of_scaled ha.isFinite ha.scaled_eq, ha.le,
        isIntegral_of_scaled hb.isFinite hb.scaled_eq, hb.le]
    have hlimit : lcm64 a.toUInt64 b.toUInt64 < 2 ^ 64 := by
      have hmax : maxCount = 2 ^ 64 - 1 := rfl
      have hm := ha.positive
      have hn := hb.positive
      rw [ha.toUInt64_eq, hb.toUInt64_eq, lcm64_eq (by omega) (by omega)]
      omega
    rw [if_pos hintegral]
    unfold ofNat
    rw [scaled_ofInt (by omega), ha.toUInt64_eq, hb.toUInt64_eq,
      nearest_lcm64 ha.positive hb.positive]

/-- A step that covers the multiples of an integer, and nothing else, stands for it. -/
theorem isMergeable_of_covers {step : Double} {common multiple : Nat} (hcommon : common ≤ 2 ^ 64)
    (hvalue : step.toRat = nearest common) (hpositive : 0 < multiple)
    (h : ∀ number : Int, step.IsMultiple number ↔ (multiple : Int) ∣ number) :
    step.IsMergeable multiple := by
  have hself : (multiple : Int) ∣ nearest common :=
    (h _).mp ⟨1, by rw [hvalue, Int.cast_one, one_mul]⟩
  obtain ⟨factor, hfactor⟩ := (h multiple).mpr (Int.dvd_refl _)
  have hback : nearest common ∣ (multiple : Int) := by
    rw [hvalue] at hfactor
    exact ⟨factor, by rw [Int.mul_comm]; exact_mod_cast hfactor⟩
  have hnonneg : 0 ≤ nearest common := by
    rw [← nearest_eq_self (a := 0) (by decide)]
    exact nearest_le_nearest (Int.natCast_nonneg common)
  have hsame : nearest common = multiple :=
    Int.dvd_antisymm hnonneg (Int.natCast_nonneg multiple) hback hself
  refine ⟨hpositive, ?_, by rw [hvalue, hsame, Int.cast_natCast]⟩
  have hlimit : nearest common ≤ nearest (2 ^ 64) := nearest_le_nearest (by omega)
  rw [hsame, nearest_maxCount.2] at hlimit
  omega

/-- **The common step of two steps.** It is the double nearest to their least common multiple, but at
most `2 ^ 64`. So an integer is a multiple of the common step exactly if it is one of both steps only
where the least common multiple is such a step itself: it may be too large, and it may have too many
bits. -/
theorem commonStep_covers (ha : a.IsMergeable m) (hb : b.IsMergeable n) :
    (commonStep a b).toRat = nearest (min (Nat.lcm m n) (2 ^ 64) : Nat) ∧
    ((∀ number : Int, (commonStep a b).IsMultiple number ↔
        a.IsMultiple number ∧ b.IsMultiple number) ↔
      ∃ step : Double, step.IsMergeable (Nat.lcm m n)) := by
  have hboth (number : Int) : a.IsMultiple number ∧ b.IsMultiple number ↔
      (Nat.lcm m n : Int) ∣ number := by
    rw [isMultiple_iff_dvd ha.toRat_eq, isMultiple_iff_dvd hb.toRat_eq, Int.natCast_dvd,
      Int.natCast_dvd, Int.natCast_dvd, Nat.lcm_dvd_iff]
  have hvalue := toRat_eq_iff.mpr (scaled_commonStep ha hb)
  refine ⟨hvalue, ?_⟩
  simp only [hboth]
  constructor
  · exact fun hcovers => ⟨_, isMergeable_of_covers (Nat.min_le_right _ _) hvalue
      (Nat.lcm_pos ha.positive hb.positive) hcovers⟩
  · rintro ⟨step, hstep⟩ number
    rw [Nat.min_eq_left hstep.bounded, hstep.nearest_eq, Int.cast_natCast] at hvalue
    exact isMultiple_iff_dvd hvalue

/-- Steps have a step in common. -/
theorem isStep_commonStep (ha : a.IsStep) (hb : b.IsStep) : (commonStep a b).IsStep := by
  unfold commonStep
  dsimp only
  split
  · exact ha
  · split
    · rename_i hintegral
      simp only [Bool.and_eq_true] at hintegral
      have hleft := ha.toUInt64_pos hintegral.1.1
      have hright := hb.toUInt64_pos hintegral.2.1
      have hmax : maxCount = 2 ^ 64 - 1 := rfl
      have hlcm := Nat.lcm_pos hleft hright
      rw [lcm64_eq hleft hright]
      exact isStep_ofNat (by omega) (by omega)
    · split
      · exact ha
      · exact hb

theorem isStep_of_merge {a? b? : Option Double} (ha : ∀ step ∈ a?, step.IsStep)
    (hb : ∀ step ∈ b?, step.IsStep) : ∀ step ∈ Option.merge commonStep a? b?, step.IsStep := by
  intro step hstep
  cases a? with
  | none => exact hb step (by simpa using hstep)
  | some a =>
    cases b? with
    | none => exact ha step (by simpa using hstep)
    | some b =>
      obtain rfl := Option.some.inj hstep
      exact isStep_commonStep (ha a rfl) (hb b rfl)

/-- A step that is read is one. -/
theorem isStep_of_readStep {document : Document} {node : Pointer} {step? : Option Double}
    (h : readStep document node = .ok step?) : ∀ step ∈ step?, step.IsStep := by
  unfold readStep at h
  obtain ⟨read, -, h⟩ := exists_of_bind_eq_ok h
  split at h
  · cases h
  · rename_i hnone
    cases h
    rintro step rfl
    simp only [Option.any_some, Bool.not_eq_true', Bool.not_eq_false, Bool.and_eq_true] at hnone
    exact ⟨hnone.2, hnone.1⟩

theorem isMergeable_ofNat (whole : Nat) (hpositive : 0 < whole) (hsmall : whole ≤ 2 ^ 53) :
    (ofNat whole).IsMergeable whole :=
  ⟨hpositive, by omega, toRat_ofNat whole hsmall⟩

/-- The multiples of four and of six are covered. Those of `2 ^ 63` and of three are not, since the
common step is `2 ^ 64`, which is no multiple of three. -/
theorem commonStep_covers_four_six :
    (∀ number : Int, (commonStep (ofNat 4) (ofNat 6)).IsMultiple number ↔
        (ofNat 4).IsMultiple number ∧ (ofNat 6).IsMultiple number) ∧
      (ofNat (2 ^ 63)).IsMergeable (2 ^ 63) ∧
      (commonStep (ofNat (2 ^ 63)) (ofNat 3)).toRat = 2 ^ 64 ∧
      ¬∀ number : Int, (commonStep (ofNat (2 ^ 63)) (ofNat 3)).IsMultiple number ↔
        (ofNat (2 ^ 63)).IsMultiple number ∧ (ofNat 3).IsMultiple number := by
  have hthree := isMergeable_ofNat 3 (by decide) (by decide)
  have hlarge : (ofNat (2 ^ 63)).IsMergeable (2 ^ 63) := by
    have hscaled : (ofNat (2 ^ 63)).scaled = 2 ^ 63 * one := by decide +kernel
    exact ⟨by decide, by decide, by exact_mod_cast toRat_eq_iff.mpr hscaled⟩
  obtain ⟨hvalue, hcovers⟩ := commonStep_covers hlarge hthree
  refine ⟨?_, hlarge, ?_, fun h => ?_⟩
  · have hfour := isMergeable_ofNat 4 (by decide) (by decide)
    have hsix := isMergeable_ofNat 6 (by decide) (by decide)
    exact (commonStep_covers hfour hsix).2.mpr
      ⟨ofNat 12, isMergeable_ofNat 12 (by decide) (by decide)⟩
  · have hcut : min (Nat.lcm (2 ^ 63) 3) (2 ^ 64) = 2 ^ 64 := by decide
    rw [hvalue, hcut]
    exact_mod_cast congrArg (Int.cast (R := ℚ)) nearest_maxCount.2
  · obtain ⟨step, hstep⟩ := hcovers.mp h
    exact absurd hstep.bounded (by decide)

end Constraints

end Specimen
