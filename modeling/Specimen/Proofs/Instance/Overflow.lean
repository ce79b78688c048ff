import Specimen.Proofs.Constraint.CommonStep
import Specimen.Proofs.Instance.Integer

/-!
# Specimen.Proofs.Instance.Overflow

Where the arithmetic behind an integer leaves the bits it is done in (`faults_of_integer`).

With an integral step everything fits. The factors of a fractional step are doubles that are cut off at
128 bits, and one that is cut off leaves no room for the factors that are tried behind it
(`ScanOverflows`).
-/

namespace Specimen

namespace Double

variable {x : Double} {a : Int}

/-! ### Factors beyond 128 bits -/

theorem scaled_ofInt_limit : (ofInt (2 ^ 127)).scaled = 2 ^ 127 * one := by
  decide +kernel

theorem toInt128_of_le (hx : x.isNaN = false) (h : 2 ^ 127 * one ≤ x.scaled) :
    x.toInt128 = 2 ^ 127 - 1 := by
  have hlast : (ofInt (2 ^ 127)).toInt128 = 2 ^ 127 - 1 := by decide +kernel
  have hleast : (ofInt (2 ^ 127)).toInt128 ≤ x.toInt128 :=
    toIntClamped_le_toIntClamped (by decide) (by decide) (isNaN_ofInt _) hx (by rwa [scaled_ofInt_limit])
  have hgreatest : x.toInt128 ≤ 2 ^ 127 - 1 := toIntClamped_le (by decide) (by decide)
  omega

theorem toInt128_integral (hx : x.isNaN = false) (h : 2 ^ 127 * one ≤ x.scaled)
    (ha : 2 ^ 127 ≤ a) : (integral x a).toInt128 = 2 ^ 127 - 1 := by
  cases x with
  | finite negative magnitude =>
    refine toInt128_of_le (isNaN_integral rfl a) ?_
    rw [scaled_integral rfl, ← scaled_ofInt_limit]
    exact scaled_ofInt_le_scaled_ofInt ha
  | infinite negative => exact toInt128_of_le rfl h
  | nan => cases hx

theorem toInt128_floor (hx : x.isNaN = false) (h : 2 ^ 127 * one ≤ x.scaled) :
    x.floor.toInt128 = 2 ^ 127 - 1 := by
  refine toInt128_integral hx h ?_
  rw [le_floorInt_iff, le_toRat_iff]
  exact h

theorem toInt128_ceil (hx : x.isNaN = false) (h : 2 ^ 127 * one ≤ x.scaled) :
    x.ceil.toInt128 = 2 ^ 127 - 1 := by
  refine toInt128_integral hx h (Int.not_lt.mp fun hlt => ?_)
  have hle := ceilInt_le_iff.mp (Int.le_sub_one_of_lt hlt)
  rw [toRat_le_iff] at hle
  have hone := one_pos_int
  omega

/-- The doubles just below `2 ^ 127` lie `2 ^ 74` apart. -/
theorem scaled_le_of_lt (hx : x.isFinite = true) (h : x.scaled < 2 ^ 127 * one) :
    x.scaled ≤ (2 ^ 127 - 2 ^ 74) * one := by
  rcases Int.le_total x.scaled 0 with hneg | hpos
  · exact Int.le_trans hneg (Int.mul_nonneg (by decide) (Int.natCast_nonneg one))
  · have hpow : 2 ^ (74 + unitBits) = 2 ^ 74 * one := by rw [Nat.pow_add, one]
    have hlimit : x.scaled.natAbs < 2 ^ 53 * 2 ^ (74 + unitBits) := by
      rw [hpow]
      omega
    have hle := le_of_representable_of_lt (representable_scaled hx) hlimit
    rw [hpow] at hle
    omega

/-- So a smaller double is not rounded up to `2 ^ 127`. -/
theorem toInt128_ceil_le (hx : x.isNaN = false) (h : x.scaled < 2 ^ 127 * one) :
    x.ceil.toInt128 ≤ 2 ^ 127 - 2 ^ 74 := by
  have hlast : (ofInt (2 ^ 127 - 2 ^ 74)).toInt128 = 2 ^ 127 - 2 ^ 74 := by decide +kernel
  cases x with
  | finite negative magnitude =>
    have hceil : (finite negative magnitude).ceilInt ≤ 2 ^ 127 - 2 ^ 74 := by
      rw [ceilInt_le_iff, toRat_le_iff]
      exact scaled_le_of_lt rfl h
    rw [← hlast]
    refine toIntClamped_le_toIntClamped (by decide) (by decide) (isNaN_ceil rfl) (isNaN_ofInt _) ?_
    rw [scaled_ceil rfl]
    exact scaled_ofInt_le_scaled_ofInt hceil
  | infinite negative =>
    cases negative with
    | true => decide
    | false => exact absurd h (by decide +kernel)
  | nan => cases hx

end Double

namespace Instance

open Constraints

variable {σ : Type} {set : Constraints} {lo hi : Int}

/-! ### Integral steps -/

theorem exists_isWholeStep {step : Double} (h : isIntegralStep step = true)
    (hpos : Double.zero < step) : ∃ whole, step.IsWholeStep whole := by
  have hend : (Double.ofNat (2 ^ 63)).scaled = 2 ^ 63 * Double.one := by decide +kernel
  simp only [isIntegralStep, Bool.and_eq_true, decide_eq_true_eq] at h
  obtain ⟨hintegral, hle⟩ := h
  have hlimit := Double.scaled_le_of_le hle
  rw [hend] at hlimit
  rw [Double.lt_iff rfl (Double.isNaN_of_le hle).1] at hpos
  change 0 < step.scaled at hpos
  obtain ⟨whole, hwhole⟩ := Double.exists_scaled_eq_of_isIntegral hintegral
  rw [hwhole] at hpos hlimit
  have hpositive : 0 < whole := (mul_pos_iff_of_pos_right Double.one_pos_int).mp hpos
  have hbounded : whole ≤ 2 ^ 63 := Int.le_of_mul_le_mul_right hlimit Double.one_pos_int
  obtain ⟨n, rfl⟩ := Int.eq_ofNat_of_zero_le (Int.le_of_lt hpositive)
  exact ⟨n, by omega, by omega, by exact_mod_cast Double.toRat_eq_iff.mpr hwhole⟩

variable [Random.Source σ]

/-! ### Fractional steps -/

omit [Random.Source σ] in
/-- The quotients by a step are in the order of the ends. -/
theorem scaled_div_le {step : Double} (hlo : IsInt64 lo) (hhi : IsInt64 hi) (hordered : lo ≤ hi)
    (hfinite : step.isFinite = true) (hpos : 0 < step.scaled) :
    (Double.ofInt lo / step).scaled ≤ (Double.ofInt hi / step).scaled := by
  have hlo' := natAbs_le_of_isInt64 hlo
  have hhi' := natAbs_le_of_isInt64 hhi
  rw [Double.scaled_div (Double.isFinite_ofInt (by omega)) hfinite hpos,
    Double.scaled_div (Double.isFinite_ofInt (by omega)) hfinite hpos]
  refine Double.clip_le_clip (Double.rounded_le_rounded ?_)
  exact Int.mul_le_mul_of_nonneg_right (Double.scaled_ofInt_le_scaled_ofInt hordered)
    (Int.natCast_nonneg _)

/-- A single factor is drawn again and again. -/
theorem yields_drawMultiple (accept : Int → Option Int) {factor : Int} (hleast : -2 ^ 127 ≤ factor)
    (hgreatest : factor < 2 ^ 127) {attempts : Nat} (hattempts : attempts ≠ 0) :
    Yields (drawMultiple accept factor factor attempts : Random.Draw σ (Option Int))
      (· = accept factor) := by
  induction attempts with
  | zero => exact absurd rfl hattempts
  | succ attempts ih =>
    unfold drawMultiple
    refine (Random.yields_wideInteger hleast hgreatest).bind_of fun drawn hdrawn => ?_
    obtain rfl : drawn = factor := Int.le_antisymm hdrawn.2 hdrawn.1
    cases haccept : accept drawn with
    | some value => exact ends_pure rfl
    | none =>
      cases attempts with
      | zero => exact ends_pure rfl
      | succ attempts =>
        have hrest := ih (Nat.succ_ne_zero attempts)
        rw [haccept] at hrest
        exact hrest

/-- The first factor is cut off at 128 bits and leads to no integer between the ends, so that the factors
behind it are to be tried. -/
structure ScanOverflows (lo hi : Int) (step : Double) : Prop where
  fractional : isIntegralStep step = false
  beyond : Double.ofInt (2 ^ 127) ≤ Double.ofInt lo / step
  fails : integralMultiple? lo hi step (2 ^ 127 - 1) = none

/-- Where the sum fits, only the schema can be at fault. -/
theorem failsOnly_fractionalMultiple {step : Double} (attempts : Nat)
    (h : FitsIn 128 ((Double.ofInt lo / step).ceil.toInt128 + maxScanned)) :
    FailsOnly (fractionalMultiple set lo hi step attempts : Attempt σ Int)
      (Failure.IsExcused fun _ => False) := by
  have hnone (reason : String) : FailsOnly (unsatisfiable set.pointer reason : Attempt σ Int)
      (Failure.IsExcused fun _ => False) := failsOnly_unsatisfiable _ _
  unfold fractionalMultiple
  dsimp only
  split
  · rename_i hordered
    refine (failsOnly_attemptDraw_of_total (total_drawMultiple _ hordered _)).bind fun value? => ?_
    split
    · exact failsOnly_pure _
    · rw [checked_of_fitsIn h, pure_bind]
      split
      · exact failsOnly_pure _
      · exact hnone _
  · exact hnone _

/-- With a single factor that is cut off, either it leads to an integer at once or the next ones are to
be tried. -/
theorem fractionalMultiple_cases (set : Constraints) {step : Double} {attempts : Nat}
    (hattempts : attempts ≠ 0)
    (hleast : (Double.ofInt lo / step).ceil.toInt128 = 2 ^ 127 - 1)
    (hgreatest : (Double.ofInt hi / step).floor.toInt128 = 2 ^ 127 - 1) (source : σ) :
    (fractionalMultiple set lo hi step attempts source).1 =
      match integralMultiple? lo hi step (2 ^ 127 - 1) with
      | some value => .ok value
      | none => .error (.fault .overflow) := by
  obtain ⟨value?, after, hdraw, hvalue⟩ := exists_attemptDraw
    (total_drawMultiple (integralMultiple? lo hi step) (Int.le_refl (2 ^ 127 - 1)) attempts)
    (yields_drawMultiple _ (by decide) (by decide) hattempts) source
  have hoverflow : ¬FitsIn 128 (2 ^ 127 - 1 + maxScanned) := by decide
  unfold fractionalMultiple
  dsimp only
  rw [hleast, hgreatest, if_pos (Int.le_refl _), bind_apply, hdraw, ← hvalue]
  cases value? with
  | some value => rfl
  | none =>
    dsimp only
    rw [checked_of_not_fitsIn hoverflow]
    rfl

/-- Only a factor that is cut off leaves no room for the next ones. -/
theorem fitsIn_scanEnd {x : Double} (hx : x.isNaN = false) (h : x.scaled < 2 ^ 127 * Double.one) :
    FitsIn 128 (x.ceil.toInt128 + maxScanned) := by
  have hle := Double.toInt128_ceil_le hx h
  have hge : -2 ^ 127 ≤ x.ceil.toInt128 := Double.le_toIntClamped (by decide) (by decide)
  have hscanned : maxScanned = 10000 := rfl
  unfold FitsIn
  omega

/-- With a fractional step, exactly the scan may be at fault. -/
theorem faults_of_fractionalMultiple {step : Double} {attempts : Nat} (hlo : IsInt64 lo)
    (hhi : IsInt64 hi) (hordered : lo ≤ hi) (hfinite : step.isFinite = true)
    (hpos : 0 < step.scaled) (hfractional : isIntegralStep step = false) (hattempts : attempts ≠ 0)
    (source : σ) (fault : Random.Fault) :
    (fractionalMultiple set lo hi step attempts source).1 = .error (.fault fault) ↔
      fault = .overflow ∧ ScanOverflows lo hi step := by
  have hfirst : (Double.ofInt lo / step).isNaN = false := by
    have := natAbs_le_of_isInt64 hlo
    exact Double.isNaN_div (Double.isFinite_ofInt (by omega)) hfinite hpos
  have hlast : (Double.ofInt hi / step).isNaN = false := by
    have := natAbs_le_of_isInt64 hhi
    exact Double.isNaN_div (Double.isFinite_ofInt (by omega)) hfinite hpos
  have hbeyond : Double.ofInt (2 ^ 127) ≤ Double.ofInt lo / step ↔
      2 ^ 127 * Double.one ≤ (Double.ofInt lo / step).scaled := by
    rw [Double.le_iff (Double.isNaN_ofInt _) hfirst, Double.scaled_ofInt_limit]
  by_cases hle : 2 ^ 127 * Double.one ≤ (Double.ofInt lo / step).scaled
  · have hgreatest := Int.le_trans hle (scaled_div_le hlo hhi hordered hfinite hpos)
    rw [fractionalMultiple_cases set hattempts (Double.toInt128_ceil hfirst hle)
      (Double.toInt128_floor hlast hgreatest)]
    cases hfails : integralMultiple? lo hi step (2 ^ 127 - 1) with
    | some value =>
      refine ⟨fun hok => (nomatch hok), fun ⟨_, hscan⟩ => ?_⟩
      rw [hscan.fails] at hfails
      cases hfails
    | none =>
      refine ⟨fun herror => ?_, fun ⟨hfault, _⟩ => by rw [hfault]⟩
      cases herror
      exact ⟨rfl, hfractional, hbeyond.mpr hle, hfails⟩
  · refine ⟨fun herror => ?_, fun ⟨_, hscan⟩ => absurd (hbeyond.mp hscan.beyond) hle⟩
    exact (failsOnly_fractionalMultiple attempts (fitsIn_scanEnd hfirst (Int.not_le.mp hle)) source _
      herror).elim

/-! ### Main result -/

/-- With an integral step the product of a factor and the step fits, and so does all before it. -/
theorem failsOnly_integer_of_isIntegralStep {step : Double} {fallback : Int × Int} {attempts : Nat}
    (hspan : integerSpan set fallback = .ok (lo, hi)) (hlo : IsInt64 lo) (hhi : IsInt64 hi)
    (hmultiple : set.multipleOf = some step) (hintegral : isIntegralStep step = true)
    (hpos : Double.zero < step) :
    FailsOnly (integer set fallback attempts : Attempt σ Int) (Failure.IsExcused fun _ => False) := by
  obtain ⟨whole, hwhole⟩ := exists_isWholeStep hintegral hpos
  have hpositive : (0 : Int) < step.toInt128 := by
    rw [hwhole.toInt128_eq]
    exact_mod_cast hwhole.positive
  unfold integer
  rw [hspan, attemptCheck_ok_bind, hmultiple]
  dsimp only
  rw [if_pos hintegral]
  rcases factorSpan_cases σ set hlo hhi hpositive with
    ⟨_, _, hfactors, hordered, hleast, hgreatest, hbetween⟩ | ⟨⟨reason, hfactors⟩, -⟩
  · rw [hfactors, pure_bind]
    refine (failsOnly_attemptDraw_of_total (Random.total_wideInteger hordered)).bind_of
      (yields_attemptDraw (Random.yields_wideInteger hleast hgreatest)) fun factor hfactor => ?_
    have hproduct := hbetween factor hfactor.1 hfactor.2
    rw [checkedNarrow_eq ⟨Int.le_trans hlo.1 hproduct.1, Int.le_trans hproduct.2 hhi.2⟩]
    exact failsOnly_pure _
  · rw [hfactors]
    exact failsOnly_unsatisfiable set.pointer reason

/-- **Where the arithmetic behind an integer overflows.** With a finite and positive step, or without
one, every negation, quotient and product fits; and the sum that ends the scan of the factors of a
fractional step does not exactly if the scan begins at a factor that was cut off at 128 bits and did
not lead to an integer. -/
theorem faults_of_integer {fallback : Int × Int} (h : set.IsSettledFor .integer)
    (hf : IsFallback fallback)
    (hstep : ∀ step ∈ set.multipleOf, step.IsStep)
    {attempts : Nat} (hattempts : attempts ≠ 0) (source : σ) :
    ∃ lo hi, integerSpan set fallback = .ok (lo, hi) ∧ ∀ fault,
      (integer set fallback attempts source).1 = .error (.fault fault) ↔
        fault = .overflow ∧ ∃ step ∈ set.multipleOf, ScanOverflows lo hi step := by
  obtain ⟨lo, hi, hspan, hlo, hhi, hordered, -⟩ := exists_integerSpan h hf
  refine ⟨lo, hi, hspan, fun fault => ?_⟩
  cases hmultiple : set.multipleOf with
  | none =>
    obtain ⟨number, hnumber, -⟩ := exists_integer h hf hmultiple attempts source
    simp [hnumber]
  | some step =>
    obtain ⟨hfinite, hzero⟩ := hstep step hmultiple
    simp only [Option.mem_def, Option.some.injEq, exists_eq_left']
    cases hintegral : isIntegralStep step with
    | true =>
      have hfails : FailsOnly (integer set fallback attempts : Attempt σ Int) _ :=
        failsOnly_integer_of_isIntegralStep hspan hlo hhi hmultiple hintegral hzero
      refine ⟨fun herror => (hfails source _ herror).elim, fun ⟨_, hscan⟩ => ?_⟩
      exact absurd hscan.fractional (by simp [hintegral])
    | false =>
      have hpos : 0 < step.scaled :=
        (Double.lt_iff rfl (Double.isNaN_of_isFinite hfinite)).mp hzero
      simp only [integer, hspan, attemptCheck_ok_bind, hmultiple, hintegral, Bool.false_eq_true,
        if_false]
      exact faults_of_fractionalMultiple hlo hhi hordered hfinite hpos hintegral hattempts source fault

/-- From a step of `2 ^ -63` on, no factor is cut off. -/
theorem not_scanOverflows {step : Double} (hlo : IsInt64 lo) (hfinite : step.isFinite = true)
    (h : Double.one ≤ 2 ^ 63 * step.scaled) : ¬ScanOverflows lo hi step := by
  have hone := Double.one_pos_int
  have hpos : 0 < step.scaled := by omega
  have hsize := natAbs_le_of_isInt64 hlo
  have hend : (Double.ofInt (2 ^ 63)).scaled = 2 ^ 63 * Double.one := by decide +kernel
  have hbound : (Double.ofInt lo).scaled ≤ 2 ^ 63 * Double.one := by
    rw [← hend]
    exact Double.scaled_ofInt_le_scaled_ofInt (by omega)
  obtain ⟨units, hunits⟩ := Int.eq_ofNat_of_zero_le (Int.le_of_lt hpos)
  have hquotient := Double.scaled_div (Double.isFinite_ofInt (a := lo) (by omega)) hfinite hpos
  rw [hunits] at h hpos hquotient
  have hrounded : Double.rounded ((Double.ofInt lo).scaled * Double.one) units ≤
      2 ^ 126 * Double.one := by
    have hself : Double.rounded (2 ^ 126 * Double.one * units) units = 2 ^ 126 * Double.one :=
      Double.rounded_mul_self (by omega) (by decide +kernel)
    rw [← hself]
    refine Double.rounded_le_rounded ?_
    calc (Double.ofInt lo).scaled * Double.one
        ≤ 2 ^ 63 * Double.one * Double.one :=
          Int.mul_le_mul_of_nonneg_right hbound (Int.natCast_nonneg _)
      _ ≤ 2 ^ 63 * Double.one * (2 ^ 63 * units) :=
          Int.mul_le_mul_of_nonneg_left h (by omega)
      _ = 2 ^ 126 * Double.one * units := by ring
  rintro ⟨-, hbeyond, -⟩
  have hle := Double.scaled_le_of_le hbeyond
  have hclip := Double.clip_le_clip hrounded
  have hself : Double.clip (2 ^ 126 * Double.one) = 2 ^ 126 * Double.one :=
    Double.clip_eq_self (by decide +kernel) (by decide +kernel)
  rw [Double.scaled_ofInt_limit, hquotient, Int.toNat_natCast] at hle
  have hends : (2 ^ 127 * Double.one : Int) ≤ 2 ^ 126 * Double.one :=
    Int.le_trans hle (hclip.trans_eq hself)
  linarith only [hends, hone]

/-- Two and a half. -/
def twoAndAHalf : Double := .ofDecimal false 25 (-1)

/-- A step of `2 ^ -100`. -/
def tinyStep : Double := .ofRatio false (2 ^ 974) 1

/-- The multiples of a step between two integers. -/
def multiplesBetween (lo hi : Nat) (step : Double) : Constraints :=
  { Constraints.any .root with
    kinds := .of [.integer]
    minimum := some ⟨.ofNat lo, false⟩
    maximum := some ⟨.ofNat hi, false⟩
    multipleOf := some step }

theorem isMultiple_tinyStep : tinyStep.IsMultiple (2 ^ 40 : Int) := by
  have hproduct : (2 ^ 40 * Double.one : Int) = 2 ^ 140 * tinyStep.scaled := by decide +kernel
  have hone : (Double.one : ℚ) ≠ 0 := by exact_mod_cast Nat.ne_of_gt Double.one_pos
  refine ⟨2 ^ 140, ?_⟩
  unfold Double.toRat
  rw [← mul_div_assoc, eq_div_iff hone]
  exact_mod_cast hproduct

/-- With a step of two and a half nothing overflows between four and six. With a step of `2 ^ -100` the
scan does at `2 ^ 40`, although that is one of its multiples. -/
theorem faults_of_integer_multiplesBetween :
    (multiplesBetween 4 6 twoAndAHalf).IsSettledFor .integer ∧
      (multiplesBetween (2 ^ 40) (2 ^ 40) tinyStep).IsSettledFor .integer ∧ IsFallback (0, 10) ∧
      (∀ fault, (integer (multiplesBetween 4 6 twoAndAHalf) (0, 10) 10 (⟨⟩ : Random.Highest)).1 ≠
        .error (.fault fault)) ∧
      (integer (multiplesBetween (2 ^ 40) (2 ^ 40) tinyStep) (0, 10) 10 (⟨⟩ : Random.Highest)).1 =
        .error (.fault .overflow) ∧
      2 ^ 40 ∈ (multiplesBetween (2 ^ 40) (2 ^ 40) tinyStep).integers ∧
      tinyStep.IsMultiple (2 ^ 40 : Int) := by
  have hfallback : IsFallback (0, 10) := ⟨by decide, by decide, by decide⟩
  have hhalf : (multiplesBetween 4 6 twoAndAHalf).IsSettledFor .integer :=
    isSettledFor_of_single .integer (by decide) rfl rfl (by decide +kernel)
  have htiny : (multiplesBetween (2 ^ 40) (2 ^ 40) tinyStep).IsSettledFor .integer :=
    isSettledFor_of_single .integer (by decide) rfl rfl (by decide +kernel)
  have hmember : 2 ^ 40 ∈ (multiplesBetween (2 ^ 40) (2 ^ 40) tinyStep).integers := by
    have hends : (multiplesBetween (2 ^ 40) (2 ^ 40) tinyStep).integerBounds =
        (some (2 ^ 40), some (2 ^ 40)) := by decide +kernel
    rw [mem_integers_iff htiny, hends]
    exact ⟨by decide, by simp [Between]⟩
  have hquiet (fault : Random.Fault) :
      (integer (multiplesBetween 4 6 twoAndAHalf) (0, 10) 10 (⟨⟩ : Random.Highest)).1 ≠
        .error (.fault fault) := by
    have hstep : twoAndAHalf.IsStep := ⟨by decide +kernel, by decide +kernel⟩
    have hends : integerSpan (multiplesBetween 4 6 twoAndAHalf) (0, 10) = .ok (4, 6) :=
      eq_ok_of_toOption (by decide +kernel)
    obtain ⟨lo, hi, hspan, hfaults⟩ := faults_of_integer hhalf hfallback
      (fun step h => Option.some.inj h ▸ hstep) (by decide : 10 ≠ 0) (⟨⟩ : Random.Highest)
    obtain ⟨rfl, rfl⟩ := Prod.mk.inj (Except.ok.inj (hends.symm.trans hspan))
    intro herror
    obtain ⟨-, step, hsome, hscan⟩ := (hfaults fault).mp herror
    obtain rfl := Option.some.inj hsome
    exact not_scanOverflows (by decide) hstep.finite (by decide +kernel) hscan
  have hstep : tinyStep.IsStep := ⟨by decide +kernel, by decide +kernel⟩
  have hends : integerSpan (multiplesBetween (2 ^ 40) (2 ^ 40) tinyStep) (0, 10) =
      .ok (2 ^ 40, 2 ^ 40) := eq_ok_of_toOption (by decide +kernel)
  obtain ⟨lo, hi, hspan, hfaults⟩ := faults_of_integer htiny hfallback
    (fun step h => Option.some.inj h ▸ hstep) (by decide : 10 ≠ 0) (⟨⟩ : Random.Highest)
  obtain ⟨rfl, rfl⟩ := Prod.mk.inj (Except.ok.inj (hends.symm.trans hspan))
  have hoverflow := (hfaults .overflow).mpr
    ⟨rfl, tinyStep, rfl, by decide +kernel, by decide +kernel, by decide +kernel⟩
  exact ⟨hhalf, htiny, hfallback, hquiet, hoverflow, hmember, isMultiple_tinyStep⟩

end Instance

end Specimen
