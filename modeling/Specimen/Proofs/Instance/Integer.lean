import Mathlib.Order.Bounds.Basic
import Mathlib.Tactic.Linarith
import Specimen.Proofs.Constraint.Settled
import Specimen.Proofs.Double.Step
import Specimen.Proofs.Instance.Number

/-!
# Specimen.Proofs.Instance.Integer

Which integers are drawn for the bounds and the step of a set of demands.

* `Constraints.InReach` — the integers that may be drawn, whatever the step: those that meet the
  bounds, as far as the fallback range reaches where an end is open. They are the ones between the ends
  of `integerSpan` (`exists_integerSpan`);
* `integer_admitted` — what is drawn meets the bounds and the step, and without a step there is
  something to draw;
* `integer_verdict` — the step leaves nothing to draw exactly when no integer in reach is a multiple
  of it. The integers beyond the fallback range do not count, so this says that the demands cannot be
  met only where both bounds are given.
-/

namespace Specimen

/-! ### Integers in reach -/

namespace Constraints

variable {set : Constraints} {fallback : Int × Int} {number : Int}

/-- The 64-bit integers that meet both bounds. -/
def integers (set : Constraints) : Set Int := {number | IsInt64 number ∧ set.Bounds number}

/-- A fallback range of 64-bit integers. -/
structure IsFallback (fallback : Int × Int) : Prop where
  ordered : fallback.1 ≤ fallback.2
  least : IsInt64 fallback.1
  greatest : IsInt64 fallback.2

/-- An integer that may be drawn. Towards an open end, what may be drawn ends where the fallback range
does; if no integer of that range meets the other bound, it is as wide as that range. -/
structure InReach (set : Constraints) (fallback : Int × Int) (number : Int) : Prop where
  admitted : number ∈ set.integers
  upward : set.maximum = none → number ≤ fallback.2 ∨
    ∃ lo, IsLeast set.integers lo ∧ fallback.2 < lo ∧ number ≤ lo + (fallback.2 - fallback.1)
  downward : set.minimum = none → fallback.1 ≤ number ∨
    ∃ hi, IsGreatest set.integers hi ∧ hi < fallback.1 ∧ hi - (fallback.2 - fallback.1) ≤ number

/-- Between two bounds nothing depends on the fallback range. -/
theorem inReach_iff (hmin : set.minimum.isSome) (hmax : set.maximum.isSome) :
    set.InReach fallback number ↔ number ∈ set.integers := by
  refine ⟨InReach.admitted, fun h => ⟨h, fun hnone => ?_, fun hnone => ?_⟩⟩
  · simp [hnone] at hmax
  · simp [hnone] at hmin

/-- Where the upper end is open, the least integer that is admitted tells how far upward. -/
theorem inReach_iff_of_isLeast {lo : Int} (hmin : set.minimum ≠ none) (hmax : set.maximum = none)
    (hfirst : IsLeast set.integers lo) :
    set.InReach fallback number ↔ number ∈ set.integers ∧ (number ≤ fallback.2 ∨
      fallback.2 < lo ∧ number ≤ lo + (fallback.2 - fallback.1)) := by
  constructor
  · intro hreach
    refine ⟨hreach.admitted, (hreach.upward hmax).imp_right ?_⟩
    rintro ⟨other, hother, hbeyond⟩
    exact hother.unique hfirst ▸ hbeyond
  · rintro ⟨hadmitted, hupward⟩
    exact ⟨hadmitted, fun _ => hupward.imp_right fun hbeyond => ⟨lo, hfirst, hbeyond⟩,
      fun hnone => absurd hnone hmin⟩

theorem inReach_iff_of_isGreatest {hi : Int} (hmin : set.minimum = none) (hmax : set.maximum ≠ none)
    (hlast : IsGreatest set.integers hi) :
    set.InReach fallback number ↔ number ∈ set.integers ∧ (fallback.1 ≤ number ∨
      hi < fallback.1 ∧ hi - (fallback.2 - fallback.1) ≤ number) := by
  constructor
  · intro hreach
    refine ⟨hreach.admitted, (hreach.downward hmin).imp_right ?_⟩
    rintro ⟨other, hother, hbeyond⟩
    exact hother.unique hlast ▸ hbeyond
  · rintro ⟨hadmitted, hdownward⟩
    exact ⟨hadmitted, fun hnone => absurd hnone hmax,
      fun _ => hdownward.imp_right fun hbeyond => ⟨hi, hlast, hbeyond⟩⟩

/-- Where both ends are open every integer is admitted, so none is the first one beyond the fallback
range. -/
theorem inReach_iff_of_open (hf : IsFallback fallback) (hmin : set.minimum = none)
    (hmax : set.maximum = none) (hall : ∀ number, number ∈ set.integers ↔ IsInt64 number) :
    set.InReach fallback number ↔ fallback.1 ≤ number ∧ number ≤ fallback.2 := by
  have hfirst : minInteger ∈ set.integers := (hall _).mpr (by decide)
  have hlast : maxInteger ∈ set.integers := (hall _).mpr (by decide)
  constructor
  · rintro ⟨-, hupward, hdownward⟩
    refine ⟨(hdownward hmin).resolve_right ?_, (hupward hmax).resolve_right ?_⟩
    · rintro ⟨hi, hgreatest, hlt, -⟩
      exact Int.not_lt.mpr (Int.le_trans hf.least.2 (hgreatest.2 hlast)) hlt
    · rintro ⟨lo, hleast, hlt, -⟩
      exact Int.not_lt.mpr (Int.le_trans (hleast.2 hfirst) hf.greatest.1) hlt
  · rintro ⟨hge, hle⟩
    have hnumber : IsInt64 number :=
      ⟨Int.le_trans hf.least.1 hge, Int.le_trans hle hf.greatest.2⟩
    exact ⟨(hall _).mpr hnumber, fun _ => .inl hle, fun _ => .inl hge⟩

theorem mem_integers_iff (h : set.IsSettledFor .integer) :
    number ∈ set.integers ↔ IsInt64 number ∧ Between set.integerBounds number := by
  have hroom : LeaveRoom set.integerLimits :=
    integerConflict?_eq_none_iff.mp h.conflict?_eq_none
  refine and_congr_right fun hnumber => ?_
  rw [between_integerBounds hroom hnumber, between_integerLimits hnumber]

/-- The ends are 64-bit integers and in order. -/
theorem integerBounds_ends (h : set.IsSettledFor .integer) :
    (∀ lo ∈ set.integerBounds.1, IsInt64 lo) ∧ (∀ hi ∈ set.integerBounds.2, IsInt64 hi) ∧
      ∀ lo ∈ set.integerBounds.1, ∀ hi ∈ set.integerBounds.2, lo ≤ hi := by
  obtain ⟨-, -, hordered⟩ := integerConflict?_eq_none_iff.mp h.conflict?_eq_none
  have hends : minInteger ≤ maxInteger := by decide
  simp only [integerBounds, Option.mem_def, Option.map_eq_some_iff, forall_exists_index, and_imp,
    forall_apply_eq_imp_iff₂, IsInt64]
  refine ⟨by omega, by omega, fun lo hlo hi hhi => ?_⟩
  have := hordered lo hlo hi hhi
  omega

theorem integerBounds_fst_eq_none_iff : set.integerBounds.1 = none ↔ set.minimum = none := by
  simp [integerBounds, integerLimits]

theorem integerBounds_snd_eq_none_iff : set.integerBounds.2 = none ↔ set.maximum = none := by
  simp [integerBounds, integerLimits]

end Constraints

namespace Instance

open Constraints

variable {set : Constraints} {fallback : Int × Int}

/-- How far an end that is made up reaches upward from `lo`. Saturating only moves an end that lies
beyond the 64-bit integers, also where the range is too wide for them. -/
theorem le_upperEnd_iff {lo least greatest : Int} (hlo : IsInt64 lo) (hleast : IsInt64 least)
    (hgreatest : IsInt64 greatest) (hordered : least ≤ greatest) {hi : Int}
    (hhi : hi = if lo ≤ greatest then greatest else saturate (lo + saturate (greatest - least))) :
    lo ≤ hi ∧ IsInt64 hi ∧ ∀ number, IsInt64 number → lo ≤ number →
      (number ≤ hi ↔ number ≤ greatest ∨ greatest < lo ∧ number ≤ lo + (greatest - least)) := by
  unfold IsInt64 saturate minInteger maxInteger at *
  split at hhi
  · refine ⟨by omega, by omega, fun number hnumber hle => by omega⟩
  · refine ⟨by omega, by omega, fun number hnumber hle => by omega⟩

/-- As `le_upperEnd_iff`, downward from `hi`. -/
theorem lowerEnd_le_iff {hi least greatest : Int} (hhi : IsInt64 hi) (hleast : IsInt64 least)
    (hgreatest : IsInt64 greatest) (hordered : least ≤ greatest) {lo : Int}
    (hlo : lo = if least ≤ hi then least else saturate (hi - saturate (greatest - least))) :
    lo ≤ hi ∧ IsInt64 lo ∧ ∀ number, IsInt64 number → number ≤ hi →
      (lo ≤ number ↔ least ≤ number ∨ hi < least ∧ hi - (greatest - least) ≤ number) := by
  unfold IsInt64 saturate minInteger maxInteger at *
  split at hlo
  · refine ⟨by omega, by omega, fun number hnumber hle => by omega⟩
  · refine ⟨by omega, by omega, fun number hnumber hle => by omega⟩

/-- The integers in reach are those between the ends from which is drawn. -/
theorem exists_integerSpan (h : set.IsSettledFor .integer) (hf : IsFallback fallback) :
    ∃ lo hi, integerSpan set fallback = .ok (lo, hi) ∧ IsInt64 lo ∧ IsInt64 hi ∧ lo ≤ hi ∧
      ∀ number, set.InReach fallback number ↔ lo ≤ number ∧ number ≤ hi := by
  obtain ⟨least, greatest⟩ := fallback
  have ⟨hordered, hleast, hgreatest⟩ := hf
  have hmem (number : Int) : number ∈ set.integers ↔ _ := mem_integers_iff h
  obtain ⟨hlo, hhi, hends⟩ := integerBounds_ends h
  have hmin : _ ↔ set.minimum = none := integerBounds_fst_eq_none_iff
  have hmax : _ ↔ set.maximum = none := integerBounds_snd_eq_none_iff
  unfold integerSpan
  dsimp only at hordered hleast hgreatest ⊢
  generalize set.integerBounds = ends at hmem hlo hhi hends hmin hmax ⊢
  obtain ⟨_ | lo, _ | hi⟩ := ends <;>
    simp only [Between, Option.mem_def, reduceCtorEq, Option.some.injEq, forall_eq',
      false_implies, implies_true, true_and, and_true, true_iff, false_iff]
      at hmem hlo hhi hends hmin hmax ⊢
  case none.none =>
    exact ⟨least, greatest, if_neg (by omega), hleast, hgreatest, hordered,
      fun number => inReach_iff_of_open hf hmin hmax hmem⟩
  case none.some =>
    have hlast : IsGreatest set.integers hi :=
      ⟨(hmem _).mpr ⟨hhi, Int.le_refl _⟩, fun other hother => ((hmem _).mp hother).2⟩
    generalize hlo' : (if least ≤ hi then least else saturate _) = lo
    obtain ⟨hordered', hlo, hreach⟩ := lowerEnd_le_iff hhi hleast hgreatest hordered hlo'.symm
    refine ⟨lo, hi, if_neg (by omega), hlo, hhi, hordered', fun number => ?_⟩
    rw [inReach_iff_of_isGreatest hmin hmax hlast, hmem]
    constructor
    · rintro ⟨⟨hnumber, hle⟩, hdownward⟩
      exact ⟨(hreach number hnumber hle).mpr hdownward, hle⟩
    · rintro ⟨hge, hle⟩
      have hnumber : IsInt64 number := ⟨Int.le_trans hlo.1 hge, Int.le_trans hle hhi.2⟩
      exact ⟨⟨hnumber, hle⟩, (hreach number hnumber hle).mp hge⟩
  case some.none =>
    have hfirst : IsLeast set.integers lo :=
      ⟨(hmem _).mpr ⟨hlo, Int.le_refl _⟩, fun other hother => ((hmem _).mp hother).2⟩
    generalize hhi' : (if lo ≤ greatest then greatest else saturate _) = hi
    obtain ⟨hordered', hhi, hreach⟩ := le_upperEnd_iff hlo hleast hgreatest hordered hhi'.symm
    refine ⟨lo, hi, if_neg (by omega), hlo, hhi, hordered', fun number => ?_⟩
    rw [inReach_iff_of_isLeast hmin hmax hfirst, hmem]
    constructor
    · rintro ⟨⟨hnumber, hge⟩, hupward⟩
      exact ⟨hge, (hreach number hnumber hge).mpr hupward⟩
    · rintro ⟨hge, hle⟩
      have hnumber : IsInt64 number := ⟨Int.le_trans hlo.1 hge, Int.le_trans hle hhi.2⟩
      exact ⟨⟨hnumber, hge⟩, (hreach number hnumber hge).mp hle⟩
  case some.some =>
    refine ⟨lo, hi, if_neg (by omega), hlo, hhi, hends, fun number => ?_⟩
    rw [inReach_iff (Option.isSome_iff_ne_none.mpr hmin) (Option.isSome_iff_ne_none.mpr hmax), hmem]
    exact ⟨And.right, fun h => ⟨⟨Int.le_trans hlo.1 h.1, Int.le_trans h.2 hhi.2⟩, h⟩⟩

/-! ### Arithmetic that fits -/

variable {σ : Type} {lo hi : Int}

theorem checked_of_fitsIn {bits : Nat} {result : Int} (h : FitsIn bits result) :
    (checked bits result : Attempt σ Int) = pure result := if_pos h

theorem checked_of_not_fitsIn {bits : Nat} {result : Int} (h : ¬FitsIn bits result) :
    (checked bits result : Attempt σ Int) = throw (.fault .overflow) := if_neg h

theorem fitsIn_of_natAbs_le {number : Int} (h : number.natAbs ≤ 2 ^ 63) : FitsIn 128 number := by
  unfold FitsIn
  omega

theorem natAbs_le_of_isInt64 {number : Int} (h : IsInt64 number) : number.natAbs ≤ 2 ^ 63 := by
  unfold IsInt64 minInteger maxInteger at h
  omega

/-- Dividing leads no further away from zero. -/
theorem quotient_eq {a b : Int} (ha : a.natAbs ≤ 2 ^ 63) (hb : b ≠ 0) :
    (quotient a b : Attempt σ Int) = pure (a / b) := by
  unfold quotient
  rw [if_neg hb, checked_of_fitsIn]
  exact fitsIn_of_natAbs_le (Nat.le_trans (Int.natAbs_ediv_le_natAbs a b) ha)

theorem factorSpan_eq (set : Constraints) {step : Int} (hlo : IsInt64 lo) (hhi : IsInt64 hi)
    (hstep : step ≠ 0) :
    (factorSpan set lo hi step : Attempt σ (Int × Int)) =
      if hi / step < -(-lo / step) then
        unsatisfiable set.pointer s!"no multiple of {step} between {lo} and {hi}"
      else pure (-(-lo / step), hi / step) := by
  have hneg : (-lo).natAbs ≤ 2 ^ 63 := by
    rw [Int.natAbs_neg]
    exact natAbs_le_of_isInt64 hlo
  have hleast : (-(-lo / step)).natAbs ≤ 2 ^ 63 := by
    rw [Int.natAbs_neg]
    exact Nat.le_trans (Int.natAbs_ediv_le_natAbs _ step) hneg
  unfold factorSpan
  rw [checked_of_fitsIn (fitsIn_of_natAbs_le hneg), pure_bind, quotient_eq hneg hstep, pure_bind,
    checked_of_fitsIn (fitsIn_of_natAbs_le hleast), pure_bind,
    quotient_eq (natAbs_le_of_isInt64 hhi) hstep, pure_bind]

/-- A 64-bit integer is not changed by being narrowed to 64 bits. -/
theorem narrow_eq {number : Int} (h : IsInt64 number) : narrow number = number := by
  unfold IsInt64 minInteger maxInteger at h
  exact Int.bmod_eq_of_le (by omega) (by omega)

theorem checkedNarrow_eq {product : Int} (h : IsInt64 product) :
    (do return narrow (← checked 128 product) : Attempt σ Int) = pure product := by
  rw [checked_of_fitsIn (fitsIn_of_natAbs_le (natAbs_le_of_isInt64 h)), pure_bind, narrow_eq h]

/-! ### Factors -/

/-- The factors between the ends give the multiples between `lo` and `hi`. -/
theorem factorSpan_cases (σ : Type) (set : Constraints) {step : Int} (hlo : IsInt64 lo)
    (hhi : IsInt64 hi) (hstep : 0 < step) :
    (∃ least greatest, (factorSpan set lo hi step : Attempt σ (Int × Int)) = pure (least, greatest) ∧
        least ≤ greatest ∧ -2 ^ 127 ≤ least ∧ greatest < 2 ^ 127 ∧
        ∀ factor, least ≤ factor → factor ≤ greatest → lo ≤ factor * step ∧ factor * step ≤ hi) ∨
      (∃ reason, (factorSpan set lo hi step : Attempt σ (Int × Int)) =
          unsatisfiable set.pointer reason) ∧
        ∀ number, lo ≤ number → number ≤ hi → ¬step ∣ number := by
  have hleast (factor : Int) : -(-lo / step) ≤ factor ↔ lo ≤ factor * step := by
    have := Int.le_ediv_iff_mul_le (a := -factor) (b := -lo) hstep
    rw [Int.neg_mul] at this
    omega
  have hgreatest (factor : Int) : factor ≤ hi / step ↔ factor * step ≤ hi :=
    Int.le_ediv_iff_mul_le hstep
  rw [factorSpan_eq set hlo hhi (Int.ne_of_gt hstep)]
  split
  · rename_i hempty
    refine .inr ⟨⟨_, rfl⟩, ?_⟩
    rintro number hge hle ⟨factor, rfl⟩
    rw [Int.mul_comm] at hge hle
    exact absurd (Int.le_trans ((hleast factor).mpr hge) ((hgreatest factor).mpr hle))
      (Int.not_le.mpr hempty)
  · rename_i hordered
    have hends : -(-lo / step) ≤ hi / step := Int.not_lt.mp hordered
    unfold IsInt64 minInteger maxInteger at hlo hhi
    refine .inl ⟨_, _, rfl, hends, ?_, ?_, fun factor hge hle =>
      ⟨(hleast factor).mp hge, (hgreatest factor).mp hle⟩⟩
    · -- The product of the least factor and the step is at least `lo`.
      have := (hleast _).mp (Int.le_refl _)
      generalize -(-lo / step) = least at this
      by_contra hlow
      nlinarith
    · have := (hgreatest _).mp (Int.le_refl _)
      generalize hi / step = greatest at this
      by_contra hhigh
      nlinarith

/-! ### What is drawn -/

variable [Random.Source σ]

/-- Without a step, an integer in reach is drawn. -/
theorem exists_integer (h : set.IsSettledFor .integer) (hf : IsFallback fallback)
    (hmultiple : set.multipleOf = none) (attempts : Nat) (source : σ) :
    ∃ number, (integer set fallback attempts source).1 = .ok number ∧
      set.InReach fallback number := by
  obtain ⟨lo, hi, hspan, hlo, hhi, hordered, hreach⟩ := exists_integerSpan h hf
  have hlimit : hi < 2 ^ 63 := by
    have := hhi.2
    unfold maxInteger at this
    omega
  obtain ⟨number, after, hdraw, hnumber⟩ := exists_attemptDraw (Random.total_integer hordered)
    (Random.yields_integer hlo.1 hlimit) source
  refine ⟨number, ?_, (hreach number).mpr hnumber⟩
  unfold integer
  simp [hspan, hmultiple, hdraw]

/-- With an integral step, a multiple in reach is drawn if there is one. -/
theorem integer_cases (h : set.IsSettledFor .integer) (hf : IsFallback fallback) {step : Double}
    {whole : Nat} (hmultiple : set.multipleOf = some step) (hstep : step.IsWholeStep whole)
    (attempts : Nat) (source : σ) :
    (∃ number, (integer set fallback attempts source).1 = .ok number ∧
        set.InReach fallback number ∧ step.IsMultiple number) ∨
      (∃ reason, (integer set fallback attempts source).1 =
          .error (.schema (.unsatisfiable set.pointer reason))) ∧
        ∀ number : Int, set.InReach fallback number → ¬step.IsMultiple number := by
  obtain ⟨lo, hi, hspan, hlo, hhi, -, hreach⟩ := exists_integerSpan h hf
  have hpositive : (0 : Int) < whole := by
    have := hstep.positive
    omega
  have hinteger : (integer set fallback attempts : Attempt σ Int) = (do
      let span ← factorSpan set lo hi whole
      let factor ← Attempt.draw (Random.wideInteger span.1 span.2)
      return narrow (← checked 128 (factor * whole))) := by
    unfold integer
    simp [hspan, hmultiple, hstep.isIntegralStep, hstep.toInt128_eq]
  rw [hinteger]
  rcases factorSpan_cases σ set hlo hhi hpositive with
    ⟨least, greatest, hfactors, hordered, hleast, hgreatest, hbetween⟩ | ⟨⟨reason, hfactors⟩, hnone⟩
  · obtain ⟨factor, after, hdraw, hge, hle⟩ := exists_attemptDraw
      (Random.total_wideInteger hordered) (Random.yields_wideInteger hleast hgreatest) source
    have hproduct := hbetween factor hge hle
    have hfits : IsInt64 (factor * whole) :=
      ⟨Int.le_trans hlo.1 hproduct.1, Int.le_trans hproduct.2 hhi.2⟩
    refine .inl ⟨factor * whole, ?_, (hreach _).mpr hproduct,
      hstep.isMultiple_iff.mpr (Int.dvd_mul_left ..)⟩
    rw [hfactors, pure_bind, bind_apply, hdraw]
    dsimp only
    rw [checkedNarrow_eq hfits]
    rfl
  · refine .inr ⟨⟨reason, by rw [hfactors]; rfl⟩, fun number hnumber => ?_⟩
    rw [hstep.isMultiple_iff]
    exact hnone number ((hreach number).mp hnumber).1 ((hreach number).mp hnumber).2

/-! ### Main results -/

/-- **What is drawn is admitted.** An integer that is drawn is a 64-bit integer, meets both bounds as
exact numbers and is a multiple of the step; without a step there always is one. -/
theorem integer_admitted (h : set.IsSettledFor .integer) (hf : IsFallback fallback)
    (hstep : ∀ step ∈ set.multipleOf, ∃ whole, step.IsWholeStep whole) (attempts : Nat)
    (source : σ) :
    (∀ number, (integer set fallback attempts source).1 = .ok number →
      IsInt64 number ∧ set.Bounds number ∧ ∀ step ∈ set.multipleOf, step.IsMultiple number) ∧
    (set.multipleOf = none → ∃ number, (integer set fallback attempts source).1 = .ok number) := by
  cases hmultiple : set.multipleOf with
  | none =>
    obtain ⟨drawn, hdrawn, hreach⟩ := exists_integer h hf hmultiple attempts source
    refine ⟨fun number hnumber => ?_, fun _ => ⟨drawn, hdrawn⟩⟩
    obtain rfl : drawn = number := by simpa [hdrawn] using hnumber
    exact ⟨hreach.admitted.1, hreach.admitted.2, by simp⟩
  | some step =>
    obtain ⟨whole, hwhole⟩ := hstep step hmultiple
    refine ⟨fun number hnumber => ?_, fun hnone => by cases hnone⟩
    rcases integer_cases h hf hmultiple hwhole attempts source with
      ⟨drawn, hdrawn, hreach, hdivides⟩ | ⟨⟨reason, hfails⟩, -⟩
    · obtain rfl : drawn = number := by simpa [hdrawn] using hnumber
      exact ⟨hreach.admitted.1, hreach.admitted.2, by simpa using hdivides⟩
    · simp [hfails] at hnumber

/-- The multiples of seven below minus five. -/
def sevensBelow : Constraints :=
  { Constraints.any .root with
    kinds := .of [.integer]
    maximum := some ⟨.ofInt (-5), true⟩
    multipleOf := some (.ofNat 7) }

/-- The fallback range lies above the bound, so its width counts downward from there. -/
theorem integer_admitted_sevensBelow :
    sevensBelow.IsSettledFor .integer ∧ IsFallback (0, 10) ∧ (Double.ofNat 7).IsWholeStep 7 ∧
      (integer sevensBelow (0, 10) 1 (⟨⟩ : Random.Highest)).1 = .ok (-7) ∧
      sevensBelow.Bounds (-7 : Int) ∧ (Double.ofNat 7).IsMultiple (-7 : Int) := by
  have hfinal : sevensBelow.finalize = .ok sevensBelow := by
    have hnone : sevensBelow.conflict? .integer = none := by decide +kernel
    rw [finalize_eq_of_single .integer (by decide) rfl rfl, hnone]
  have hsettled : sevensBelow.IsSettledFor .integer := ⟨⟨_, hfinal⟩, rfl, by decide⟩
  have hfallback : IsFallback (0, 10) := ⟨by decide, by decide, by decide⟩
  have hwhole := Double.isWholeStep_ofNat 7 (by decide) (by decide)
  have hdrawn : (integer sevensBelow (0, 10) 1 (⟨⟩ : Random.Highest)).1 = .ok (-7) :=
    eq_ok_of_toOption (by decide +kernel)
  have hmultiple : Double.ofNat 7 ∈ sevensBelow.multipleOf := rfl
  obtain ⟨-, hbounds, hdivides⟩ := (integer_admitted hsettled hfallback
    (fun step hstep => ⟨7, Option.some.inj hstep ▸ hwhole⟩) 1 (⟨⟩ : Random.Highest)).1 (-7) hdrawn
  exact ⟨hsettled, hfallback, hwhole, hdrawn, hbounds, hdivides _ hmultiple⟩

/-- **When a step leaves nothing to draw.** Drawing fails, and then because nothing can meet the
demands, exactly when no integer in reach is a multiple of the step. Where both bounds are given, all
integers that meet them are in reach. -/
theorem integer_verdict (h : set.IsSettledFor .integer) (hf : IsFallback fallback) {step : Double}
    {whole : Nat} (hmultiple : set.multipleOf = some step) (hstep : step.IsWholeStep whole)
    (attempts : Nat) (source : σ) :
    ((∃ failure, (integer set fallback attempts source).1 = .error failure) ↔
      ∀ number : Int, set.InReach fallback number → ¬step.IsMultiple number) ∧
    (∀ failure, (integer set fallback attempts source).1 = .error failure →
      ∃ reason, failure = .schema (.unsatisfiable set.pointer reason)) ∧
    (set.minimum.isSome → set.maximum.isSome →
      (∃ failure, (integer set fallback attempts source).1 = .error failure) →
      ∀ number : Int, IsInt64 number → set.Bounds number → ¬step.IsMultiple number) := by
  have hfails : (∃ failure, (integer set fallback attempts source).1 = .error failure) ↔
      ∀ number : Int, set.InReach fallback number → ¬step.IsMultiple number := by
    rcases integer_cases h hf hmultiple hstep attempts source with
      ⟨drawn, hdrawn, hreach, hdivides⟩ | ⟨⟨reason, hfails⟩, hnone⟩
    · exact ⟨by simp [hdrawn], fun hnone => absurd hdivides (hnone drawn hreach)⟩
    · exact ⟨fun _ => hnone, fun _ => ⟨_, hfails⟩⟩
  refine ⟨hfails, fun failure hfailure => ?_, fun hmin hmax hfailure number hnumber hbounds => ?_⟩
  · rcases integer_cases h hf hmultiple hstep attempts source with
      ⟨drawn, hdrawn, -⟩ | ⟨⟨reason, hfails⟩, -⟩
    · simp [hdrawn] at hfailure
    · exact ⟨reason, by simpa [hfails] using hfailure.symm⟩
  · exact hfails.mp hfailure number ((inReach_iff hmin hmax).mpr ⟨hnumber, hbounds⟩)

/-- The multiples of seven from ten on. -/
def sevensFromTen : Constraints :=
  { Constraints.any .root with
    kinds := .of [.integer]
    minimum := some ⟨.ofInt 10, false⟩
    multipleOf := some (.ofNat 7) }

/-- The fallback range ends at ten, which is no multiple of seven: fourteen is beyond reach. -/
theorem integer_verdict_sevensFromTen :
    sevensFromTen.IsSettledFor .integer ∧ IsFallback (0, 10) ∧ (Double.ofNat 7).IsWholeStep 7 ∧
      (∃ reason, (integer sevensFromTen (0, 10) 1 (⟨⟩ : Random.Highest)).1 =
        .error (.schema (.unsatisfiable .root reason))) ∧
      14 ∈ sevensFromTen.integers ∧ (Double.ofNat 7).IsMultiple (14 : Int) ∧
      ¬sevensFromTen.InReach (0, 10) 14 := by
  have hfinal : sevensFromTen.finalize = .ok sevensFromTen := by
    have hnone : sevensFromTen.conflict? .integer = none := by decide +kernel
    rw [finalize_eq_of_single .integer (by decide) rfl rfl, hnone]
  have hsettled : sevensFromTen.IsSettledFor .integer := ⟨⟨_, hfinal⟩, rfl, by decide⟩
  have hfallback : IsFallback (0, 10) := ⟨by decide, by decide, by decide⟩
  have hwhole := Double.isWholeStep_ofNat 7 (by decide) (by decide)
  have hmultiple : (Double.ofNat 7).IsMultiple (14 : Int) := hwhole.isMultiple_iff.mpr (by decide)
  have hmember : 14 ∈ sevensFromTen.integers := by
    have hends : sevensFromTen.integerBounds = (some 10, none) := by decide +kernel
    rw [mem_integers_iff hsettled, hends]
    exact ⟨by decide, by simp [Between]⟩
  obtain ⟨hverdict, hreason, -⟩ := integer_verdict hsettled hfallback rfl hwhole 1
    (⟨⟩ : Random.Highest)
  cases hresult : (integer sevensFromTen (0, 10) 1 (⟨⟩ : Random.Highest)).1 with
  | ok number =>
    have hnone : (integer sevensFromTen (0, 10) 1 (⟨⟩ : Random.Highest)).1.toOption = none := by
      decide +kernel
    rw [hresult] at hnone
    cases hnone
  | error failure =>
    obtain ⟨reason, rfl⟩ := hreason failure hresult
    exact ⟨hsettled, hfallback, hwhole, ⟨reason, rfl⟩, hmember, hmultiple,
      fun hreach => hverdict.mp ⟨_, hresult⟩ 14 hreach hmultiple⟩

end Instance

end Specimen
