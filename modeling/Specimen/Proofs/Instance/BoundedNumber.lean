import Specimen.Proofs.Constraint.WholeBounds
import Specimen.Proofs.Instance.Interpolation

/-!
# Specimen.Proofs.Instance.BoundedNumber

Which numbers are drawn for the bounds and the step of a set of demands (`number_admitted`).

Without a step the number lies between the ends. With a step its factor is drawn, and nothing moves
the product back between the ends, so every rounding on the way counts. For a whole step and bounds
that are integers of at most 53 bits no factor leads beyond a bound. For others that is not so: the
places of a small step may be cut off, and a factor beyond the 64-bit integers is replaced by another.
-/

namespace Specimen

namespace Instance

open Double (one)

variable {value step : Double}

/-- Rounding to the places of a whole step is rounding to an integer, if it does anything. -/
theorem roundToStep_cases (hplaces : step.decimalPlaces = 0)
    (h : (roundToStep value step).isFinite = true) :
    value.isFinite = true ∧ ((roundToStep value step).scaled = value.scaled ∨
      (roundToStep value step).scaled = (Double.ofInt (value * .ofNat 1).roundInt).scaled) := by
  have hround : roundToStep value step =
      if ((value * .ofNat 1).round / .ofNat 1).isFinite then (value * .ofNat 1).round / .ofNat 1
      else value := by
    unfold roundToStep
    simp [hplaces]
  rw [hround] at h ⊢
  split at h
  · rename_i hresult
    have hrounded := Double.isFinite_of_div hresult
    have hproduct := Double.isFinite_of_round hrounded
    rw [if_pos hresult, Double.div_one_eq hrounded, Double.scaled_round hproduct]
    exact ⟨Double.isFinite_of_mul hproduct, .inr rfl⟩
  · rename_i hresult
    rw [if_neg hresult]
    exact ⟨h, .inl rfl⟩

/-- It does not lead below an integer. -/
theorem le_roundToStep (hplaces : step.decimalPlaces = 0)
    (hfinite : (roundToStep value step).isFinite = true) {n : Int} (hn : n.natAbs ≤ 2 ^ 53)
    (h : (Double.ofInt n).scaled ≤ value.scaled) : n * one ≤ (roundToStep value step).scaled := by
  obtain ⟨hvalue, hresult⟩ := roundToStep_cases hplaces hfinite
  rw [← Double.scaled_ofInt_of_le hn]
  rcases hresult with hsame | hround
  · rwa [hsame]
  · have hself := (Double.mul_one_eq hvalue).2
    rw [hround]
    refine Double.scaled_ofInt_le_scaled_ofInt (Double.le_roundInt ?_)
    rwa [hself, ← Double.scaled_ofInt_of_le hn]

theorem roundToStep_le (hplaces : step.decimalPlaces = 0)
    (hfinite : (roundToStep value step).isFinite = true) {n : Int} (hn : n.natAbs ≤ 2 ^ 53)
    (h : value.scaled ≤ (Double.ofInt n).scaled) : (roundToStep value step).scaled ≤ n * one := by
  obtain ⟨hvalue, hresult⟩ := roundToStep_cases hplaces hfinite
  rw [← Double.scaled_ofInt_of_le hn]
  rcases hresult with hsame | hround
  · rwa [hsame]
  · have hself := (Double.mul_one_eq hvalue).2
    rw [hround]
    refine Double.scaled_ofInt_le_scaled_ofInt (Double.roundInt_le ?_)
    rwa [hself, ← Double.scaled_ofInt_of_le hn]

/-! ### Factors that are drawn -/

/-- An integer that all factors from some point on lead to is reached by one that is a double. -/
theorem exists_least_factor {n least : Int} {whole : Nat} (hpositive : 0 < whole)
    (hn : n.natAbs ≤ 2 ^ 53) (h : ∀ q, least ≤ q → n ≤ q * whole) :
    ∃ q : Int, q.natAbs ≤ 2 ^ 53 ∧ q ≤ least ∧ n ≤ q * whole := by
  have hone : (1 : Int) ≤ whole := by exact_mod_cast hpositive
  rcases Int.le_total least (2 ^ 53) with hsmall | hlarge
  · have hleast := h least (Int.le_refl _)
    refine ⟨least, ?_, Int.le_refl _, hleast⟩
    rcases Int.le_total 0 least with hpos | hneg
    · omega
    · have := mul_le_of_one_le_right hneg hone
      omega
  · have := Int.mul_le_mul_of_nonneg_left hone (by decide : (0 : Int) ≤ 2 ^ 53)
    exact ⟨2 ^ 53, by decide, hlarge, by omega⟩

theorem exists_greatest_factor {n greatest : Int} {whole : Nat} (hpositive : 0 < whole)
    (hn : n.natAbs ≤ 2 ^ 53) (h : ∀ q, q ≤ greatest → q * whole ≤ n) :
    ∃ q : Int, q.natAbs ≤ 2 ^ 53 ∧ greatest ≤ q ∧ q * whole ≤ n := by
  have hneg (q : Int) (hge : -greatest ≤ q) : -n ≤ q * whole := by
    have := h (-q) (by omega)
    rw [Int.neg_mul] at this
    omega
  obtain ⟨q, hq, hle, hmul⟩ := exists_least_factor hpositive (by omega) hneg
  exact ⟨-q, by omega, by omega, by rw [Int.neg_mul]; omega⟩

variable {set : Constraints} {lo hi : Double} {span : Int × Int} {q : Int}

theorem numberFactorSpan_eq (h : numberFactorSpan set lo hi step = .ok span) :
    span = (((lo / step).ceil.max (.ofInt Constraints.minInteger)).toInt64,
      ((hi / step).floor.min (.ofInt Constraints.maxInteger)).toInt64) := by
  unfold numberFactorSpan at h
  dsimp only at h
  split at h
  · cases h
  · exact (Except.ok.inj h).symm

/-- No factor is drawn from below the quotient of the lower end. -/
theorem le_numberFactorSpan (h : numberFactorSpan set lo hi step = .ok span)
    (hlo : (lo / step).isFinite = true) (hq : q.natAbs ≤ 2 ^ 53)
    (hle : q ≤ (lo / step).ceilInt) : q ≤ span.1 := by
  have hnan := Double.isNaN_ceil hlo
  have hnan' := Double.isNaN_ofInt Constraints.minInteger
  rw [numberFactorSpan_eq h]
  calc q = (Double.ofInt q).toInt64 := (Double.toInt64_ofInt hq).symm
    _ ≤ ((lo / step).ceil.max (.ofInt Constraints.minInteger)).toInt64 := by
      refine Double.toInt64_le_toInt64 (Double.isNaN_ofInt q) (Double.isNaN_max hnan hnan') ?_
      rw [Double.scaled_max hnan hnan', Double.scaled_ceil hlo]
      exact Int.le_trans (Double.scaled_ofInt_le_scaled_ofInt hle) (Int.le_max_left _ _)

/-- None is drawn from above the quotient of the upper end. -/
theorem numberFactorSpan_le_of_le (h : numberFactorSpan set lo hi step = .ok span)
    (hhi : (hi / step).isFinite = true) (hq : q.natAbs ≤ 2 ^ 53)
    (hle : (hi / step).floorInt ≤ q) : span.2 ≤ q := by
  have hnan := Double.isNaN_floor hhi
  have hnan' := Double.isNaN_ofInt Constraints.maxInteger
  rw [numberFactorSpan_eq h]
  calc ((hi / step).floor.min (.ofInt Constraints.maxInteger)).toInt64
      ≤ (Double.ofInt q).toInt64 := by
        refine Double.toInt64_le_toInt64 (Double.isNaN_min hnan hnan') (Double.isNaN_ofInt q) ?_
        rw [Double.scaled_min hnan hnan', Double.scaled_floor hhi]
        exact Int.le_trans (Int.min_le_left _ _) (Double.scaled_ofInt_le_scaled_ofInt hle)
    _ = q := Double.toInt64_ofInt hq

/-! ### Bounds and steps -/

variable {whole : Nat} {bound : Bound} {a factor : Int}

/-- The factors that are drawn are 64-bit integers. -/
theorem natAbs_lt_of_numberFactorSpan (h : numberFactorSpan set lo hi step = .ok span)
    (hge : span.1 ≤ factor) (hle : factor ≤ span.2) : factor.natAbs < 2 ^ 64 := by
  rw [numberFactorSpan_eq h] at hge hle
  have hleast := (toInt64_range ((lo / step).ceil.max (.ofInt Constraints.minInteger))).1
  have hgreatest := (toInt64_range ((hi / step).floor.min (.ofInt Constraints.maxInteger))).2
  have hends : Constraints.minInteger = -2 ^ 63 ∧ Constraints.maxInteger = 2 ^ 63 - 1 := ⟨rfl, rfl⟩
  omega

theorem admitsFrom_of_factor (h : numberFactorSpan set bound.lowerEnd hi step = .ok span)
    (hbound : bound.IsWhole a) (hstep : step.IsWholeStep whole) (hge : span.1 ≤ factor)
    (hle : factor ≤ span.2)
    (hfinite : (roundToStep (.ofInt factor * step) step).isFinite = true) :
    bound.AdmitsFrom (roundToStep (.ofInt factor * step) step).toRat := by
  have hsmall : (bound.leastInteger a).natAbs ≤ 2 ^ 53 := by
    have := hbound.small
    unfold Bound.leastInteger
    split <;> omega
  obtain ⟨hend, hfactors⟩ := hbound.lowerEnd_spec hstep
  obtain ⟨q, hq, hreach, hleast⟩ := exists_least_factor hstep.positive hsmall hfactors
  have hfactor := Int.le_trans (le_numberFactorSpan h (hstep.div_eq hend).1 hq hreach) hge
  have hsize := natAbs_lt_of_numberFactorSpan h hge hle
  have hproduct := hstep.le_mul hq hsize hfactor hleast
  exact hbound.admitsFrom
    (le_roundToStep (Double.decimalPlaces_of_isIntegral hstep.isIntegral) hfinite hsmall hproduct)

theorem admitsUpTo_of_factor (h : numberFactorSpan set lo bound.upperEnd step = .ok span)
    (hbound : bound.IsWhole a) (hstep : step.IsWholeStep whole) (hge : span.1 ≤ factor)
    (hle : factor ≤ span.2)
    (hfinite : (roundToStep (.ofInt factor * step) step).isFinite = true) :
    bound.AdmitsUpTo (roundToStep (.ofInt factor * step) step).toRat := by
  have hsmall : (bound.greatestInteger a).natAbs ≤ 2 ^ 53 := by
    have := hbound.small
    unfold Bound.greatestInteger
    split <;> omega
  obtain ⟨hend, hfactors⟩ := hbound.upperEnd_spec hstep
  obtain ⟨q, hq, hreach, hgreatest⟩ := exists_greatest_factor hstep.positive hsmall hfactors
  have hfactor := Int.le_trans hle (numberFactorSpan_le_of_le h (hstep.div_eq hend).1 hq hreach)
  have hsize := natAbs_lt_of_numberFactorSpan h hge hle
  have hproduct := hstep.mul_le hq hsize hfactor hgreatest
  exact hbound.admitsUpTo
    (roundToStep_le (Double.decimalPlaces_of_isIntegral hstep.isIntegral) hfinite hsmall hproduct)

/-- What is known of the ends between which a number is drawn. -/
theorem numberSpan_ends {fallback ends : Double × Double}
    (h : numberSpan set fallback = .ok ends) :
    ¬ends.2 < ends.1 ∧ (∀ bound ∈ set.minimum, ends.1 = bound.lowerEnd) ∧
      ∀ bound ∈ set.maximum, ends.2 = bound.upperEnd := by
  unfold numberSpan at h
  rw [Constraints.numberBounds_eq] at h
  cases hmin : set.minimum <;> cases hmax : set.maximum <;>
    simp only [hmin, hmax, Option.map_some, Option.map_none] at h <;>
    obtain ⟨hordered, rfl⟩ := span_of_eq_ok h <;>
    exact ⟨hordered, by simp, by simp⟩

variable {σ : Type} [Random.Source σ] {fallback : Double × Double}

/-- The multiples that are drawn meet the bounds. -/
theorem bounds_of_factor {ends : Double × Double} (hends : numberSpan set fallback = .ok ends)
    (hwhole : set.HasWholeBounds) (hstep : step.IsWholeStep whole)
    (hspan : numberFactorSpan set ends.1 ends.2 step = .ok span) (hge : span.1 ≤ factor)
    (hle : factor ≤ span.2)
    (hfinite : (roundToStep (.ofInt factor * step) step).isFinite = true) :
    set.Bounds (roundToStep (.ofInt factor * step) step).toRat := by
  obtain ⟨-, hlo, hhi⟩ := numberSpan_ends hends
  refine ⟨fun bound hbound => ?_, fun bound hbound => ?_⟩
  · obtain ⟨a, ha⟩ := hwhole.minimum bound hbound
    rw [hlo bound hbound] at hspan
    exact admitsFrom_of_factor hspan ha hstep hge hle hfinite
  · obtain ⟨a, ha⟩ := hwhole.maximum bound hbound
    rw [hhi bound hbound] at hspan
    exact admitsUpTo_of_factor hspan ha hstep hge hle hfinite

/-- So do the numbers between the ends. -/
theorem bounds_of_between {ends : Double × Double} (hends : numberSpan set fallback = .ok ends)
    (hfinite : set.HasFiniteBounds) (hbetween : ends.1 ≤ value ∧ value ≤ ends.2) :
    set.Bounds value.toRat := by
  obtain ⟨-, hlo, hhi⟩ := numberSpan_ends hends
  refine Constraints.bounds_of_between_ends hfinite (fun bound hbound => ?_) fun bound hbound => ?_
  · rw [← hlo bound hbound]
    exact hbetween.1
  · rw [← hhi bound hbound]
    exact hbetween.2

theorem yields_numberFactor (h : numberFactorSpan set lo hi step = .ok span) :
    Yields (Random.integer span.1 span.2 : Random.Draw σ Int) fun factor =>
      span.1 ≤ factor ∧ factor ≤ span.2 := by
  have hleast := (toInt64_range ((lo / step).ceil.max (.ofInt Constraints.minInteger))).1
  have hgreatest := (toInt64_range ((hi / step).floor.min (.ofInt Constraints.maxInteger))).2
  rw [numberFactorSpan_eq h]
  exact Random.yields_integer hleast (Int.lt_of_le_of_lt hgreatest (by decide))

theorem yields_number (hfinite : set.HasFiniteBounds)
    (hsteps : ∀ step ∈ set.multipleOf, (∃ whole, step.IsWholeStep whole) ∧ set.HasWholeBounds) :
    Yields (number set fallback : Attempt σ Double) fun value =>
      value.isFinite = true ∧ set.Bounds value.toRat := by
  -- What is not finite is not returned.
  have hreturn {value : Double} {failure : Failure}
      (h : value.isFinite = true → set.Bounds value.toRat) :
      Yields (if value.isFinite then pure value else throw failure : Attempt σ Double) fun value =>
        value.isFinite = true ∧ set.Bounds value.toRat := by
    split
    · rename_i hvalue
      exact ends_pure ⟨hvalue, h hvalue⟩
    · exact ends_throw
  unfold number
  refine (yields_attemptCheck _).bind_of ?_
  intro (lo, hi) hends
  dsimp only
  split
  · refine (yields_attemptDraw (yields_between (numberSpan_ends hends).1)).bind_of ?_
    exact fun value hbetween =>
      hreturn fun hvalue => bounds_of_between hends hfinite (hbetween hvalue)
  · rename_i step hmultiple
    obtain ⟨⟨whole, hstep⟩, hwhole⟩ := hsteps step hmultiple
    refine (yields_attemptCheck _).bind_of ?_
    intro (least, greatest) hspan
    refine (yields_attemptDraw (yields_numberFactor hspan)).bind_of fun factor hfactor => ?_
    rw [pure_bind]
    exact hreturn (bounds_of_factor hends hwhole hstep hspan hfactor.1 hfactor.2)

/-- **What is drawn is admitted, where no rounding leads astray.** Without a step a number that is drawn
meets both bounds as exact numbers, whatever finite doubles they are. With a step it does where the
step is an integer and so are the bounds, of at most 53 bits. -/
theorem number_admitted (hfinite : set.HasFiniteBounds)
    (hsteps : ∀ step ∈ set.multipleOf, (∃ whole, step.IsWholeStep whole) ∧ set.HasWholeBounds)
    (fallback : Double × Double) (source : σ) {value : Double}
    (h : (number set fallback source).1 = .ok value) :
    value.isFinite = true ∧ set.Bounds value.toRat :=
  (yields_number hfinite hsteps).of_eq_ok h

/-- The multiples of three between zero and six, both excluded. -/
def threeAlone : Constraints :=
  { Constraints.any .root with
    kinds := .of [.number]
    minimum := some ⟨.ofNat 0, true⟩
    maximum := some ⟨.ofNat 6, true⟩
    multipleOf := some (.ofNat 3) }

theorem number_admitted_threeAlone :
    threeAlone.HasFiniteBounds ∧ (Double.ofNat 3).IsWholeStep 3 ∧ threeAlone.HasWholeBounds ∧
      (number threeAlone (.zero, .zero) (⟨⟩ : Random.Highest)).1 = .ok (.ofNat 3) ∧
      threeAlone.Bounds (Double.ofNat 3).toRat := by
  have hstep := Double.isWholeStep_ofNat 3 (by decide) (by decide)
  have hlower := Bound.isWhole_ofNat 0 (by decide) true
  have hupper := Bound.isWhole_ofNat 6 (by decide) true
  have hfinite : threeAlone.HasFiniteBounds :=
    ⟨fun bound h => Option.some.inj h ▸ hlower.isFinite,
      fun bound h => Option.some.inj h ▸ hupper.isFinite⟩
  have hwhole : threeAlone.HasWholeBounds :=
    ⟨fun bound h => ⟨_, Option.some.inj h ▸ hlower⟩, fun bound h => ⟨_, Option.some.inj h ▸ hupper⟩⟩
  -- Only the factor one is left between the moved ends.
  have hspan : numberSpan threeAlone (.zero, .zero) =
      .ok (Bound.lowerEnd ⟨.ofNat 0, true⟩, Bound.upperEnd ⟨.ofNat 6, true⟩) :=
    eq_ok_of_toOption (by decide +kernel)
  have hfactors : numberFactorSpan threeAlone (Bound.lowerEnd ⟨.ofNat 0, true⟩)
      (Bound.upperEnd ⟨.ofNat 6, true⟩) (.ofNat 3) = .ok (1, 1) :=
    eq_ok_of_toOption (by decide +kernel)
  have hone : Yields (Random.integer 1 1 : Random.Draw Random.Highest Int) _ :=
    Random.yields_integer (by decide) (by decide)
  obtain ⟨factor, after, hdraw, hfactor⟩ :=
    exists_attemptDraw (Random.total_integer (Int.le_refl 1)) hone ⟨⟩
  obtain rfl : factor = 1 := Int.le_antisymm hfactor.2 hfactor.1
  have hround : roundToStep (.ofInt 1 * .ofNat 3) (.ofNat 3) = .ofNat 3 := by
    unfold roundToStep
    rw [Double.decimalPlaces_of_isIntegral hstep.isIntegral]
    decide +kernel
  have hthree : (Double.ofNat 3).isFinite = true := hstep.isFinite
  have hmultiple : threeAlone.multipleOf = some (.ofNat 3) := rfl
  have hdrawn : (number threeAlone (.zero, .zero) (⟨⟩ : Random.Highest)).1 = .ok (.ofNat 3) := by
    unfold number
    rw [hspan, attemptCheck_ok_bind, hmultiple]
    dsimp only
    rw [hfactors, attemptCheck_ok_bind, bind_apply, hdraw]
    dsimp only
    rw [pure_bind, hround, if_pos hthree]
    rfl
  exact ⟨hfinite, hstep, hwhole, hdrawn, (number_admitted hfinite
    (fun step h => ⟨⟨3, Option.some.inj h ▸ hstep⟩, hwhole⟩) _ _ hdrawn).2⟩

-- Of the twenty places of `1e-20` fifteen are kept, so that all its small multiples become zero.
example : roundToStep (.ofDecimal false 1 (-20)) (.ofDecimal false 1 (-20)) = .zero := by
  decide +kernel

-- All multiples of one from `1e20` on have factors beyond the 64-bit integers.
example : (numberFactorSpan (.any .root) (.ofDecimal false 1 20) (.ofDecimal false 1 20)
    (.ofNat 1)).toOption = some (Constraints.maxInteger, Constraints.maxInteger) := by
  decide +kernel

end Instance

end Specimen
