import Specimen.Proofs.Double.Rounding
import Specimen.Proofs.Instance.Plain

/-!
# Specimen.Proofs.Instance.IntegerRange

What is drawn for the integers in `[lo, hi]` (`run_integersBetween`).

Bounds are read as doubles, so what counts is `Double.nearest lo` and `Double.nearest hi`. Where both
bounds are doubles, as all integers up to `2 ^ 53` are, the integer that is drawn lies in `[lo, hi]`;
beyond, it may lie outside by one part in `2 ^ 53` (`Double.nearest_close`), and where the lower bound
is rounded up to `2 ^ 63` there is none.
-/

namespace Specimen

/-! ### Bounds and nothing else -/

namespace Constraints

/-- A set of demands admits the integers between two limits. -/
structure IsIntegerRange (set : Constraints) (lower upper : Int) : Prop where
  kinds : set.kinds = .of [.integer]
  limits : set.integerLimits = (some lower, some upper)
  multipleOf : set.multipleOf = none
  candidates : set.candidates = none
  excluded : set.excluded = []

variable {set : Constraints} {lower upper : Int}

theorem IsIntegerRange.isOfKind (h : set.IsIntegerRange lower upper) : set.IsOfKind .integer :=
  ⟨by decide, h.kinds, h.candidates, h.excluded⟩

/-- The set is settled as it is, unless there is a reason against integers. -/
theorem IsIntegerRange.finalize (h : set.IsIntegerRange lower upper) :
    set.finalize = match set.integerConflict? with
      | some reason => .error (.unsatisfiable set.pointer reason)
      | none => .ok set :=
  finalize_eq_of_single .integer (by decide) h.kinds h.candidates

theorem IsIntegerRange.finalize_eq_ok (h : set.IsIntegerRange lower upper)
    (hlower : lower ≤ maxInteger) (hupper : minInteger ≤ upper) (hordered : lower ≤ upper) :
    set.finalize = .ok set := by
  have hconflict : set.integerConflict? = none := by
    unfold integerConflict?
    rw [h.limits]
    simp only [Option.any_some, decide_eq_true_eq]
    rw [if_neg (Int.not_lt.mpr hlower), if_neg (Int.not_lt.mpr hupper),
      if_neg (Int.not_lt.mpr hordered)]
  rw [h.finalize, hconflict]

theorem IsIntegerRange.finalize_eq_error (h : set.IsIntegerRange lower upper)
    (hlower : maxInteger < lower) :
    ∃ reason, set.finalize = .error (.unsatisfiable set.pointer reason) := by
  have hconflict : ∃ reason, set.integerConflict? = some reason := by
    unfold integerConflict?
    rw [h.limits]
    simp only [Option.any_some, decide_eq_true_eq]
    rw [if_pos hlower]
    exact ⟨_, rfl⟩
  obtain ⟨reason, hreason⟩ := hconflict
  exact ⟨reason, by rw [h.finalize, hreason]⟩

end Constraints

/-! ### Draws -/

namespace Instance

open Constraints (minInteger maxInteger)

variable {σ : Type} {set : Constraints} {lower upper : Int}

/-- Limits are moved into the range of 64-bit integers. -/
theorem integerSpan_eq_ok (hlimits : set.integerLimits = (some lower, some upper))
    (hleast : minInteger ≤ lower) (hlower : lower ≤ maxInteger) (hordered : lower ≤ upper)
    (fallback : Int × Int) :
    integerSpan set fallback = .ok (lower, min maxInteger upper) := by
  have hends : minInteger ≤ maxInteger := by decide
  have hbounds : set.integerBounds = (some lower, some (min maxInteger upper)) := by
    unfold Constraints.integerBounds
    rw [hlimits]
    simp only [Option.map_some, Prod.mk.injEq, Option.some.injEq]
    omega
  unfold integerSpan
  rw [hbounds]
  dsimp only
  rw [if_neg (by omega)]

variable [Random.Source σ] {setting : Setting σ}

/-- For the integers between two limits, an integer between them is drawn. -/
theorem integer_drawn (h : set.IsIntegerRange lower upper) (hleast : minInteger ≤ lower)
    (hlower : lower ≤ maxInteger) (hordered : lower ≤ upper) (property : Option String)
    (child : Pointer → Option String → Run σ Json) :
    Total (ofKind setting set property child .integer) ∧
      Yields (ofKind setting set property child .integer) fun value =>
        ∃ number, value = .int number ∧ lower ≤ number ∧ number ≤ min maxInteger upper := by
  have hends : lower ≤ min maxInteger upper := by omega
  have hgreatest : min maxInteger upper < 2 ^ 63 := by
    unfold maxInteger
    omega
  have hinteger : (ofKind setting set property child .integer : Run σ Json) =
      Json.int <$> Run.draw (Random.integer lower (min maxInteger upper)) := by
    show Run.attempt (integer set _ _) >>= (fun number => pure (Json.int number)) = _
    unfold integer
    rw [integerSpan_eq_ok h.limits hleast hlower hordered, h.multipleOf, map_eq_pure_bind]
    rfl
  rw [hinteger]
  constructor
  · exact (failsOnly_draw_of_total (Random.total_integer hends)).map _
  · refine (ends_draw unaffected_false (Random.yields_integer hleast hgreatest)).map ?_
    exact fun number hnumber => ⟨number, rfl, hnumber⟩

end Instance

/-! ### Runs -/

/-- A schema for the integers in `[lo, hi]`. -/
def Document.integersBetween (lo hi : Int) : Document :=
  .ofJson (.object [("type", .str "integer"), ("minimum", .int lo), ("maximum", .int hi)])

/-- The demands of the schema for the integers in `[lo, hi]`. -/
def Constraints.integersBetween (lo hi : Int) : Constraints :=
  { any .root with
    kinds := .of [.integer]
    inferred := KindSet.filter? (· == .number)
    minimum := some ⟨.ofInt lo, false⟩
    maximum := some ⟨.ofInt hi, false⟩ }

variable {lo hi : Int}

theorem Document.isPlain_integersBetween : (integersBetween lo hi).IsPlain .root :=
  isPlain_of_all ⟨_, rfl⟩ rfl

namespace Constraints

theorem ofSchema_integersBetween :
    ofSchema (.integersBetween lo hi) .root = .ok (integersBetween lo hi) := rfl

/-- What counts are the integers that the doubles nearest to the bounds stand for. -/
theorem isIntegerRange_integersBetween (hlo : minInteger ≤ lo) (hordered : lo ≤ hi)
    (hhi : hi ≤ maxInteger) :
    (integersBetween lo hi).IsIntegerRange (Double.nearest lo) (Double.nearest hi) where
  kinds := rfl
  limits := by
    unfold minInteger at hlo
    unfold maxInteger at hhi
    have hlower := Double.nearest_close lo
    have hupper := Double.nearest_close hi
    unfold integerLimits integersBetween
    simp only [Option.map_some, Bool.false_eq_true, if_false]
    rw [Double.ceilInt_ofInt (by omega), Double.floorInt_ofInt (by omega),
      saturate128_eq_self (by omega) (by omega), saturate128_eq_self (by omega) (by omega)]
  multipleOf := rfl
  candidates := rfl
  excluded := rfl

end Constraints

namespace Generation

open Instance
open Constraints (minInteger maxInteger)

variable {σ : Type} [Random.Source σ] {options : Options}

/-- The smallest 64-bit integer is a double, so no bound is rounded below it. -/
theorem minInteger_le_nearest (h : minInteger ≤ lo) : minInteger ≤ Double.nearest lo := by
  have hend : Double.nearest minInteger = minInteger := by decide +kernel
  rw [← hend]
  exact Double.nearest_le_nearest h

/-- Where the lower bound is rounded to a 64-bit integer, an integer between the rounded bounds is
drawn. -/
theorem exists_run_integersBetween (valid : options.IsValid) (hbudget : options.nodeBudget = none)
    (hlo : minInteger ≤ lo) (hordered : lo ≤ hi) (hhi : hi ≤ maxInteger)
    (hrounded : Double.nearest lo ≤ maxInteger) (provider : Provider σ)
    (library : Pattern.Library σ) (source : σ) (seed : UInt64) :
    ∃ number report,
      run ⟨.integersBetween lo hi, options, provider, library⟩ source .root seed =
        .ok (.int number, report) ∧
      Double.nearest lo ≤ number ∧ number ≤ min maxInteger (Double.nearest hi) := by
  have hrange := Constraints.isIntegerRange_integersBetween hlo hordered hhi
  have hleast := minInteger_le_nearest hlo
  have hends := Double.nearest_le_nearest hordered
  let setting : Setting σ := ⟨.integersBetween lo hi, options, provider, library⟩
  have hplain : setting.document.IsPlain .root := Document.isPlain_integersBetween
  obtain ⟨value, report, hrun, number, rfl, hnumber⟩ := exists_run_of_isPlain valid hbudget hplain
    Constraints.ofSchema_integersBetween hrange.isOfKind
    (hrange.finalize_eq_ok hrounded (Int.le_trans hleast hends) hends)
    (integer_drawn hrange hleast hrounded hends none) source seed
  exact ⟨number, report, hrun, hnumber⟩

/-- Where the lower bound is rounded beyond the 64-bit integers, there is none to draw. -/
theorem run_integersBetween_eq_error (valid : options.IsValid) (hbudget : options.nodeBudget = none)
    (hlo : minInteger ≤ lo) (hordered : lo ≤ hi) (hhi : hi ≤ maxInteger)
    (hrounded : maxInteger < Double.nearest lo) (provider : Provider σ)
    (library : Pattern.Library σ) (source : σ) (seed : UInt64) :
    ∃ reason, run ⟨.integersBetween lo hi, options, provider, library⟩ source .root seed =
      .error (.schema (.unsatisfiable .root reason)) := by
  obtain ⟨reason, hfinal⟩ :=
    (Constraints.isIntegerRange_integersBetween hlo hordered hhi).finalize_eq_error hrounded
  exact ⟨reason, run_eq_error_of_isPlain valid hbudget Document.isPlain_integersBetween
    Constraints.ofSchema_integersBetween hfinal source seed⟩

/-- **What counts are the doubles nearest to the bounds.** An integer between them is drawn, unless the
lower one is no 64-bit integer: then there is none. Where both bounds are at most `2 ^ 53` in size,
the integer lies in `[lo, hi]`. -/
theorem run_integersBetween (valid : options.validate = .ok ()) (hbudget : options.nodeBudget = none)
    (hlo : minInteger ≤ lo) (hordered : lo ≤ hi) (hhi : hi ≤ maxInteger) (provider : Provider σ)
    (library : Pattern.Library σ) (source : σ) (seed : UInt64) :
    (lo < 2 ^ 63 - 512 → ∃ number report,
      run ⟨.integersBetween lo hi, options, provider, library⟩ source .root seed =
        .ok (.int number, report) ∧
      Double.nearest lo ≤ number ∧ number ≤ Double.nearest hi ∧ number ≤ maxInteger) ∧
    (2 ^ 63 - 512 ≤ lo → ∃ reason,
      run ⟨.integersBetween lo hi, options, provider, library⟩ source .root seed =
        .error (.schema (.unsatisfiable .root reason))) ∧
    (lo.natAbs ≤ 2 ^ 53 → hi.natAbs ≤ 2 ^ 53 → ∃ number report,
      run ⟨.integersBetween lo hi, options, provider, library⟩ source .root seed =
        .ok (.int number, report) ∧ lo ≤ number ∧ number ≤ hi) := by
  have hvalid := Options.validate_eq_ok_iff.mp valid
  -- Rounding keeps the order, so the two integers around the threshold decide for all others.
  have hrounded (hsmall : lo < 2 ^ 63 - 512) : Double.nearest lo ≤ maxInteger := by
    have hlast : Double.nearest (2 ^ 63 - 513) ≤ maxInteger := by decide +kernel
    exact Int.le_trans (Double.nearest_le_nearest (Int.le_sub_one_of_lt hsmall)) hlast
  refine ⟨fun hsmall => ?_, fun hlarge => ?_, fun hfirst hlast => ?_⟩
  · obtain ⟨number, report, hrun, hleast, hgreatest⟩ := exists_run_integersBetween hvalid hbudget
      hlo hordered hhi (hrounded hsmall) provider library source seed
    exact ⟨number, report, hrun, hleast, by omega, by omega⟩
  · have hfirst : maxInteger < Double.nearest (2 ^ 63 - 512) := by decide +kernel
    have hbeyond := Int.lt_of_lt_of_le hfirst (Double.nearest_le_nearest hlarge)
    exact run_integersBetween_eq_error hvalid hbudget hlo hordered hhi hbeyond provider library
      source seed
  · have hsmall : lo < 2 ^ 63 - 512 := by omega
    obtain ⟨number, report, hrun, hleast, hgreatest⟩ := exists_run_integersBetween hvalid hbudget
      hlo hordered hhi (hrounded hsmall) provider library source seed
    rw [Double.nearest_eq_self hfirst] at hleast
    rw [Double.nearest_eq_self hlast] at hgreatest
    exact ⟨number, report, hrun, hleast, by omega⟩

/-- The least positive integer that is no double is not drawn when it is the only one admitted; its
neighbour is. -/
theorem run_integersBetween_beyond : ∃ report, Options.default.validate = .ok () ∧
    run ⟨.integersBetween (2 ^ 53 + 1) (2 ^ 53 + 1), .default, .ofTable [], .bundled⟩
      (⟨⟩ : Random.Highest) .root 0 = .ok (.int (2 ^ 53), report) := by
  have hvalid := Options.validate_eq_ok_iff.mpr Options.isValid_default
  have hordered : (2 ^ 53 + 1 : Int) ≤ 2 ^ 53 + 1 := Int.le_refl _
  have hdrawn := run_integersBetween hvalid rfl (by decide) hordered (by decide) (.ofTable [])
    .bundled (⟨⟩ : Random.Highest) 0
  obtain ⟨number, report, hrun, hleast, hgreatest, -⟩ := hdrawn.1 (by decide)
  have hnearest : Double.nearest (2 ^ 53 + 1) = 2 ^ 53 := by decide
  rw [hnearest] at hleast hgreatest
  obtain rfl : number = 2 ^ 53 := Int.le_antisymm hgreatest hleast
  exact ⟨report, hvalid, hrun⟩

end Generation

end Specimen
