import Specimen.Proofs.Instance.Interpolation
import Specimen.Proofs.Instance.Plain

/-!
# Specimen.Proofs.Instance.NumberRange

What is drawn for the numbers between `lo` and `hi`, both excluded (`run_numbersBetween`).

What counts are the ends that are left once both bounds are moved inward by their epsilon. As long as
these are in order there is a number to draw, and it lies between `lo` and `hi`; bounds that are four
epsilons apart are far enough. Where the moved ends cross, the schema counts as unsatisfiable, although
there may be doubles between the bounds (`run_numbersBetween_narrow`).
-/

namespace Specimen

/-- A schema for the numbers between `lo` and `hi`, both excluded. -/
def Document.numbersBetween (lo hi : Double) : Document :=
  .ofJson (.object [("type", .str "number"), ("exclusiveMinimum", .double lo),
    ("exclusiveMaximum", .double hi)])

/-- The demands of the schema for the numbers between `lo` and `hi`. -/
def Constraints.numbersBetween (lo hi : Double) : Constraints :=
  { any .root with
    kinds := .of [.number]
    inferred := KindSet.filter? (· == .number)
    minimum := some ⟨lo, true⟩
    maximum := some ⟨hi, true⟩ }

variable {lo hi : Double}

theorem Document.isPlain_numbersBetween : (numbersBetween lo hi).IsPlain .root :=
  isPlain_of_all ⟨_, rfl⟩ rfl

namespace Constraints

theorem ofSchema_numbersBetween :
    ofSchema (.numbersBetween lo hi) .root = .ok (numbersBetween lo hi) := rfl

theorem isOfKind_numbersBetween : (numbersBetween lo hi).IsOfKind .number :=
  ⟨by decide, rfl, rfl, rfl⟩

/-- The moved ends decide whether there is a number. -/
theorem conflict?_numbersBetween :
    (numbersBetween lo hi).conflict? .number = none ↔ ¬hi - epsilon hi < lo + epsilon lo := by
  show (numbersBetween lo hi).numberConflict? = none ↔ _
  unfold numberConflict? numbersBetween numberBounds
  simp

theorem finalize_numbersBetween (h : ¬hi - epsilon hi < lo + epsilon lo) :
    (numbersBetween lo hi).finalize = .ok (numbersBetween lo hi) := by
  rw [finalize_eq_of_single .number (by decide) rfl rfl, conflict?_numbersBetween.mpr h]

theorem finalize_numbersBetween_eq_error (h : hi - epsilon hi < lo + epsilon lo) :
    ∃ reason, (numbersBetween lo hi).finalize = .error (.unsatisfiable .root reason) := by
  obtain ⟨reason, hreason⟩ := Option.ne_none_iff_exists'.mp
    (mt conflict?_numbersBetween.mp (not_not.mpr h))
  refine ⟨reason, ?_⟩
  rw [finalize_eq_of_single .number (by decide) rfl rfl, hreason]
  rfl

end Constraints

namespace Instance

open Constraints (epsilon)

variable {σ : Type} [Random.Source σ] {setting : Setting σ}

/-- Moved ends in order are finite. -/
theorem isFinite_moved (hlo : lo.isFinite = true) (hhi : hi.isFinite = true)
    (h : lo + epsilon lo ≤ hi - epsilon hi) :
    (lo + epsilon lo).isFinite = true ∧ (hi - epsilon hi).isFinite = true := by
  obtain ⟨hnan, hnan'⟩ := Double.isNaN_of_le h
  have hordered := Double.scaled_le_of_le h
  have hlower := Constraints.lt_add_epsilon hlo
  have hupper := Constraints.sub_epsilon_lt hhi
  exact ⟨Double.isFinite_of_between hlo hhi hnan (by omega) (by omega),
    Double.isFinite_of_between hlo hhi hnan' (by omega) (by omega)⟩

theorem number_drawn_numbersBetween (hlo : lo.isFinite = true) (hhi : hi.isFinite = true)
    (h : lo + epsilon lo ≤ hi - epsilon hi) (property : Option String)
    (child : Pointer → Option String → Run σ Json) :
    Total (ofKind setting (.numbersBetween lo hi) property child .number) ∧
      Yields (ofKind setting (.numbersBetween lo hi) property child .number) fun value =>
        ∃ number, value = .double number ∧ lo < number ∧ number < hi := by
  obtain ⟨hlower, hupper⟩ := isFinite_moved hlo hhi h
  have hspan (fallback : Double × Double) :
      numberSpan (.numbersBetween lo hi) fallback = .ok (lo + epsilon lo, hi - epsilon hi) := by
    unfold numberSpan
    exact if_neg (Double.not_lt_of_le h)
  obtain ⟨htotal, hyields⟩ := number_drawn (σ := σ) rfl (hspan setting.options.numberRange) hlower
    hupper h
  have hnumber : (ofKind setting (.numbersBetween lo hi) property child .number : Run σ Json) =
      Json.double <$> Run.attempt (number (.numbersBetween lo hi) setting.options.numberRange) := by
    rw [map_eq_pure_bind]
    rfl
  rw [hnumber]
  constructor
  · exact (failsOnly_attempt htotal).map _
  · refine (ends_attempt unaffected_false hyields).map fun number hnumber => ⟨number, rfl, ?_⟩
    obtain ⟨hge, hle⟩ := hnumber
    have hnumber := (Double.isNaN_of_le hle).1
    have hleast := Double.scaled_le_of_le hge
    have hgreatest := Double.scaled_le_of_le hle
    have hlo' := Constraints.lt_add_epsilon hlo
    have hhi' := Constraints.sub_epsilon_lt hhi
    rw [Double.lt_iff (Double.isNaN_of_isFinite hlo) hnumber,
      Double.lt_iff hnumber (Double.isNaN_of_isFinite hhi)]
    omega

end Instance

namespace Generation

open Instance
open Constraints (epsilon)

variable {σ : Type} [Random.Source σ] {options : Options}

theorem exists_run_numbersBetween (valid : options.IsValid) (hbudget : options.nodeBudget = none)
    (hlo : lo.isFinite = true) (hhi : hi.isFinite = true)
    (hordered : lo + epsilon lo ≤ hi - epsilon hi) (provider : Provider σ)
    (library : Pattern.Library σ) (source : σ) (seed : UInt64) :
    ∃ number report,
      run ⟨.numbersBetween lo hi, options, provider, library⟩ source .root seed =
        .ok (.double number, report) ∧ lo < number ∧ number < hi := by
  let setting : Setting σ := ⟨.numbersBetween lo hi, options, provider, library⟩
  have hplain : setting.document.IsPlain .root := Document.isPlain_numbersBetween
  obtain ⟨value, report, hrun, number, rfl, hnumber⟩ := exists_run_of_isPlain valid hbudget hplain
    Constraints.ofSchema_numbersBetween Constraints.isOfKind_numbersBetween
    (Constraints.finalize_numbersBetween (Double.not_lt_of_le hordered))
    (number_drawn_numbersBetween hlo hhi hordered none) source seed
  exact ⟨number, report, hrun, hnumber⟩

theorem run_numbersBetween_eq_error (valid : options.IsValid) (hbudget : options.nodeBudget = none)
    (hcrossed : hi - epsilon hi < lo + epsilon lo) (provider : Provider σ)
    (library : Pattern.Library σ) (source : σ) (seed : UInt64) :
    ∃ reason, run ⟨.numbersBetween lo hi, options, provider, library⟩ source .root seed =
      .error (.schema (.unsatisfiable .root reason)) := by
  obtain ⟨reason, hfinal⟩ := Constraints.finalize_numbersBetween_eq_error hcrossed
  exact ⟨reason, run_eq_error_of_isPlain valid hbudget Document.isPlain_numbersBetween
    Constraints.ofSchema_numbersBetween hfinal source seed⟩

/-- **What counts are the moved ends.** While they are in order a number is drawn, and it lies between
`lo` and `hi`; where they cross, the schema counts as unsatisfiable. They are in order whenever `lo`
and `hi` are four epsilons apart. -/
theorem run_numbersBetween (valid : options.validate = .ok ()) (hbudget : options.nodeBudget = none)
    (hlo : lo.isFinite = true) (hhi : hi.isFinite = true) (provider : Provider σ)
    (library : Pattern.Library σ) (source : σ) (seed : UInt64) :
    (lo + epsilon lo ≤ hi - epsilon hi → ∃ number report,
      run ⟨.numbersBetween lo hi, options, provider, library⟩ source .root seed =
        .ok (.double number, report) ∧ lo < number ∧ number < hi) ∧
    (¬lo + epsilon lo ≤ hi - epsilon hi → ∃ reason,
      run ⟨.numbersBetween lo hi, options, provider, library⟩ source .root seed =
        .error (.schema (.unsatisfiable .root reason))) ∧
    (max 1 (max |lo.toRat| |hi.toRat|) ≤ 2 ^ 48 * (hi.toRat - lo.toRat) → ∃ number report,
      run ⟨.numbersBetween lo hi, options, provider, library⟩ source .root seed =
        .ok (.double number, report) ∧ lo < number ∧ number < hi) := by
  have hvalid := Options.validate_eq_ok_iff.mp valid
  refine ⟨fun hordered => ?_, fun hcrossed => ?_, fun hwide => ?_⟩
  · exact exists_run_numbersBetween hvalid hbudget hlo hhi hordered provider library source seed
  · have hlower := Double.isNaN_add hlo (Constraints.epsilon_eq hlo).1
    have hupper := Double.isNaN_sub hhi (Constraints.epsilon_eq hhi).1
    exact run_numbersBetween_eq_error hvalid hbudget (Double.lt_of_not_le hlower hupper hcrossed)
      provider library source seed
  · have hordered := Constraints.moved_le_moved hlo hhi hwide
    exact exists_run_numbersBetween hvalid hbudget hlo hhi hordered provider library source seed

/-- Between zero and one there is always a number to draw. -/
theorem run_numbersBetween_zeroOne : ∃ number report, Options.default.validate = .ok () ∧
    run ⟨.numbersBetween .zero (.ofNat 1), .default, .ofTable [], .bundled⟩
      (⟨⟩ : Random.Highest) .root 0 = .ok (.double number, report) ∧
        Double.zero < number ∧ number < .ofNat 1 := by
  have hvalid := Options.validate_eq_ok_iff.mpr Options.isValid_default
  have hordered : Double.zero + epsilon .zero ≤ .ofNat 1 - epsilon (.ofNat 1) := by decide +kernel
  obtain ⟨number, report, hrun⟩ := (run_numbersBetween hvalid rfl rfl Double.isFinite_one
    (.ofTable []) .bundled (⟨⟩ : Random.Highest) 0).1 hordered
  exact ⟨number, report, hvalid, hrun⟩

/-- A double that is some steps of the format above one. -/
def stepsAboveOne (steps : Nat) : Double := .ofRatio false ((2 ^ 52 + steps) * Double.one) (2 ^ 52)

/-- Two steps above one the moved ends cross, although there is a double between the bounds. -/
theorem run_numbersBetween_narrow :
    (∃ number : Double, number.isFinite = true ∧ .ofNat 1 < number ∧ number < stepsAboveOne 2) ∧
    Options.default.validate = .ok () ∧
    ∃ reason, run ⟨.numbersBetween (.ofNat 1) (stepsAboveOne 2), .default, .bundled default, .bundled⟩
      (Random.ChaCha.ofSeed 0) .root 0 = .error (.schema (.unsatisfiable .root reason)) := by
  have hbetween : (stepsAboveOne 1).isFinite = true ∧ Double.ofNat 1 < stepsAboveOne 1 ∧
      stepsAboveOne 1 < stepsAboveOne 2 := by decide +kernel
  have hcrossed : stepsAboveOne 2 - epsilon (stepsAboveOne 2) <
      Double.ofNat 1 + epsilon (.ofNat 1) := by decide +kernel
  exact ⟨⟨_, hbetween⟩, Options.validate_eq_ok_iff.mpr Options.isValid_default,
    run_numbersBetween_eq_error Options.isValid_default rfl hcrossed _ _ _ 0⟩

end Generation

end Specimen
