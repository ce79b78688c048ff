import Specimen.Generation
import Specimen.Proofs.Instance.Step
import Specimen.Proofs.Normalization.Descent
import Specimen.Proofs.Normalization.Independence
import Specimen.Proofs.Options

/-!
# Specimen.Proofs.Instance.Fits

The value of a run fits its schema at every depth, unless the report says that it stops short of it
(`fits_of_run`).

`Fits` follows the value down: a value is what one of the settled sets of its schema asks for, and
its parts fit the schemas which that set has for their places. The sets are those of the schema by
itself, on an empty path; a run meets the same ones as long as nothing is recorded that makes its
report stop short.
-/

namespace Specimen

namespace Instance

variable {σ : Type} {document : Document} {node : Pointer} {value : Json}

/-! ### Fitting a schema -/

/-- The settled sets of demands of a schema by itself. -/
def settled (document : Document) (node : Pointer) : List Constraints :=
  match (Normalization.normalize document [] node (.start 0)).1 with
  | .ok normalization => normalization.demands.sets
  | .error _ => []

/-- A value fits a schema: it is what one of the settled sets of the schema asks for, and its parts
fit the schemas of their places. -/
def Fits (document : Document) (node : Pointer) (value : Json) : Prop :=
  ∃ set ∈ settled document node,
    FitsSet (fun child part => ∃ _ : sizeOf part < sizeOf value, Fits document child part) set value
termination_by sizeOf value

theorem FitsPlace.mono {f g : Pointer → Json → Prop} {place : Option Pointer}
    (h : FitsPlace f place value) (hfg : ∀ child, f child value → g child value) :
    FitsPlace g place value := by
  cases place with
  | none => exact h
  | some child => exact hfg child h

theorem FitsMember.mono {f g : Pointer → Json → Prop} {set : Constraints} {name : String}
    (h : FitsMember f set name value) (hfg : ∀ child, f child value → g child value) :
    FitsMember g set name value where
  declared child hchild := hfg child (h.declared child hchild)
  undeclared hname schema hschema :=
    (h.undeclared hname schema hschema).imp (hfg schema)
      fun ⟨entry, hentry, hvalue⟩ => ⟨entry, hentry, hfg entry.2 hvalue⟩

theorem FitsKind.mono {f g : Pointer → Json → Prop} {set : Constraints} {kind : Kind}
    (h : FitsKind f set kind value)
    (hfg : ∀ child part, sizeOf part < sizeOf value → f child part → g child part) :
    FitsKind g set kind value := by
  unfold FitsKind at h ⊢
  split at h
  · obtain ⟨containsAt, hsome, hlength, hitems⟩ := h
    refine ⟨containsAt, hsome, hlength, fun index item hitem => ?_⟩
    refine (hitems index item hitem).mono fun child => hfg child item ?_
    have := List.sizeOf_lt_of_mem (List.mem_of_getElem? hitem)
    simp only [Json.arr.sizeOf_spec]
    omega
  · intro name part hpart
    refine (h name part hpart).mono fun child => hfg child part ?_
    have := Json.sizeOf_lt_of_lookup hpart
    simp only [Json.obj.sizeOf_spec]
    omega
  · exact h

theorem FitsSet.mono {f g : Pointer → Json → Prop} {set : Constraints}
    (h : FitsSet f set value)
    (hfg : ∀ child part, sizeOf part < sizeOf value → f child part → g child part) :
    FitsSet g set value := by
  unfold FitsSet at h ⊢
  cases hc : set.candidates with
  | some candidates => rwa [hc] at h
  | none =>
    rw [hc] at h
    obtain ⟨kind, hkind, hvalue⟩ := h
    exact ⟨kind, hkind, hvalue.mono hfg⟩

theorem fits_iff :
    Fits document node value ↔ ∃ set ∈ settled document node, FitsSet (Fits document) set value := by
  rw [Fits]
  constructor
  · intro hfits
    obtain ⟨set, hset, h⟩ := hfits
    exact ⟨set, hset, h.mono fun child part _ ⟨_, hpart⟩ => hpart⟩
  · intro hfits
    obtain ⟨set, hset, h⟩ := hfits
    exact ⟨set, hset, h.mono fun child part hlt hpart => ⟨hlt, hpart⟩⟩

/-! ### Runs -/

/-- The report of a run says that its value stops short of its schema. -/
def StopsShort (progress : Progress σ) : Prop := progress.report.StopsShort

theorem unaffected_stopsShort : Unaffected (StopsShort : Progress σ → Prop) where
  source _ _ h := h
  record _ _ _ _ h := Report.StopsShort.record h
  count _ _ h := h

/-- The demands that a run meets are those of the schema by itself, unless it leads back. -/
theorem ends_normalized (document : Document) (node : Pointer) :
    Ends (StopsShort : Progress σ → Prop) (normalized document node) fun normalization =>
      ∀ set ∈ normalization.demands.sets, set ∈ settled document node := by
  intro progress
  -- The walk from the path and the one from nowhere, which `settled` looks at.
  have hcases := @Normalization.demandsOn_cases document progress.path node
    ⟨[], progress.report, 0⟩ ⟨[], .start 0, 0⟩
  unfold normalized settled Normalization.normalize
  cases hwalk : Normalization.demandsOn document progress.path node ⟨[], progress.report, 0⟩ with
  | mk result notes =>
  cases hroot : Normalization.demandsOn document [] node ⟨[], .start 0, 0⟩ with
  | mk rootResult rootNotes =>
    rw [hwalk, hroot] at hcases
    refine ⟨hcases.1, fun normalization hn => hcases.2.imp_right fun h => ?_⟩
    cases result with
    | error error => cases hn
    | ok demands =>
      cases hn
      rcases h with ⟨target, htarget⟩ | hsame
      · cases htarget
        exact fun set hset => absurd hset List.not_mem_nil
      · obtain rfl : Except.ok demands = rootResult := hsame
        exact fun set hset => hset

theorem ends_below {α : Type} {part : Run σ α} {result : α → Prop}
    (h : Ends StopsShort part result) (entered : List Pointer) :
    Ends StopsShort (below entered part) result :=
  fun progress => h (progress.descend entered)

variable [Random.Source σ] {setting : Setting σ}

/-- A value that a run produces fits the schema. -/
theorem ends_value (hattempts : setting.options.uniqueAttempts ≠ 0) (room : Nat) (node : Pointer)
    (property : Option String) :
    Ends StopsShort (Instance.value setting room node property)
      (Fits setting.document node) := by
  induction room generalizing node property with
  | zero =>
    -- The simplest value need not fit, but the report says so.
    refine (ends_countNode unaffected_stopsShort _).andThen fun _ => ends_of_kept ?_
    exact fun progress => Report.stopsShort_record_depthTruncated
  | succ room ih =>
    rw [value_succ]
    refine ends_valueWith unaffected_stopsShort (ends_normalized setting.document node) ?_ ?_
    · exact fun target message => ends_of_kept fun progress =>
        Report.stopsShort_record_cycleBroken
    · intro set entered
      refine ends_below ?_ entered
      refine (ends_ofConstraints unaffected_stopsShort
        (fun child _ property => ih child property) property).mono fun value hvalue hsettled => ?_
      exact fits_iff.mpr ⟨set, hsettled, hvalue hattempts⟩

end Instance

theorem Options.uniqueAttempts_ne_zero {options : Options} (h : options.validate = .ok ()) :
    options.uniqueAttempts ≠ 0 :=
  (IsValid.of_validate h).uniqueAttempts

namespace Generation

open Instance
open Specimen.Random (Highest)

variable {σ : Type} [Random.Source σ] {setting : Setting σ} {source : σ} {node : Pointer}
variable {seed : UInt64} {value : Json} {report : Report}

/-- **Values fit their schemas.** Where a run neither goes too far down nor breaks a cycle of
references, its value fits the schema, and so does each part of it the schema of its place. -/
theorem fits_of_run (valid : setting.options.validate = .ok ())
    (h : run setting source node seed = .ok (value, report))
    (hdepth : report.has .depthTruncated = false) (hcycle : report.has .cycleBroken = false) :
    Fits setting.document node value := by
  have hattempts := Options.uniqueAttempts_ne_zero valid
  have hends : (finish setting source node seed).1 = .ok value →
      StopsShort (finish setting source node seed).2 ∨ Fits setting.document node value :=
    (ends_value hattempts setting.options.maxDepth node none (start source node seed)).2 value
  unfold run at h
  cases hfinish : finish setting source node seed with
  | mk result progress =>
    rw [hfinish] at h hends
    cases result with
    | error failure => cases h
    | ok found =>
      cases h
      rcases hends rfl with (hd | hc) | hfits
      · exact absurd hd (by rw [hdepth]; exact Bool.false_ne_true)
      · exact absurd hc (by rw [hcycle]; exact Bool.false_ne_true)
      · exact hfits

/-- Arrays of one truth value each. -/
def singletons : Setting Highest where
  document := .ofJson (.object
    [("type", .str "array"), ("minItems", .int 1), ("maxItems", .int 1),
      ("items", .object [("type", .str "boolean")])])
  options := { Options.default with maxDepth := 2 }
  provider := .ofTable []
  library := .bundled

theorem fits_of_run_singletons :
    ∃ value report, singletons.options.validate = .ok () ∧
      run singletons ⟨⟩ .root 0 = .ok (value, report) ∧
      report.has .depthTruncated = false ∧ report.has .cycleBroken = false ∧
      Fits singletons.document .root value := by
  have hvalid : singletons.options.validate = .ok () := by
    have hok : singletons.options.validate.isOk = true := by decide +kernel
    cases hresult : singletons.options.validate with
    | error error => rw [hresult] at hok; cases hok
    | ok _ => rfl
  have hrun : (run singletons ⟨⟩ .root 0).toOption.map
      (fun result => (result.2.has .depthTruncated, result.2.has .cycleBroken)) =
        some (false, false) := by
    have hwalk := @Normalization.alternatives_eq_descended singletons.document 3 (by decide +kernel)
    have hnormalized (node : Pointer) :
        (normalized singletons.document node : Run Highest Normalization) =
          fun progress =>
            let outcome :=
              Normalization.normalize singletons.document progress.path node progress.report
            (outcome.1.mapError .schema, { progress with report := outcome.2 }) := rfl
    have hdepth : singletons.options.maxDepth = 1 + 1 := rfl
    simp only [run, finish, hdepth, Instance.value, hnormalized, Normalization.normalize,
      Normalization.demandsOn, Normalization.settledDemands, hwalk]
    decide +kernel
  obtain ⟨⟨value, report⟩, hresult, hhas⟩ := Option.map_eq_some_iff.mp hrun
  obtain ⟨hdepth, hcycle⟩ := Prod.mk.inj hhas
  have hok : run singletons ⟨⟩ .root 0 = .ok (value, report) := by
    cases hr : run singletons ⟨⟩ .root 0 with
    | error failure => rw [hr] at hresult; cases hresult
    | ok other => rw [hr] at hresult; cases hresult; rfl
  exact ⟨value, report, hvalid, hok, hdepth, hcycle, fits_of_run hvalid hok hdepth hcycle⟩

end Generation

end Specimen
