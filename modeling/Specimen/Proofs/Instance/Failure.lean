import Specimen.Proofs.Instance.Places
import Specimen.Proofs.Provider.Bundled

/-!
# Specimen.Proofs.Instance.Failure

How a part of a run may fail: because of the schema, or with faults of a certain sort
(`Failure.IsExcused`). Draws, results and counting keep to that; a part without demands to meet only
fails with faults (`Failure.IsFault`).
-/

namespace Specimen.Instance

variable {σ α : Type} {faults : Random.Fault → Prop} {allowed : Failure → Prop}

/-- The schema is at fault, or a draw is, in a certain way. -/
def Failure.IsExcused (faults : Random.Fault → Prop) : Failure → Prop
  | .schema _ => True
  | .fault cause => faults cause

/-- A draw is at fault, in a certain way. -/
def Failure.IsFault (faults : Random.Fault → Prop) : Failure → Prop
  | .schema _ => False
  | .fault cause => faults cause

/-- A fault is excused. -/
theorem Failure.IsFault.isExcused : {failure : Failure} → failure.IsFault faults →
    failure.IsExcused faults
  | .fault _, hfaults => hfaults

theorem Failure.IsFault.mono {wider : Random.Fault → Prop}
    (hw : ∀ cause, faults cause → wider cause) : {failure : Failure} →
    failure.IsFault faults → failure.IsFault wider
  | .fault cause, hfaults => hw cause hfaults

theorem Failure.IsExcused.mono {wider : Random.Fault → Prop}
    (hw : ∀ cause, faults cause → wider cause) : {failure : Failure} →
    failure.IsExcused faults → failure.IsExcused wider
  | .schema _, _ => trivial
  | .fault cause, hfaults => hw cause hfaults

/-- Two ends that were compared are in order. -/
theorem span_of_eq_ok {β : Type} [LT β] [DecidableLT β] {lo hi : β} {error : SchemaError}
    {span : β × β} (h : (if hi < lo then .error error else .ok (lo, hi)) = Except.ok span) :
    ¬hi < lo ∧ span = (lo, hi) := by
  split at h
  · cases h
  · rename_i hordered
    cases h
    exact ⟨hordered, rfl⟩

/-! ### Attempts -/

/-- What is drawn fails with the faults of the draw. -/
theorem failsOnly_attemptDraw {draw : Random.Draw σ α} {faults : Random.Fault → Prop}
    (h : FailsOnly draw faults) (hf : ∀ fault, faults fault → allowed (.fault fault)) :
    FailsOnly (Attempt.draw draw) allowed := by
  intro source failure hfailure
  have hdraw := h source
  unfold Attempt.draw at hfailure
  cases houtcome : draw source with
  | mk outcome after =>
    rw [houtcome] at hfailure hdraw
    cases outcome with
    | error fault =>
      cases hfailure
      exact hf fault (hdraw fault rfl)
    | ok a => cases hfailure

/-- A draw that never fails, as an attempt. -/
theorem failsOnly_attemptDraw_of_total {draw : Random.Draw σ α} (h : Total draw) :
    FailsOnly (Attempt.draw draw) allowed :=
  failsOnly_attemptDraw h fun _ hf => False.elim hf

/-- What is read fails with an error about a schema. -/
theorem failsOnly_attemptCheck (result : Except SchemaError α) :
    FailsOnly (Attempt.check result : Attempt σ α) (Failure.IsExcused faults) := by
  intro source failure hfailure
  cases result with
  | error error =>
    cases hfailure
    trivial
  | ok a => cases hfailure

/-- What is read is as it has been read. -/
theorem yields_attemptCheck (result : Except SchemaError α) :
    Yields (Attempt.check result : Attempt σ α) fun a => result = .ok a := by
  refine fun source => ⟨fun h => h, fun a ha => .inr ?_⟩
  cases result with
  | error error => cases ha
  | ok b =>
    cases ha
    rfl

@[simp] theorem attemptCheck_ok_bind {β : Type} (a : α) (next : α → Attempt σ β) :
    Attempt.check (.ok a) >>= next = next a := by
  funext source
  rw [bind_apply]
  rfl

@[simp] theorem attemptCheck_error_bind {β : Type} (error : SchemaError) (next : α → Attempt σ β)
    (source : σ) :
    (Attempt.check (.error error) >>= next) source = (.error (.schema error), source) := by
  rw [bind_apply]
  rfl

/-- A draw that does not fail, as an attempt, gives what it yields. -/
theorem exists_attemptDraw {draw : Random.Draw σ α} {result : α → Prop} (htotal : Total draw)
    (hyields : Yields draw result) (source : σ) :
    ∃ a after, Attempt.draw draw source = (.ok a, after) ∧ result a := by
  obtain ⟨a, after, hdraw, ha⟩ := exists_of_total htotal hyields source
  exact ⟨a, after, by simp [Attempt.draw, hdraw, Except.mapError], ha⟩

/-- That there are no values is an error about a schema. -/
theorem failsOnly_unsatisfiable (node : Pointer) (reason : String) :
    FailsOnly (unsatisfiable node reason : Attempt σ α) (Failure.IsExcused faults) :=
  failsOnly_throw trivial

/-! ### Parts of a run -/

theorem failsOnly_attempt {attempt : Attempt σ α} (h : FailsOnly attempt allowed) :
    FailsOnly (Run.attempt attempt) allowed :=
  fun progress failure hfailure => h progress.source failure hfailure

/-- What is drawn fails with the faults of the draw. -/
theorem failsOnly_draw {draw : Random.Draw σ α} (h : FailsOnly draw faults) :
    FailsOnly (Run.draw draw) (Failure.IsExcused faults) :=
  failsOnly_attempt (failsOnly_attemptDraw h fun _ hf => hf)

theorem failsOnly_draw_of_total {draw : Random.Draw σ α} (h : Total draw) :
    FailsOnly (Run.draw draw) allowed :=
  failsOnly_attempt (failsOnly_attemptDraw_of_total h)

theorem failsOnly_check (result : Except SchemaError α) :
    FailsOnly (Run.check result : Run σ α) (Failure.IsExcused faults) :=
  failsOnly_attempt (failsOnly_attemptCheck result)

theorem yields_check (result : Except SchemaError α) :
    Yields (Run.check result : Run σ α) fun a => result = .ok a :=
  ends_attempt unaffected_false (yields_attemptCheck result)

/-- A result that is not an error decides nothing. -/
theorem check_ok_bind {β : Type} (a : α) (next : α → Run σ β) :
    Run.check (.ok a) >>= next = next a := by
  funext progress
  rw [bind_apply]
  rfl

/-- Recording an issue does not fail. -/
theorem failsOnly_record (code : IssueCode) (node : Pointer) (message : String) :
    FailsOnly (record code node message : Run σ Unit) allowed := by
  intro progress failure hfailure
  cases hfailure

/-- Counting a node fails for the budget only, which is an error about a schema. -/
theorem failsOnly_countNode (budget : Option Nat) :
    FailsOnly (countNode budget : Run σ Unit) (Failure.IsExcused faults) := by
  have hcount : FailsOnly (modifyReport fun report =>
      { report with nodesGenerated := report.nodesGenerated + 1 } : Run σ Unit)
      (Failure.IsExcused faults) := fun progress failure hfailure => by cases hfailure
  have hget : FailsOnly (get : Run σ (Progress σ)) (Failure.IsExcused faults) :=
    fun progress failure hfailure => by cases hfailure
  unfold countNode
  refine hcount.bind fun _ => ?_
  split
  · refine hget.bind fun progress => ?_
    split
    · exact failsOnly_throw trivial
    · exact failsOnly_pure _
  · exact failsOnly_pure _

/-- Normalization fails with an error about a schema, also when it is remembered. -/
theorem failsOnly_normalized (document : Document) (node : Pointer) :
    FailsOnly (normalized document node : Run σ Normalization) (Failure.IsExcused faults) := by
  intro progress failure hfailure
  unfold normalized at hfailure
  cases hresult : (Normalization.normalize document progress.path node progress.report).1 with
  | error error =>
    change Except.mapError _ (Normalization.normalize _ _ _ _).1 = _ at hfailure
    rw [hresult] at hfailure
    cases hfailure
    trivial
  | ok normalization =>
    change Except.mapError _ (Normalization.normalize _ _ _ _).1 = _ at hfailure
    rw [hresult] at hfailure
    cases hfailure

/-- Entering a level does not fail by itself. -/
theorem failsOnly_below {part : Run σ α} (h : FailsOnly part allowed) (entered : List Pointer) :
    FailsOnly (below entered part) allowed :=
  fun progress => h (progress.descend entered)

end Specimen.Instance
