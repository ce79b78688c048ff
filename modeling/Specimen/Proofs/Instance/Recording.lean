import Specimen.Proofs.Instance.Places

/-!
# Specimen.Proofs.Instance.Recording

What a part of a run has recorded when it gives a value (`Leaves`): the value and the reports before
and after it stand in some relation to each other. Draws leave the report alone, and what a sequence
leaves is put together from what its parts do (`Leaves.bind`).
-/

namespace Specimen.Instance

variable {σ α β : Type}

/-- When a part of a run gives a value, that value stands in a relation to the report before it and the
one after it. -/
def Leaves (part : Run σ α) (relation : Report → α → Report → Prop) : Prop :=
  ∀ progress a, (part progress).1 = .ok a → relation progress.report a (part progress).2.report

variable {part : Run σ α} {next : α → Run σ β}
variable {first relation wider : Report → α → Report → Prop} {second : Report → β → Report → Prop}

theorem Leaves.mono (h : Leaves part relation)
    (hw : ∀ before a after, relation before a after → wider before a after) : Leaves part wider :=
  fun progress a ha => hw _ a _ (h progress a ha)

theorem leaves_pure {a : α} (h : ∀ report, relation report a report) :
    Leaves (pure a : Run σ α) relation := by
  intro progress b hb
  cases hb
  exact h progress.report

theorem Leaves.bind (h : Leaves part first)
    (hn : ∀ a, Leaves (next a) fun between b after =>
      ∀ before, first before a between → second before b after) :
    Leaves (part >>= next) second := by
  intro progress b hb
  have hfirst := h progress
  rw [bind_apply] at hb ⊢
  cases hpart : part progress with
  | mk outcome reached =>
    rw [hpart] at hb hfirst
    cases outcome with
    | error error => cases hb
    | ok a => exact hn a reached b hb progress.report (hfirst a rfl)

/-- A part of a run that does not fail gives a value, which stands in the relation. -/
theorem Leaves.exists_of_total (h : Leaves part relation) (ht : Total part)
    (progress : Progress σ) : ∃ a reached, part progress = (.ok a, reached) ∧
      relation progress.report a reached.report := by
  obtain ⟨a, reached, hpart, -⟩ := Specimen.exists_of_total ht (yields_any part) progress
  have hrelation := h progress a (congrArg Prod.fst hpart)
  rw [hpart] at hrelation
  exact ⟨a, reached, hpart, hrelation⟩

theorem leaves_attempt {attempt : Attempt σ α} {result : α → Prop} (h : Yields attempt result) :
    Leaves (Run.attempt attempt) fun before a after => after = before ∧ result a :=
  fun _ _ ha => ⟨rfl, h.of_eq_ok ha⟩

theorem leaves_draw {draw : Random.Draw σ α} {result : α → Prop} (h : Yields draw result) :
    Leaves (Run.draw draw) fun before a after => after = before ∧ result a :=
  leaves_attempt (yields_attemptDraw h)

theorem leaves_record (code : IssueCode) (node : Pointer) (message : String) :
    Leaves (record code node message : Run σ Unit) fun before _ after =>
      after = before.record code node.text message :=
  fun _ _ _ => rfl

end Specimen.Instance
