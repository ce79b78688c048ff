import Specimen.Proofs.Instance.Congruence
import Specimen.Proofs.Normalization.Combination

/-!
# Specimen.Proofs.Instance.Step

One call of a run, apart from the calls for the schemas below.

The value is counted first (`countNode_some`, `report_countNode`). `valueWith` is what a run does
for a schema as long as there are levels left, with the way down and the values below as parameters:
a run is its own step (`value_succ`). What holds of a step follows from its sets of demands, one by
one (`ends_valueWith`). Statements about what a single call does, and not the calls inside it, are
made with other parameters than those of the run itself.
-/

namespace Specimen.Instance

variable {σ : Type}

/-! ### Counting values -/

/-- Counting a value with a budget differs in its result only. -/
theorem countNode_some (limit : Nat) (progress : Progress σ) :
    (countNode (some limit) : Run σ Unit) progress =
      if limit < progress.report.nodesGenerated + 1 then
        (.error (.schema (.budgetExceeded limit)), ((countNode none : Run σ Unit) progress).2)
      else (countNode none : Run σ Unit) progress := by
  show (if limit < progress.report.nodesGenerated + 1 then
      throw (.schema (.budgetExceeded limit)) else pure () : Run σ Unit)
    ((countNode none : Run σ Unit) progress).2 = _
  split <;> rfl

theorem report_countNode (budget : Option Nat) (progress : Progress σ) :
    ((countNode budget : Run σ Unit) progress).2.report =
      { progress.report with nodesGenerated := progress.report.nodesGenerated + 1 } := by
  cases budget with
  | none => rfl
  | some limit =>
    rw [countNode_some]
    split <;> rfl

/-! ### Calls -/

/-- Normalizing changes the report only. -/
theorem normalized_eq (document : Document) (node : Pointer) :
    (normalized document node : Run σ Normalization) = fun progress =>
      let outcome := Normalization.normalize document progress.path node progress.report
      (outcome.1.mapError .schema, { progress with report := outcome.2 }) := rfl

variable [Random.Source σ]

/-- A value for a schema at least one level above the limit. `descend` runs a part one level further
down, and `child` produces the values for the schemas there. -/
def valueWith (setting : Setting σ) (descend : List Pointer → Run σ Json → Run σ Json)
    (child : Pointer → Option String → Run σ Json) (node : Pointer) (property : Option String) :
    Run σ Json := do
  countNode setting.options.nodeBudget
  let normalization ← normalized setting.document node
  match normalization.demands with
  | .cycle target =>
    record .cycleBroken node s!"reference to {target} re-enters the current path"
    return terminalValue setting.document target
  | .single set => descend normalization.entered (ofConstraints setting set property child)
  | .choice sets => do
    let set ← pick sets
    descend normalization.entered (ofConstraints setting set property child)

variable {setting : Setting σ} {descend otherDescend : List Pointer → Run σ Json → Run σ Json}
variable {child other : Pointer → Option String → Run σ Json}

/-- A run is its own step. -/
theorem value_succ (setting : Setting σ) (room : Nat) (node : Pointer) (property : Option String) :
    value setting (room + 1) node property =
      valueWith setting below (value setting room) node property := rfl

/-- What a call gives is what it gives for one of the sets of demands of its schema, or for a target that
it leads back to. -/
theorem ends_valueWith {kept : Progress σ → Prop} (hk : Unaffected kept) {fact : Constraints → Prop}
    {result : Json → Prop} {node : Pointer} {property : Option String}
    (hnormalized : Ends kept (normalized setting.document node) fun normalization =>
      ∀ set ∈ normalization.demands.sets, fact set)
    (hcycle : ∀ target message, Ends kept (do
      record .cycleBroken node message
      return terminalValue setting.document target) result)
    (hset : ∀ set entered, Ends kept (descend entered (ofConstraints setting set property child))
      fun value => fact set → result value) :
    Ends kept (valueWith setting descend child node property) result := by
  unfold valueWith
  refine (ends_countNode hk _).andThen fun _ => hnormalized.bind fun normalization => ?_
  split
  · rename_i target _
    exact (hcycle target _).mono fun value hvalue _ => hvalue
  · rename_i set hdemands
    refine (hset set _).mono fun value hvalue hfacts => hvalue (hfacts set ?_)
    rw [hdemands]
    exact List.mem_singleton_self set
  · rename_i sets hdemands
    refine (ends_pick hk sets).bind fun set => (hset set _).mono ?_
    intro value hvalue hmem hfacts
    refine hvalue (hfacts set ?_)
    rw [hdemands]
    exact hmem

/-- Steps are related when their ways down and the values below are. One level further down there
may be another relation. -/
theorem related_valueWith {related inner : (α : Type) → Run σ α → Run σ α → Prop}
    (hr : Congruent related) (hi : Congruent inner) (node : Pointer) (property : Option String)
    (hcount : related _ (countNode setting.options.nodeBudget)
      (countNode setting.options.nodeBudget))
    (hnormalized : related _ (normalized setting.document node) (normalized setting.document node))
    (hdescend : ∀ entered part again, inner Json part again →
      related Json (descend entered part) (otherDescend entered again))
    (hc : ∀ node property, inner Json (child node property) (other node property)) :
    related Json (valueWith setting descend child node property)
      (valueWith setting otherDescend other node property) := by
  have hset (set : Constraints) (entered : List Pointer) :
      related Json (descend entered (ofConstraints setting set property child))
        (otherDescend entered (ofConstraints setting set property other)) := by
    refine hdescend entered _ _ ?_
    exact @related_ofConstraints _ _ set setting setting.options.maxDepth setting.options.nodeBudget
      setting.document _ _ _ hi rfl (fun node _ property => hc node property) property
  unfold valueWith
  refine hr.bind hcount fun _ => hr.bind hnormalized fun normalization => ?_
  split
  · exact hr.bind (hr.record _ _ _) fun _ => hr.pure _
  · rename_i set _
    exact hset set _
  · rename_i sets _
    exact hr.bind (related_pick hr sets) fun set => hset set _

end Specimen.Instance
