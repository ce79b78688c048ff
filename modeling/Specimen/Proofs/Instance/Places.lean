import Specimen.Instance.Value
import Specimen.Proofs.Constraint.Children
import Specimen.Proofs.Instance.Names

/-!
# Specimen.Proofs.Instance.Places

What it means that a value has its parts at their places, and what every part of a run has in common.

The generators of arrays and objects leave the schemas below to a function, and so do the statements
about them: if that function gives values that fit their schemas, in whatever sense, then what a
generator makes of them has each of them at its place (`FitsItems`, `FitsMembers`, `FitsSet`). Along
the way no part loses a property of the run that does not depend on the random source and on the
recorded issues (`Unaffected`).

There is one statement for each generator; those about whole runs only differ in what `kept` and
`fits` stand for.
-/

namespace Specimen.Instance

variable {σ α : Type} {set : Constraints} {fits : Pointer → Json → Prop}
variable {kept : Progress σ → Prop}

/-! ### Values with their parts at their places -/

/-- A value fits the schema of its place; where there is none, it is `null`. -/
def FitsPlace (fits : Pointer → Json → Prop) : Option Pointer → Json → Prop
  | some node, value => fits node value
  | none, value => value = .null

/-- The items of an array fit the schemas of their positions, but one fits `contains` instead, if the
set has it. -/
def FitsItems (fits : Pointer → Json → Prop) (set : Constraints) (elements : List Json) : Prop :=
  ∃ containsAt : Option Nat, containsAt.isSome = set.contains.isSome ∧
    (∀ index ∈ containsAt, index < elements.length) ∧
    ∀ index item, elements[index]? = some item →
      FitsPlace fits (schemaAt? set containsAt index) item

/-- A value fits the schema of the property that it stands under. Under a name that is not declared
it fits the schema of such members, if there is one, or that of a pattern. -/
structure FitsMember (fits : Pointer → Json → Prop) (set : Constraints) (name : String)
    (value : Json) : Prop where
  declared : ∀ node, set.properties.get? name = some node → fits node value
  undeclared : set.properties.get? name = none →
    ∀ schema, set.additionalProperties = .schema schema →
      fits schema value ∨ ∃ entry ∈ set.patternProperties, fits entry.2 value

/-- The members of an object fit the schemas of their names. -/
def FitsMembers (fits : Pointer → Json → Prop) (set : Constraints)
    (members : List (String × Json)) : Prop :=
  ∀ name value, members.lookup name = some value → FitsMember fits set name value

/-- A value is of a kind, and its parts fit the schemas of their places. -/
def FitsKind (fits : Pointer → Json → Prop) (set : Constraints) : Kind → Json → Prop
  | .array, .arr elements => FitsItems fits set elements
  | .object, .obj members => FitsMembers fits set members
  | kind, value => kind.accepts value = true

/-- A value is a candidate, where there are candidates, or else of one of the kinds of the set. -/
def FitsSet (fits : Pointer → Json → Prop) (set : Constraints) (value : Json) : Prop :=
  match set.candidates with
  | some candidates => value ∈ candidates
  | none => ∃ kind ∈ set.kinds.kinds, FitsKind fits set kind value

/-! ### Draws and issues -/

/-- A property of a run does not depend on the random source, on the recorded issues and on the
number of values. -/
structure Unaffected (kept : Progress σ → Prop) : Prop where
  source : ∀ progress source, kept progress → kept { progress with source }
  record : ∀ progress code path message, kept progress →
    kept { progress with report := progress.report.record code path message }
  count : ∀ progress nodesGenerated, kept progress →
    kept { progress with report := { progress.report with nodesGenerated } }

/-- What is known of every value needs nothing to be kept. -/
theorem unaffected_false : Unaffected (fun _ : Progress σ => False) where
  source _ _ h := h
  record _ _ _ _ h := h
  count _ _ h := h

theorem ends_attempt {attempt : Attempt σ α} {result : α → Prop} (hk : Unaffected kept)
    (h : Yields attempt result) : Ends kept (Run.attempt attempt) result := by
  intro progress
  refine ⟨hk.source progress (attempt progress.source).2, fun a ha => ?_⟩
  exact .inr (((h progress.source).2 a ha).resolve_left fun hf => hf)

theorem ends_draw {draw : Random.Draw σ α} {result : α → Prop} (hk : Unaffected kept)
    (h : Yields draw result) : Ends kept (Run.draw draw) result :=
  ends_attempt hk (yields_attemptDraw h)

theorem ends_record (hk : Unaffected kept) (code : IssueCode) (node : Pointer) (message : String) :
    Ends kept (record code node message) fun _ => True :=
  fun progress => ⟨hk.record progress code node.text message, fun _ _ => .inr trivial⟩

theorem ends_countNode (hk : Unaffected kept) (budget : Option Nat) :
    Ends kept (countNode budget) fun _ => True := by
  have hcount : Ends kept (modifyReport fun report =>
      { report with nodesGenerated := report.nodesGenerated + 1 }) fun _ => True :=
    fun progress => ⟨hk.count progress _, fun _ _ => .inr trivial⟩
  have hget : Ends kept (get : Run σ (Progress σ)) fun _ => True :=
    fun _ => ⟨fun h => h, fun _ _ => .inr trivial⟩
  unfold countNode
  refine hcount.andThen fun _ => ?_
  split
  · refine hget.andThen fun progress => ?_
    split
    · exact ends_throw
    · exact ends_pure trivial
  · exact ends_pure trivial

end Specimen.Instance
