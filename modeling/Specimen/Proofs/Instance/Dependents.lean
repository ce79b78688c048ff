import Specimen.Proofs.Instance.Object

/-!
# Specimen.Proofs.Instance.Dependents

Which properties of an object come with all that they require (`object_dependents`).

The names that are chosen before any value is produced are closed under `dependentRequired`. The
properties that are added afterwards, under sampled and made-up names, are not looked up there: an
object lacks a required property exactly when such an added property requires it.
-/

namespace Specimen.Instance

open NameSet (closure requiredBy)
open Specimen.Random (Highest)

variable {σ : Type} [Random.Source σ] {setting : Setting σ} {set : Constraints}
variable {child : Pointer → Option String → Run σ Json} {progress : Progress σ}
variable {members : NameTable Json}

/-- Some names of an object come with all that they require. -/
def HasDependents (set : Constraints) (members : NameTable Json) (name : String) : Prop :=
  ∀ other ∈ requiredBy set.dependentRequired name, members.has other = true

/-- The two steps in which an object comes about. -/
theorem exists_names_of_object (h : (object setting set child progress).1 = .ok members) :
    ∃ names after,
      Run.attempt (chooseNames setting.document set setting.options.optionalPropertyProbability)
        progress = (.ok names, after) ∧
      (objectWith setting set child names after).1 = .ok members := by
  unfold object at h
  rw [bind_apply] at h
  split at h
  · rename_i names after hnames
    exact ⟨names, after, hnames, h⟩
  · cases h

/-- **The properties of an object and their dependents.** The chosen names are present, with all
that they require. Every other property is neither declared nor demanded, and all properties
come with what they require exactly when those others do; in particular they do when names that
require something are declared or demanded. -/
theorem object_dependents (h : (object setting set child progress).1 = .ok members) :
    ∃ names : NameSet,
      (Run.attempt (chooseNames setting.document set
        setting.options.optionalPropertyProbability) progress).1 = .ok names ∧
      (∀ name ∈ names, members.has name = true ∧ HasDependents set members name) ∧
      (∀ name, members.has name = true → name ∉ names →
        set.properties.has name = false ∧
          name ∉ closure set.dependentRequired set.required) ∧
      ((∀ name, members.has name = true → HasDependents set members name) ↔
        ∀ name, members.has name = true → name ∉ names → HasDependents set members name) ∧
      ((∀ name, set.properties.has name = false →
          name ∉ closure set.dependentRequired set.required →
          requiredBy set.dependentRequired name = ∅) →
        ∀ name, members.has name = true → HasDependents set members name) := by
  obtain ⟨names, after, hnames, hobject⟩ := exists_names_of_object h
  have hchoice : IsChoice set names :=
    ((ends_attempt unaffected_false (yields_chooseNames setting.document set _) progress).2 names
      (by rw [hnames])).resolve_left fun hf => hf
  -- The values of the members do not matter here, so nothing is asked of the schemas below.
  have hchild : ∀ node, set.IsChild node → ∀ property,
      Ends (fun _ => False) (child node property) fun _ => True :=
    fun node _ property => yields_any _
  have hwith : IsObjectWith (fun _ _ => True) set names members :=
    ((ends_objectWith unaffected_false hchild names after).2 members hobject).resolve_left fun hf => hf
  have hchosen (name : String) (hname : name ∈ names) : HasDependents set members name :=
    fun other hother => hwith.chosen other (hchoice.closed name hname other hother)
  have hadded (name : String) (hmem : members.has name = true) (hname : name ∉ names) :
      set.properties.has name = false ∧ name ∉ closure set.dependentRequired set.required :=
    ⟨hwith.added name hmem hname, fun hforced => hname (hchoice.forced name hforced)⟩
  have hall (hothers : ∀ name, members.has name = true → name ∉ names →
      HasDependents set members name) (name : String) (hmem : members.has name = true) :
      HasDependents set members name := by
    by_cases hname : name ∈ names
    · exact hchosen name hname
    · exact hothers name hmem hname
  refine ⟨names, by rw [hnames], fun name hname => ⟨hwith.chosen name hname, hchosen name hname⟩,
    hadded, ⟨fun hall name hmem _ => hall name hmem, hall⟩, fun hstatic => hall ?_⟩
  intro name hmem hname other hother
  obtain ⟨hdeclared, hforced⟩ := hadded name hmem hname
  rw [hstatic name hdeclared hforced] at hother
  exact absurd hother NameSet.not_mem_empty

/-! ### A property without what it requires -/

/-- An optional property `b`, further properties under the name `a` only, and `a` requires `b`. -/
def requiring : Constraints :=
  { Constraints.any .root with
    properties := .ofList [("b", Pointer.root.push "b")]
    patternProperties := [("^a$", Pointer.root.push "a")]
    additionalProperties := .forbidden
    dependentRequired := .ofList [("a", .ofList ["b"])] }

/-- Optional properties never appear. -/
def withoutOptional : Setting Highest where
  document := .ofJson (.object [])
  options := { Options.default with optionalPropertyProbability := .zero }
  provider := .ofTable []
  library := .bundled

/-- The start of a run over such objects. -/
def fromHighest : Progress Highest := ⟨⟨⟩, [], 0, .start 0⟩

/-- The added property `a` does not come with `b`. -/
theorem object_dependents_requiring :
    ∃ (members : NameTable Json) (names : NameSet),
      (object withoutOptional requiring (fun _ _ => return .null) fromHighest).1 = .ok members ∧
      members.has "a" = true ∧ "a" ∉ names ∧ ¬HasDependents requiring members "a" ∧
      ∀ name ∈ names, HasDependents requiring members name := by
  have hrun : (object withoutOptional requiring (fun _ _ => return .null)
      fromHighest).1.toOption.map (fun members => (members.has "a", members.has "b")) =
        some (true, false) := by
    decide +kernel
  obtain ⟨members, hmembers, hhas⟩ := Option.map_eq_some_iff.mp hrun
  have hok : (object withoutOptional requiring (fun _ _ => return .null) fromHighest).1 =
      .ok members := by
    cases hresult : (object withoutOptional requiring (fun _ _ => return .null) fromHighest).1 with
    | error failure => rw [hresult] at hmembers; cases hmembers
    | ok other => rw [hresult] at hmembers; cases hmembers; rfl
  obtain ⟨ha, hb⟩ := Prod.mk.inj hhas
  have hlacks : ¬HasDependents requiring members "a" := by
    intro h
    have := h "b" (by decide)
    rw [hb] at this
    cases this
  obtain ⟨names, -, hnames, -⟩ := object_dependents hok
  exact ⟨members, names, hok, ha, fun hmem => hlacks (hnames "a" hmem).2, hlacks,
    fun name hname => (hnames name hname).2⟩

end Specimen.Instance
