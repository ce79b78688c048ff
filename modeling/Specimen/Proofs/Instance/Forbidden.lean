import Specimen.Proofs.Instance.Dependents

/-!
# Specimen.Proofs.Instance.Forbidden

Which chosen names must not stand in an object (`strays_of_chooseNames`).

A name is ruled out by the schema `false` of its property, or, where it has no property and matches
no pattern, by `additionalProperties`. Among the optional names that are drawn there is none like
that. But the names that a drawn name requires are chosen with it, and these are not looked at.
-/

namespace Specimen.Instance

open NameSet (Closed LeadsTo closure requiredBy)
open Specimen.Random (Highest)

variable {σ : Type} {document : Document} {set : Constraints} {optional : List String}
variable {names chosen : NameSet} {name : String}

/-- No object with a member of that name is valid. -/
def Forbids (library : Pattern.Library σ) (document : Document) (set : Constraints)
    (name : String) : Prop :=
  (∃ node, set.properties.get? name = some node ∧ (document.fragment node).bool? = some false) ∨
    set.additionalProperties = .forbidden ∧ set.properties.get? name = none ∧
      patternSchema? library set name = none

/-- A name that must not stand in an object, while nothing that has to be there requires it. -/
def IsStray (library : Pattern.Library σ) (document : Document) (set : Constraints)
    (name : String) : Prop :=
  Forbids library document set name ∧ name ∉ closure set.dependentRequired set.required

/-- Optional names are not ruled out. -/
theorem not_forbids_of_mem_optionalNames (h : name ∈ optionalNames document set) :
    ¬Forbids library document set name := by
  obtain ⟨node, hget, -, hnotFalse⟩ := mem_optionalNames.mp h
  rintro (⟨declared, hdeclared, hfalse⟩ | ⟨-, hundeclared, -⟩)
  · cases hget.symm.trans hdeclared
    exact hnotFalse hfalse
  · cases hget.symm.trans hundeclared

/-! ### Where the chosen names come from -/

/-- An optional name leads to each of the chosen names that do not have to be there. Unless names
are dropped, that optional name is chosen itself. -/
def Rooted (set : Constraints) (optional : List String) (chosen : NameSet) : Prop :=
  ∀ name ∈ chosen, name ∉ closure set.dependentRequired set.required →
    ∃ root ∈ optional, (set.maxProperties = none → root ∈ chosen) ∧
      LeadsTo set.dependentRequired root name

theorem rooted_required : Rooted set optional set.required :=
  fun _ hname hfree => absurd (NameSet.subset_closure hname) hfree

theorem rooted_forced : Rooted set optional (closure set.dependentRequired set.required) :=
  fun _ hname hfree => absurd hname hfree

theorem Rooted.insert (h : Rooted set optional chosen) (hname : name ∈ optional) :
    Rooted set optional (chosen.insert name) := by
  intro other hother hfree
  rcases NameSet.mem_insert.mp hother with rfl | hother
  · exact ⟨other, hname, fun _ => NameSet.mem_insert.mpr (.inl rfl), .refl⟩
  · obtain ⟨root, hroot, hpresent, hleads⟩ := h other hother hfree
    exact ⟨root, hroot, fun hnone => NameSet.mem_insert.mpr (.inr (hpresent hnone)), hleads⟩

theorem Rooted.closure (h : Rooted set optional chosen) :
    Rooted set optional (closure set.dependentRequired chosen) := by
  intro other hother hfree
  obtain ⟨name, hname, hleads⟩ := NameSet.mem_closure_iff.mp hother
  -- What leads to a name that need not be there need not be there either.
  have hname' : name ∉ NameSet.closure set.dependentRequired set.required := fun hforced =>
    hfree ((NameSet.closed_closure _ _).mem_of_leadsTo hforced hleads)
  obtain ⟨root, hroot, hpresent, hfirst⟩ := h name hname hname'
  exact ⟨root, hroot, fun hnone => NameSet.subset_closure (hpresent hnone), hfirst.trans hleads⟩

theorem mem_of_mem_dropNames {limit : Nat} {droppable : List String}
    (h : name ∈ dropNames set limit droppable chosen) : name ∈ chosen := by
  induction droppable generalizing chosen with
  | nil => exact h
  | cons first rest ih =>
    unfold dropNames at h
    split at h
    · exact h
    · have hkept := ih h
      split at hkept
      · exact hkept
      · exact (NameSet.mem_erase.mp hkept).2

/-- Where names are dropped, the optional name that leads to a name may be gone. -/
theorem Rooted.dropNames {limit limit' : Nat} {droppable : List String}
    (h : Rooted set optional chosen) (hlimit : set.maxProperties = some limit') :
    Rooted set optional (dropNames set limit droppable chosen) := by
  intro name hname hfree
  obtain ⟨root, hroot, -, hleads⟩ := h name (mem_of_mem_dropNames hname) hfree
  exact ⟨root, hroot, fun hnone => (nomatch hnone.symm.trans hlimit), hleads⟩

theorem Rooted.addNames {least greatest : Nat} {addable : List String}
    (h : Rooted set optional chosen) (ha : ∀ name ∈ addable, name ∈ optional) :
    Rooted set optional (addNames set least greatest addable chosen) := by
  induction addable generalizing chosen with
  | nil => exact h
  | cons name rest ih =>
    obtain ⟨hname, hrest⟩ := List.forall_mem_cons.mp ha
    unfold Instance.addNames
    split
    · exact h
    · refine ih ?_ hrest
      split
      · exact (h.insert hname).closure
      · exact h

variable [Random.Source σ]

theorem yields_drawNames_rooted (probability : Double) {drawable : List String}
    (h : Rooted set optional chosen) (hd : ∀ name ∈ drawable, name ∈ optional) :
    Yields (drawNames probability drawable chosen : Random.Draw σ NameSet)
      (Rooted set optional) := by
  induction drawable generalizing chosen with
  | nil => exact ends_pure h
  | cons name rest ih =>
    obtain ⟨hname, hrest⟩ := List.forall_mem_cons.mp hd
    refine (yields_any _).andThen fun isChosen => ih ?_ hrest
    split
    · exact h.insert hname
    · exact h

theorem yields_reduceNames_rooted (h : Rooted set optional chosen) :
    Yields (reduceNames set (closure set.dependentRequired set.required) chosen :
      Attempt σ NameSet) (Rooted set optional) := by
  unfold reduceNames
  split
  · exact ends_pure h
  · rename_i limit hlimit
    split
    · exact ends_throw
    · refine (yields_any _).andThen fun droppable => ends_pure ?_
      split
      · exact rooted_forced
      · exact h.dropNames hlimit

theorem yields_extendNames_rooted (h : Rooted set optional chosen) :
    Yields (extendNames set optional chosen : Attempt σ NameSet) (Rooted set optional) := by
  unfold extendNames
  split
  · exact ends_pure h
  · refine (yields_attemptDraw (Random.yields_shuffle _)).bind fun addable => ?_
    refine ends_pure fun hperm => h.addNames fun name hname => ?_
    exact (List.mem_filter.mp (hperm.mem_iff.mp hname)).1

theorem yields_chooseNames_rooted (document : Document) (set : Constraints)
    (probability : Double) :
    Yields (chooseNames document set probability : Attempt σ NameSet)
      (Rooted set (optionalNames document set)) := by
  unfold chooseNames
  have hdraw : Yields (drawNames probability (optionalNames document set) set.required :
      Random.Draw σ NameSet) (Rooted set (optionalNames document set)) :=
    yields_drawNames_rooted probability rooted_required fun _ h => h
  refine (yields_attemptDraw hdraw).bind_of fun drawn hdrawn => ?_
  refine (yields_reduceNames_rooted hdrawn.closure).bind_of fun chosen hchosen => ?_
  exact yields_extendNames_rooted hchosen

/-! ### Names that must not be there -/

/-- **Which chosen names must not be there.** A stray name is never drawn as such; an optional name
leads to it. A chosen name brings all stray names that it leads to. So the choice has a stray name
if a chosen optional name leads to one, and, where no names are dropped, only then. -/
theorem strays_of_chooseNames {library : Pattern.Library σ} {probability : Double} {source : σ}
    (h : (chooseNames document set probability source).1 = .ok names) :
    (∀ name ∈ names, IsStray library document set name →
      name ∉ optionalNames document set ∧
        ∃ root ∈ optionalNames document set, LeadsTo set.dependentRequired root name) ∧
    (∀ root ∈ names, ∀ name, LeadsTo set.dependentRequired root name → name ∈ names) ∧
    (set.maxProperties = none →
      ((∃ name ∈ names, IsStray library document set name) ↔
        ∃ root ∈ optionalNames document set, root ∈ names ∧
          ∃ name, IsStray library document set name ∧ LeadsTo set.dependentRequired root name)) := by
  have hrooted : Rooted set (optionalNames document set) names :=
    (yields_chooseNames_rooted document set probability).of_eq_ok h
  have hclosed : Closed set.dependentRequired names :=
    ((yields_chooseNames document set probability).of_eq_ok h).closed
  refine ⟨fun name hname hstray => ⟨fun hoptional => ?_, ?_⟩,
    fun root hroot name hleads => hclosed.mem_of_leadsTo hroot hleads, fun hnone => ⟨?_, ?_⟩⟩
  · exact not_forbids_of_mem_optionalNames hoptional hstray.1
  · obtain ⟨root, hroot, -, hleads⟩ := hrooted name hname hstray.2
    exact ⟨root, hroot, hleads⟩
  · rintro ⟨name, hname, hstray⟩
    obtain ⟨root, hroot, hpresent, hleads⟩ := hrooted name hname hstray.2
    exact ⟨root, hroot, hpresent hnone, name, hstray, hleads⟩
  · rintro ⟨root, -, hroot, name, hstray, hleads⟩
    exact ⟨name, hclosed.mem_of_leadsTo hroot hleads, hstray⟩

/-! ### An optional name that brings a stray one -/

/-- Two properties, the second with the schema `false`. -/
def secondFalse : Document := .ofJson (.object [("a", .bool true), ("b", .bool false)])

/-- Two optional properties, the first of which requires the second. -/
def firstRequiresSecond : Constraints :=
  { Constraints.any .root with
    properties := .ofList [("a", Pointer.root.push "a"), ("b", Pointer.root.push "b")]
    dependentRequired := .ofList [("a", .ofList ["b"])] }

/-- With the optional name `a` the name `b` is chosen, which has the schema `false`. -/
theorem strays_firstRequiresSecond :
    ∃ names, (chooseNames secondFalse firstRequiresSecond (.ofNat 1) (⟨⟩ : Highest)).1 = .ok names ∧
      "b" ∈ names ∧ IsStray (.bundled : Pattern.Library Highest) secondFalse firstRequiresSecond "b" ∧
      "b" ∉ optionalNames secondFalse firstRequiresSecond ∧
      ∃ root ∈ optionalNames secondFalse firstRequiresSecond, root ∈ names ∧
        ∃ name, IsStray (.bundled : Pattern.Library Highest) secondFalse firstRequiresSecond name ∧
          LeadsTo firstRequiresSecond.dependentRequired root name := by
  have hrun : (chooseNames secondFalse firstRequiresSecond (.ofNat 1)
      (⟨⟩ : Highest)).1.toOption = some (.ofList ["a", "b"]) := by
    decide +kernel
  have hok := eq_ok_of_toOption hrun
  have hb : "b" ∈ NameSet.ofList ["a", "b"] := by decide
  have hstray : IsStray (.bundled : Pattern.Library Highest) secondFalse firstRequiresSecond "b" := by
    refine ⟨.inl ⟨Pointer.root.push "b", by decide, by decide⟩, fun hforced => ?_⟩
    obtain ⟨name, hname, -⟩ := NameSet.mem_closure_iff.mp hforced
    exact NameSet.not_mem_empty hname
  obtain ⟨hdrawn, -, hiff⟩ := strays_of_chooseNames hok
  exact ⟨_, hok, hb, hstray, (hdrawn "b" hb hstray).1, (hiff rfl).mp ⟨"b", hb, hstray⟩⟩

end Specimen.Instance
