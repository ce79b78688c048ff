import Specimen.Instance.Object
import Specimen.Proofs.NameSet.Closure
import Specimen.Proofs.Random.Draws

/-!
# Specimen.Proofs.Instance.Names

The names that an object gets for certain (`yields_chooseNames`): with each of them all that the
name requires, and among them all that the required names lead to. Names that are dropped for
`maxProperties` are required by none that stays, and names that are added for `minProperties` come
with all that they require. Optional are the declared names that are neither required nor ruled out
(`mem_optionalNames`).
-/

namespace Specimen.Instance

open NameSet (Closed closure)

variable {σ : Type} {set : Constraints} {names forced chosen : NameSet}

/-! ### Optional names -/

/-- A name is optional when it is declared, not required and not ruled out. -/
theorem mem_optionalNames {document : Document} {name : String} :
    name ∈ optionalNames document set ↔ ∃ node, set.properties.get? name = some node ∧
      name ∉ set.required ∧ (document.fragment node).bool? ≠ some false := by
  unfold optionalNames
  rw [List.mem_filterMap]
  constructor
  · rintro ⟨entry, hentry, hname⟩
    dsimp only at hname
    split at hname
    · rename_i hoptional
      cases hname
      exact ⟨entry.2, NameTable.get?_of_mem hentry, hoptional⟩
    · cases hname
  · rintro ⟨node, hget, hoptional⟩
    exact ⟨(name, node), Table.mem_of_lookup hget, if_pos hoptional⟩

/-! ### Dropping and adding names -/

theorem closed_dropNames {limit : Nat} {droppable : List String}
    (h : Closed set.dependentRequired chosen) :
    Closed set.dependentRequired (dropNames set limit droppable chosen) := by
  induction droppable generalizing chosen with
  | nil => exact h
  | cons name rest ih =>
    unfold dropNames
    split
    · exact h
    · refine ih ?_
      split
      · exact h
      · rename_i hfree
        -- The name is dropped because no chosen name requires it.
        refine h.erase fun other hother hne hrequired => hfree ?_
        exact List.any_eq_true.mpr ⟨other, hother, by simp [hne, hrequired]⟩

/-- Only names of the list are dropped. -/
theorem mem_dropNames {limit : Nat} {droppable : List String} {name : String}
    (hn : name ∉ droppable) (h : name ∈ chosen) : name ∈ dropNames set limit droppable chosen := by
  induction droppable generalizing chosen with
  | nil => exact h
  | cons first rest ih =>
    obtain ⟨hfirst, hrest⟩ : name ≠ first ∧ name ∉ rest := by simpa using hn
    unfold dropNames
    split
    · exact h
    · refine ih hrest ?_
      split
      · exact h
      · exact NameSet.mem_erase.mpr ⟨hfirst, h⟩

theorem closed_addNames {least greatest : Nat} {addable : List String}
    (h : Closed set.dependentRequired chosen) :
    Closed set.dependentRequired (addNames set least greatest addable chosen) := by
  induction addable generalizing chosen with
  | nil => exact h
  | cons name rest ih =>
    unfold addNames
    split
    · exact h
    · refine ih ?_
      split
      · exact NameSet.closed_closure _ _
      · exact h

theorem mem_addNames {least greatest : Nat} {addable : List String} {name : String}
    (h : name ∈ chosen) : name ∈ addNames set least greatest addable chosen := by
  induction addable generalizing chosen with
  | nil => exact h
  | cons first rest ih =>
    unfold addNames
    split
    · exact h
    · refine ih ?_
      split
      · exact NameSet.subset_closure (NameSet.mem_insert.mpr (.inr h))
      · exact h

/-! ### Choosing names -/

/-- A choice of names that leaves out nothing that is required. -/
structure IsChoice (set : Constraints) (chosen : NameSet) : Prop where
  closed : Closed set.dependentRequired chosen
  forced : ∀ name ∈ closure set.dependentRequired set.required, name ∈ chosen

theorem isChoice_closure (h : ∀ name ∈ set.required, name ∈ names) :
    IsChoice set (closure set.dependentRequired names) where
  closed := NameSet.closed_closure _ _
  forced _ hname :=
    NameSet.closure_subset (NameSet.closed_closure _ _)
      (fun other hother => NameSet.subset_closure (h other hother)) hname

theorem IsChoice.dropNames {limit : Nat} {droppable : List String} (h : IsChoice set chosen)
    (hd : ∀ name ∈ closure set.dependentRequired set.required, name ∉ droppable) :
    IsChoice set (dropNames set limit droppable chosen) where
  closed := closed_dropNames h.closed
  forced name hname := mem_dropNames (hd name hname) (h.forced name hname)

theorem IsChoice.addNames {least greatest : Nat} {addable : List String}
    (h : IsChoice set chosen) : IsChoice set (addNames set least greatest addable chosen) where
  closed := closed_addNames h.closed
  forced name hname := mem_addNames (h.forced name hname)

/-- A draw gives the same values as an attempt. -/
theorem yields_attemptDraw {α : Type} {draw : Random.Draw σ α} {result : α → Prop}
    (h : Yields draw result) : Yields (Attempt.draw draw) result := by
  intro source
  refine ⟨fun hk => hk, fun a ha => (h source).2 a ?_⟩
  unfold Attempt.draw at ha
  cases hd : draw source with
  | mk outcome after =>
    rw [hd] at ha
    cases outcome with
    | error fault => cases ha
    | ok b => cases ha; rfl

variable [Random.Source σ]

theorem yields_drawNames (probability : Double) (optional : List String) (chosen : NameSet) :
    Yields (drawNames probability optional chosen : Random.Draw σ NameSet) fun drawn =>
      ∀ name ∈ chosen, name ∈ drawn := by
  induction optional generalizing chosen with
  | nil => exact ends_pure fun name h => h
  | cons name rest ih =>
    have hchance : Yields (Random.chance probability : Random.Draw σ Bool) fun _ => True :=
      fun _ => ⟨fun h => h, fun _ _ => .inr trivial⟩
    refine hchance.andThen fun isChosen => (ih _).mono fun drawn h other hother => h other ?_
    cases isChosen with
    | false => exact hother
    | true => exact NameSet.mem_insert.mpr (.inr hother)

theorem yields_reduceNames (h : IsChoice set chosen) :
    Yields (reduceNames set (closure set.dependentRequired set.required) chosen :
      Attempt σ NameSet) (IsChoice set) := by
  unfold reduceNames
  split
  · exact ends_pure h
  · rename_i limit _
    split
    · exact ends_throw
    · refine (yields_attemptDraw (Random.yields_shuffle _)).bind fun droppable => ?_
      refine ends_pure fun hperm => ?_
      split
      · exact isChoice_closure fun name hname => hname
      · -- Forced names are not among those that are shuffled to be dropped.
        refine h.dropNames fun name hname hd => ?_
        have := (List.mem_filter.mp (hperm.mem_iff.mp hd)).2
        simp [hname] at this

theorem yields_extendNames (optional : List String) (h : IsChoice set chosen) :
    Yields (extendNames set optional chosen : Attempt σ NameSet) (IsChoice set) := by
  unfold extendNames
  split
  · exact ends_pure h
  · refine (yields_attemptDraw (Random.yields_shuffle _)).andThen fun addable => ?_
    exact ends_pure h.addNames

/-- The names that an object gets for certain. -/
theorem yields_chooseNames (document : Document) (set : Constraints) (probability : Double) :
    Yields (chooseNames document set probability : Attempt σ NameSet) (IsChoice set) := by
  unfold chooseNames
  refine (yields_attemptDraw (yields_drawNames _ _ _)).bind_of fun drawn hdrawn => ?_
  refine (yields_reduceNames (isChoice_closure hdrawn)).bind_of fun chosen hchosen => ?_
  exact yields_extendNames _ hchosen

end Specimen.Instance
