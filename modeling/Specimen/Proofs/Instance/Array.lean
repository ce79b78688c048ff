import Specimen.Proofs.Instance.Places

/-!
# Specimen.Proofs.Instance.Array

Arrays for a schema: each item is made for the schema of its position, also when it is drawn once more
because it has to differ from those before it (`ends_array`).
-/

namespace Specimen.Instance

variable {σ : Type} {set : Constraints} {fits : Pointer → Json → Prop}
variable {kept : Progress σ → Prop}

theorem isChild_of_schemaAt? {containsAt : Option Nat} {index : Nat} {node : Pointer}
    (h : schemaAt? set containsAt index = some node) : set.IsChild node := by
  unfold schemaAt? itemSchema? at h
  split at h
  · exact .contains h
  · cases hp : set.prefixItems[index]? with
    | some first =>
      obtain rfl : first = node := by simpa [hp] using h
      exact .prefixItem (List.mem_of_getElem? hp)
    | none => exact .item (Extra.schema?_eq_some.mp (by simpa [hp] using h))

theorem ends_distinct {known : List String} {draw : Run σ Json} {result : Json → Prop}
    (hd : Ends kept draw result) (item : Json) (attempts : Nat) :
    Ends kept (distinct known draw item attempts) fun value => result item → result value := by
  induction attempts generalizing item with
  | zero => exact ends_pure fun h => h
  | succ attempts ih =>
    unfold distinct
    split
    · -- An item that was drawn again is described like the one before it.
      refine hd.bind fun other => (ih other).mono fun value hvalue hother _ => hvalue hother
    · exact ends_pure fun h => h

variable {child : Pointer → Run σ Json}

theorem ends_element {place : Option Pointer}
    (hc : ∀ node, place = some node → Ends kept (child node) (fits node)) :
    Ends kept (element child place) (FitsPlace fits place) := by
  cases place with
  | none => exact ends_pure rfl
  | some node => exact hc node rfl

theorem ends_itemFrom {draw : Run σ Json} {result : Json → Prop} (hk : Unaffected kept)
    (hd : Ends kept draw result) (options : Options) (set : Constraints) (known : List String) :
    Ends kept (itemFrom options set known draw) result := by
  unfold itemFrom
  split
  · refine hd.bind fun first => (ends_distinct hd first _).bind fun item => ?_
    split
    · refine (ends_record hk _ _ _).andThen fun _ => ?_
      exact ends_pure fun hdistinct hfirst => hdistinct hfirst
    · exact ends_pure fun hdistinct hfirst => hdistinct hfirst
  · exact hd

theorem ends_items (hk : Unaffected kept)
    (hc : ∀ node, set.IsChild node → Ends kept (child node) (fits node)) (options : Options)
    (containsAt : Option Nat) (known : List String) (index count : Nat) :
    Ends kept (items options set child containsAt known index count) fun elements =>
      elements.length = count ∧ ∀ i item, elements[i]? = some item →
        FitsPlace fits (schemaAt? set containsAt (index + i)) item := by
  induction count generalizing known index with
  | zero => exact ends_pure ⟨rfl, by simp⟩
  | succ count ih =>
    have hdraw : Ends kept (element child (schemaAt? set containsAt index))
        (FitsPlace fits (schemaAt? set containsAt index)) :=
      ends_element fun node hn => hc node (isChild_of_schemaAt? hn)
    refine (ends_itemFrom hk hdraw options set known).bind fun first => ?_
    refine (ih _ (index + 1)).bind fun rest => ends_pure fun ⟨hlength, hrest⟩ hfirst => ?_
    refine ⟨by simp [hlength], fun i item hi => ?_⟩
    -- The first item stands at `index` itself, the others one position further on.
    cases i with
    | zero =>
      cases hi
      exact hfirst
    | succ i =>
      have hplace := hrest i item hi
      rwa [show index + 1 + i = index + (i + 1) by omega] at hplace

theorem ends_lengthWithin [Random.Source σ] (hk : Unaffected kept) (least greatest : Nat) :
    Ends kept (lengthWithin least greatest) fun _ => True := by
  unfold lengthWithin
  split
  · exact ends_pure trivial
  · exact ends_draw hk (yields_any _)

theorem ends_containsPosition [Random.Source σ] (hk : Unaffected kept) (set : Constraints)
    (length : Nat) :
    Ends kept (containsPosition set length) fun containsAt =>
      containsAt.isSome = set.contains.isSome ∧ ∀ index ∈ containsAt, index < length := by
  unfold containsPosition
  split
  · rename_i hsome
    refine (ends_draw hk (Random.yields_index length)).map fun index hindex => ?_
    simpa [hsome] using hindex
  · rename_i hnone
    exact ends_pure (by simpa using hnone)

/-- An array for a schema. -/
theorem ends_array [Random.Source σ] (hk : Unaffected kept)
    (hc : ∀ node, set.IsChild node → Ends kept (child node) (fits node)) (options : Options) :
    Ends kept (array options set child) (FitsItems fits set) := by
  unfold array
  refine (ends_attempt hk (yields_any _)).andThen fun (least, greatest) => ?_
  refine (ends_lengthWithin hk least greatest).andThen fun length => ?_
  refine (ends_containsPosition hk set length).bind fun containsAt => ?_
  refine (ends_items hk hc options containsAt [] 0 length).mono fun elements h hat => ?_
  refine ⟨containsAt, hat.1, fun index hindex => ?_, fun index item hitem => ?_⟩
  · rw [h.1]
    exact hat.2 index hindex
  · have hplace := h.2 index item hitem
    rwa [Nat.zero_add] at hplace

end Specimen.Instance
