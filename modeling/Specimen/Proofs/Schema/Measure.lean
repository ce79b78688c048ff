import Specimen.Proofs.Constraint.Reading
import Specimen.Schema.Reference

/-!
# Specimen.Proofs.Schema.Measure

What gets smaller on the way down in a schema.

* `Document.height` — the length of the longest way down from a position. A schema that stands under
  a keyword of another one is lower (`Document.height_subschema_lt` and its companions);
* `Document.unopened` — how many targets of references are not on a path. A reference can make up
  for a way down that it leads back only by opening one more of them
  (`Document.unopened_append_lt`).
-/

namespace Specimen

namespace Json

mutual

/-- How many steps the longest way down from a value has. -/
def height : Json → Nat
  | .arr elements => elementsHeight elements
  | .obj members => membersHeight members
  | _ => 0

/-- How many steps the longest way down into some elements has. -/
def elementsHeight : List Json → Nat
  | [] => 0
  | value :: rest => max (height value + 1) (elementsHeight rest)

/-- How many steps the longest way down into some members has. -/
def membersHeight : List (String × Json) → Nat
  | [] => 0
  | (_, value) :: rest => max (height value + 1) (membersHeight rest)

end

theorem height_lt_of_mem {value : Json} :
    {elements : List Json} → value ∈ elements → value.height < elementsHeight elements
  | v :: rest, h => by
    simp only [elementsHeight]
    rcases List.mem_cons.mp h with rfl | h
    · omega
    · have := height_lt_of_mem h
      omega

theorem height_lt_of_lookup {key : String} {value : Json} :
    {members : List (String × Json)} → members.lookup key = some value →
      value.height < membersHeight members
  | (k, v) :: rest, h => by
    simp only [membersHeight]
    rw [List.lookup_cons] at h
    split at h
    · cases h
      omega
    · have := height_lt_of_lookup h
      omega

/-- A part is lower than the whole. -/
theorem height_lt_of_child? {value child : Json} {token : String}
    (h : value.child? token = some child) : child.height < value.height := by
  unfold child? at h
  split at h
  · exact height_lt_of_lookup h
  · obtain ⟨index, -, hi⟩ := Option.bind_eq_some_iff.mp h
    exact height_lt_of_mem (List.mem_of_getElem? hi)
  · cases h

/-- What a pointer leads to is not higher than where it starts. -/
theorem height_le_of_foldlM {tokens : List String} {value part : Json}
    (h : tokens.foldlM child? value = some part) : part.height ≤ value.height := by
  induction tokens generalizing value with
  | nil => cases h; exact Nat.le_refl _
  | cons token tokens ih =>
    obtain ⟨child, hc, hp⟩ := Option.bind_eq_some_iff.mp h
    exact Nat.le_trans (ih hp) (Nat.le_of_lt (height_lt_of_child? hc))

end Json

/-! ### Positions of a document -/

namespace Document

variable {document : Document} {node child : Pointer} {keyword : String} {value : Json}

/-- The height of the value at a position. -/
def height (document : Document) (node : Pointer) : Nat := (document.fragment node).height

/-- No node is higher than the root. -/
theorem height_le (document : Document) (node : Pointer) :
    document.height node ≤ document.root.height := by
  unfold height fragment Pointer.lookup
  cases hf : node.tokens.foldlM Json.child? document.root with
  | none => exact Nat.zero_le _
  | some part => exact Json.height_le_of_foldlM hf

theorem height_push_le (document : Document) (node : Pointer) (token : String) :
    document.height (node.push token) ≤ document.height node := by
  unfold height fragment
  rw [Pointer.lookup_push]
  cases node.lookup document.root with
  | none => exact Nat.zero_le _
  | some part =>
    cases hc : part.child? token with
    | none => simp [hc, Json.height]
    | some child => simpa [hc] using Nat.le_of_lt (Json.height_lt_of_child? hc)

/-- The value of a keyword is lower than its node. -/
theorem height_push_lt (h : document.keyword? node keyword = some value) :
    document.height (node.push keyword) < document.height node := by
  unfold height
  rw [fragment_push_of_keyword? h]
  unfold keyword? at h
  cases hf : document.fragment node <;> rw [hf] at h <;> try cases h
  exact Json.height_lt_of_lookup h

theorem height_subschema_lt (h : document.subschema? node keyword = some child) :
    document.height child < document.height node := by
  unfold subschema? at h
  split at h
  · rename_i hk
    split at h
    · cases h
      exact height_push_lt hk
    · cases h
  · cases h

/-- Schemas in a list are lower than the node with the list. -/
theorem height_subschemas_lt (h : child ∈ document.subschemas node keyword) :
    document.height child < document.height node := by
  unfold subschemas at h
  split at h
  · rename_i hk
    obtain ⟨⟨value, index⟩, -, h⟩ := List.mem_filterMap.mp h
    simp only [Option.ite_none_right_eq_some, Option.some.injEq] at h
    obtain ⟨-, rfl⟩ := h
    exact Nat.lt_of_le_of_lt (height_push_le ..) (height_push_lt hk)
  · cases h

theorem height_namedSubschemas_lt {entry : String × Pointer}
    (h : entry ∈ document.namedSubschemas node keyword) :
    document.height entry.2 < document.height node := by
  unfold namedSubschemas at h
  split at h
  · rename_i hk
    obtain ⟨⟨name, value⟩, -, h⟩ := List.mem_filterMap.mp h
    simp only [Option.ite_none_right_eq_some, Option.some.injEq] at h
    obtain ⟨-, rfl⟩ := h
    exact Nat.lt_of_le_of_lt (height_push_le ..) (height_push_lt hk)
  · cases h

theorem height_readExtra_lt (h : Constraints.readExtra document node keyword = .schema child) :
    document.height child < document.height node := by
  unfold Constraints.readExtra at h
  split at h
  · cases h
  · cases h
  · rename_i hk
    cases h
    exact height_push_lt hk
  · cases h

/-! ### Targets of references -/

/-- The positions that the references of a document resolve to, each of them once. -/
def resolvedTargets (document : Document) : List Pointer :=
  (document.root.references.filterMap fun reference =>
    (document.resolveReference reference .root).toOption).eraseDups

variable {path entered : List Pointer} {target : Pointer}

/-- A reference that can be resolved leads to one of finitely many targets. -/
theorem mem_resolvedTargets {reference : String}
    (hr : document.referenceOf node = .ok (some reference))
    (ht : document.resolveReference reference node = .ok target) :
    target ∈ document.resolvedTargets := by
  have hroot : document.resolveReference reference .root = .ok target := by
    unfold resolveReference at ht ⊢
    split at ht
    · cases ht
    · rename_i hexternal
      rw [if_neg hexternal]
      split at ht
      · exact ht
      · cases ht
  refine List.mem_eraseDups.mpr (List.mem_filterMap.mpr ⟨reference, ?_, ?_⟩)
  · exact mem_references_of_referenceOf hr
  · rw [hroot]
    rfl

/-- How many targets of references are not on a path. -/
def unopened (document : Document) (path : List Pointer) : Nat :=
  (document.resolvedTargets.filter (· ∉ path)).length

theorem unopened_le : document.unopened path ≤ document.resolvedTargets.length :=
  List.length_filter_le ..

theorem filter_not_mem_append :
    document.resolvedTargets.filter (· ∉ path ++ entered) =
      (document.resolvedTargets.filter (· ∉ path)).filter (· ∉ entered) := by
  rw [List.filter_filter]
  congr 1
  funext target
  simp only [List.mem_append, not_or, Bool.decide_and, Bool.and_comm]

theorem unopened_append_le : document.unopened (path ++ entered) ≤ document.unopened path := by
  unfold unopened
  rw [filter_not_mem_append]
  exact List.length_filter_le ..

/-- A target that is opened behind a path is one less. -/
theorem unopened_append_lt (ht : target ∈ document.resolvedTargets) (hp : target ∉ path)
    (he : target ∈ entered) : document.unopened (path ++ entered) < document.unopened path := by
  unfold unopened
  rw [filter_not_mem_append]
  apply List.length_filter_lt_length_iff_exists.mpr
  exact ⟨target, List.mem_filter.mpr ⟨ht, by simpa using hp⟩, by simpa using he⟩

end Document

end Specimen
