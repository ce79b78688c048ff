import Specimen.Schema.Error

/-!
# Specimen.Schema.Document

A schema document and its positions.

A schema is a position of its document: `Pointer` names it and `Document.fragment` reads the
value there, so two schemas are the same exactly when they stand at one position. The steps
to the schemas below a position are

* `Document.subschema?` — the schema under a keyword (`not`, `items`, …);
* `Document.subschemas` — the schemas of a list under a keyword (`allOf`, `prefixItems`, …);
* `Document.namedSubschemas` — the schemas of an object under a keyword (`properties`, …).

Each of them leads to a smaller value (`Document.sizeOf_fragment_subschema_lt` and its
companions), on which recursion over schemas rests.
-/

namespace Specimen

/-- A schema document. -/
structure Document where
  /-- The whole document. -/
  root : Json
  /-- The identifier that references may put before their number sign. -/
  baseId? : Option String
  /-- The positions with names of their own, in document order; the first of a name counts. -/
  anchors : List (String × Pointer)

/-- Only objects and Booleans are schemas. -/
def Json.isSchema : Json → Bool
  | .obj _ => true
  | .bool _ => true
  | _ => false

namespace Document

/-- The value at a position; there is none outside the document, which reads as `null`. -/
def fragment (document : Document) (node : Pointer) : Json :=
  (node.lookup document.root).getD .null

/-- Whether a position exists. -/
def has (document : Document) (node : Pointer) : Bool := (node.lookup document.root).isSome

/-- The value of a keyword. -/
def keyword? (document : Document) (node : Pointer) (keyword : String) : Option Json :=
  (document.fragment node).member? keyword

/-- The schema under a keyword. -/
def subschema? (document : Document) (node : Pointer) (keyword : String) : Option Pointer :=
  match document.keyword? node keyword with
  | some value => if value.isSchema then some (node.push keyword) else none
  | none => none

/-- The schemas of a list under a keyword, in order; other elements are passed over. -/
def subschemas (document : Document) (node : Pointer) (keyword : String) : List Pointer :=
  match document.keyword? node keyword with
  | some (.arr elements) =>
    elements.zipIdx.filterMap fun (value, index) =>
      if value.isSchema then some ((node.push keyword).pushIndex index) else none
  | _ => []

/-- The schemas of an object under a keyword, in the order of their names. -/
def namedSubschemas (document : Document) (node : Pointer) (keyword : String) :
    List (String × Pointer) :=
  match document.keyword? node keyword with
  | some (.obj members) =>
    members.filterMap fun (name, value) =>
      if value.isSchema then some (name, (node.push keyword).push name) else none
  | _ => []

end Document

/-! ### Parts are smaller -/

theorem Json.one_le_sizeOf (value : Json) : 1 ≤ sizeOf value := by
  cases value <;> simp

theorem Json.sizeOf_lt_of_lookup {key : String} {value : Json} :
    {members : List (String × Json)} → members.lookup key = some value →
      sizeOf value < sizeOf members
  | (k, v) :: rest, h => by
    rw [List.lookup_cons] at h
    split at h
    · cases h
      simp only [List.cons.sizeOf_spec, Prod.mk.sizeOf_spec]
      omega
    · have := Json.sizeOf_lt_of_lookup h
      simp only [List.cons.sizeOf_spec]
      omega

theorem Json.sizeOf_lt_of_child? {value child : Json} {token : String}
    (h : value.child? token = some child) : sizeOf child < sizeOf value := by
  unfold Json.child? at h
  split at h
  · have := Json.sizeOf_lt_of_lookup h
    simp
    omega
  · obtain ⟨index, -, h⟩ := Option.bind_eq_some_iff.mp h
    have := List.sizeOf_lt_of_mem (List.mem_of_getElem? h)
    simp
    omega
  · cases h

namespace Pointer

theorem lookup_push (pointer : Pointer) (token : String) (document : Json) :
    (pointer.push token).lookup document =
      (pointer.lookup document).bind (Json.child? · token) := by
  simp [lookup, push, List.foldlM_append]

end Pointer

namespace Document

variable {document : Document} {node : Pointer}

theorem sizeOf_fragment_push_le (document : Document) (node : Pointer) (token : String) :
    sizeOf (document.fragment (node.push token)) ≤ sizeOf (document.fragment node) := by
  unfold fragment
  rw [Pointer.lookup_push]
  cases hn : node.lookup document.root with
  | none => simp
  | some value =>
    cases hc : value.child? token with
    | none => simpa [hc] using Json.one_le_sizeOf value
    | some child => simpa [hc] using Nat.le_of_lt (Json.sizeOf_lt_of_child? hc)

theorem sizeOf_fragment_push_lt {members : List (String × Json)}
    (h : document.fragment node = .obj members) (token : String) :
    sizeOf (document.fragment (node.push token)) < sizeOf (document.fragment node) := by
  unfold fragment at h ⊢
  rw [Pointer.lookup_push]
  cases hn : node.lookup document.root with
  | none => simp [hn] at h
  | some value =>
    simp only [hn, Option.getD_some] at h
    subst h
    cases hc : (Json.obj members).child? token with
    | none =>
      have : 1 ≤ sizeOf members := by cases members <;> simp; omega
      simp [hc]
      omega
    | some child => simpa [hc] using Json.sizeOf_lt_of_child? hc

theorem fragment_of_keyword? {keyword : String} {value : Json}
    (h : document.keyword? node keyword = some value) :
    ∃ members, document.fragment node = .obj members := by
  unfold keyword? Json.member? at h
  split at h
  · exact ⟨_, by assumption⟩
  · cases h

/-- The schema under a keyword is smaller. -/
theorem sizeOf_fragment_subschema_lt {keyword : String} {child : Pointer}
    (h : document.subschema? node keyword = some child) :
    sizeOf (document.fragment child) < sizeOf (document.fragment node) := by
  unfold subschema? at h
  split at h
  · rename_i hk
    obtain ⟨members, hm⟩ := fragment_of_keyword? hk
    split at h
    · cases h
      exact sizeOf_fragment_push_lt hm _
    · cases h
  · cases h

/-- A schema of a list under a keyword is smaller. -/
theorem sizeOf_fragment_subschemas_lt {keyword : String} {child : Pointer}
    (h : child ∈ document.subschemas node keyword) :
    sizeOf (document.fragment child) < sizeOf (document.fragment node) := by
  unfold subschemas at h
  split at h
  · rename_i hk
    obtain ⟨members, hm⟩ := fragment_of_keyword? hk
    obtain ⟨⟨value, index⟩, -, h⟩ := List.mem_filterMap.mp h
    simp only [Option.ite_none_right_eq_some, Option.some.injEq] at h
    obtain ⟨-, rfl⟩ := h
    exact Nat.lt_of_le_of_lt (sizeOf_fragment_push_le ..) (sizeOf_fragment_push_lt hm _)
  · cases h

end Document

end Specimen
