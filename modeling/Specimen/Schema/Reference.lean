import Specimen.Schema.Document

/-!
# Specimen.Schema.Reference

References inside a schema document.

* `Document.ofJson` — reads the names that a document gives to its positions;
* `Document.resolveReference` — the position that one reference leads to;
* `Document.resolve` — follows references until a position has none;
* `Document.targets` — every position that a reference of the document leads to. There are
  finitely many, so following references without a repetition ends
  (`Document.mem_targets_of_resolveReference`).
-/

namespace Specimen

namespace Json

/-- The keywords whose values are data and hold no schemas. -/
def dataKeywords : List String := ["enum", "const", "default", "examples", "example"]

/-- The names that an object declares for its own position. -/
def declaredNames (members : List (String × Json)) : List String :=
  let anchor := (members.lookup "$anchor").bind string?
  let fragmentId := do
    match (← (← members.lookup "$id").string?).toList with
    | '#' :: c :: name => some (String.ofList (c :: name))
    | _ => none
  anchor.toList ++ fragmentId.toList

mutual

/-- The names declared in a value that stands at `node`, in document order. -/
def anchors (node : Pointer) : Json → List (String × Pointer)
  | .obj members => (declaredNames members).map (·, node) ++ memberAnchors node members
  | .arr elements => elementAnchors node 0 elements
  | _ => []

/-- The names declared in the members of an object. -/
def memberAnchors (node : Pointer) : List (String × Json) → List (String × Pointer)
  | [] => []
  | (key, value) :: rest =>
    (if dataKeywords.contains key then [] else anchors (node.push key) value) ++
      memberAnchors node rest

/-- The names declared in the elements of an array from `index` on. -/
def elementAnchors (node : Pointer) (index : Nat) : List Json → List (String × Pointer)
  | [] => []
  | value :: rest =>
    anchors (node.pushIndex index) value ++ elementAnchors node (index + 1) rest

end

mutual

/-- The texts under `$ref` anywhere in a value. -/
def references : Json → List String
  | .obj members => ((members.lookup "$ref").bind string?).toList ++ memberReferences members
  | .arr elements => elementReferences elements
  | _ => []

/-- The references in the members of an object. -/
def memberReferences : List (String × Json) → List String
  | [] => []
  | (_, value) :: rest => references value ++ memberReferences rest

/-- The references in the elements of an array. -/
def elementReferences : List Json → List String
  | [] => []
  | value :: rest => references value ++ elementReferences rest

end

end Json

namespace Document

/-- The identifier of a document: its `$id`, or else its `id`, without number signs at the end.
An empty one and one that only names a position identify no document. -/
def identifier? (root : Json) : Option String := do
  let id ← (← root.member? "$id" <|> root.member? "id").string?
  let trimmed := (id.toList.reverse.dropWhile (· == '#')).reverse
  if trimmed = [] ∨ trimmed.head? = some '#' then none else some (String.ofList trimmed)

/-- The document of a value. -/
def ofJson (root : Json) : Document := ⟨root, identifier? root, root.anchors .root⟩

variable (document : Document)

/-- The reference of a schema, if it has one. -/
def referenceOf (node : Pointer) : Except SchemaError (Option String) :=
  match document.keyword? node "$ref" with
  | none => .ok none
  | some (.str reference) => .ok (some reference)
  | some _ => .error (.invalidSchema node "$ref must be a string")

/-- The parts of a reference before and behind its first number sign. -/
def splitReference (reference : String) : String × String :=
  let chars := reference.toList
  (String.ofList (chars.takeWhile (· != '#')),
    String.ofList ((chars.dropWhile (· != '#')).drop 1))

/-- Whether a reference names another document. -/
def isExternal (reference : String) : Bool :=
  let base := (splitReference reference).1
  !base.isEmpty && document.baseId? != some base

/-- The position that a fragment names: by its tokens when it is empty or starts with a slash,
otherwise by a declared name. -/
def locate? (fragment : String) : Option Pointer :=
  if fragment.isEmpty ∨ fragment.toList.head? = some '/' then Pointer.ofFragment? fragment
  else Pointer.percentDecode? fragment >>= (document.anchors.lookup ·)

/-- The existing position that a reference inside the document leads to. -/
def target? (reference : String) : Option Pointer :=
  (document.locate? (splitReference reference).2).filter document.has

/-- The position that a reference found at `source` leads to. -/
def resolveReference (reference : String) (source : Pointer) : Except SchemaError Pointer :=
  if document.isExternal reference then .error (.unsupportedReference reference)
  else
    match document.target? reference with
    | some target => .ok target
    | none => .error (.unresolvedReference reference source)

/-- The positions that the references of the document lead to. -/
def targets : List Pointer := document.root.references.filterMap document.target?

/-! ### References lead to targets -/

variable {document}

theorem target?_of_resolveReference {reference : String} {source target : Pointer}
    (h : document.resolveReference reference source = .ok target) :
    document.target? reference = some target := by
  unfold resolveReference at h
  split at h
  · cases h
  · split at h
    · cases h; assumption
    · cases h

theorem mem_references_of_lookup {key : String} {value : Json} {reference : String} :
    {members : List (String × Json)} → members.lookup key = some value →
      reference ∈ value.references → reference ∈ Json.memberReferences members
  | (k, v) :: rest, h, hr => by
    rw [List.lookup_cons] at h
    rw [Json.memberReferences, List.mem_append]
    split at h
    · cases h; exact .inl hr
    · exact .inr (mem_references_of_lookup h hr)

theorem mem_references_of_mem {value : Json} {reference : String} :
    {elements : List Json} → value ∈ elements →
      reference ∈ value.references → reference ∈ Json.elementReferences elements
  | v :: rest, h, hr => by
    rw [Json.elementReferences, List.mem_append]
    cases h with
    | head => exact .inl hr
    | tail _ h => exact .inr (mem_references_of_mem h hr)

theorem mem_references_of_child? {value child : Json} {token reference : String}
    (h : value.child? token = some child) (hr : reference ∈ child.references) :
    reference ∈ value.references := by
  unfold Json.child? at h
  split at h
  · rw [Json.references, List.mem_append]
    exact .inr (mem_references_of_lookup h hr)
  · obtain ⟨index, -, h⟩ := Option.bind_eq_some_iff.mp h
    rw [Json.references]
    exact mem_references_of_mem (List.mem_of_getElem? h) hr
  · cases h

theorem mem_references_of_foldlM {tokens : List String} {reference : String} :
    {value part : Json} → tokens.foldlM Json.child? value = some part →
      reference ∈ part.references → reference ∈ value.references := by
  induction tokens with
  | nil => intro value part h hr; cases h; exact hr
  | cons token tokens ih =>
    intro value part h hr
    obtain ⟨child, hc, h⟩ := Option.bind_eq_some_iff.mp h
    exact mem_references_of_child? hc (ih h hr)

theorem mem_references_of_fragment {node : Pointer} {reference : String}
    (hr : reference ∈ (document.fragment node).references) :
    reference ∈ document.root.references := by
  unfold fragment at hr
  cases hn : node.lookup document.root with
  | none => simp [hn, Json.references] at hr
  | some part => exact mem_references_of_foldlM hn (by simpa [hn] using hr)

theorem mem_references_of_referenceOf {node : Pointer} {reference : String}
    (h : document.referenceOf node = .ok (some reference)) :
    reference ∈ document.root.references := by
  refine @mem_references_of_fragment document node reference ?_
  unfold referenceOf at h
  split at h
  · cases h
  · rename_i hk
    cases h
    obtain ⟨members, hm⟩ := fragment_of_keyword? hk
    rw [keyword?, hm, Json.member?] at hk
    simp [hm, Json.references, hk, Json.string?]
  · cases h

/-- The reference of a schema leads to a target of the document. -/
theorem mem_targets_of_resolveReference {node source target : Pointer} {reference : String}
    (hr : document.referenceOf node = .ok (some reference))
    (ht : document.resolveReference reference source = .ok target) :
    target ∈ document.targets :=
  List.mem_filterMap.mpr
    ⟨reference, mem_references_of_referenceOf hr, target?_of_resolveReference ht⟩

/-- How many targets have not been visited yet. -/
def unvisited (document : Document) (visited : List Pointer) : Nat :=
  (document.targets.filter (fun target => !visited.contains target)).length

/-- Every visit to a new target leaves fewer of them. -/
theorem unvisited_cons_lt {node : Pointer} {visited : List Pointer}
    (hn : node ∈ document.targets) (hv : node ∉ visited) :
    document.unvisited (node :: visited) < document.unvisited visited := by
  unfold unvisited
  have hs : document.targets.filter (fun target => !(node :: visited).contains target) =
      (document.targets.filter (fun target => !visited.contains target)).filter
        (fun target => !(target == node)) := by
    rw [List.filter_filter]
    congr 1
    funext target
    simp only [List.contains_cons, Bool.not_or]
  rw [hs]
  apply List.length_filter_lt_length_iff_exists.mpr
  exact ⟨node, List.mem_filter.mpr ⟨hn, by simpa using hv⟩, by simp⟩

/-! ### Following references -/

variable (document)

set_option linter.unusedVariables false in
/-- Follows references from a target on; `start` is where the search began and `visited` the
positions it has left behind. -/
def chase (start : Pointer) (visited : List Pointer) (node : Pointer)
    (hn : node ∈ document.targets) : Except SchemaError Pointer :=
  match hr : document.referenceOf node with
  | .error error => .error error
  | .ok none => .ok node
  | .ok (some reference) =>
    if hv : node ∈ visited then
      .error (.invalidSchema start
        s!"reference '{reference}' loops without reaching a schema")
    else
      match ht : document.resolveReference reference node with
      | .error error => .error error
      | .ok target =>
        chase start (node :: visited) target (mem_targets_of_resolveReference hr ht)
termination_by document.unvisited visited
decreasing_by exact unvisited_cons_lt hn hv

/-- Follows references until a position has none. -/
def resolve (node : Pointer) : Except SchemaError Pointer :=
  match hr : document.referenceOf node with
  | .error error => .error error
  | .ok none => .ok node
  | .ok (some reference) =>
    match ht : document.resolveReference reference node with
    | .error error => .error error
    | .ok target => document.chase node [node] target (mem_targets_of_resolveReference hr ht)

theorem resolve_eq_self {node : Pointer} (h : document.referenceOf node = .ok none) :
    document.resolve node = .ok node := by
  unfold resolve
  split
  · rename_i hr
    cases hr.symm.trans h
  · rfl
  · rename_i hr
    cases hr.symm.trans h

end Document

end Specimen
