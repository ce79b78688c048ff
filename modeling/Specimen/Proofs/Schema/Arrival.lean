import Specimen.Proofs.Pointer
import Specimen.Proofs.Schema.Anchors

/-!
# Specimen.Proofs.Schema.Arrival

Which positions schemas and references lead to (`exists_lookup_of_arrives`).

A position is only a list of tokens, which is followed anew for every look at it. Whatever way has
led there, by keywords, indices, names and references (`Document.Arrives`), it is found again: what
stands there is the schema that the last step has seen, and the written form of the position is a
reference to it (`Document.resolveReference_text`).
-/

namespace Specimen

/-! ### Parts with addresses -/

namespace Json

variable {value part : Json} {token : String} {tokens : List String}

theorem Addressable.of_child? (h : Addressable value) (hchild : value.child? token = some part) :
    Addressable part := by
  cases h with
  | arr _ helements =>
    obtain ⟨index, -, hindex⟩ := Option.bind_eq_some_iff.mp hchild
    exact helements part (List.mem_of_getElem? hindex)
  | obj _ hmembers => exact hmembers (token, part) (Table.mem_of_lookup hchild)
  | null | bool _ | num _ | str _ => cases hchild

theorem Addressable.of_foldlM (h : Addressable value)
    (hpart : tokens.foldlM child? value = some part) : Addressable part := by
  induction tokens generalizing value with
  | nil =>
    cases hpart
    exact h
  | cons token tokens ih =>
    obtain ⟨child, hchild, hrest⟩ := Option.bind_eq_some_iff.mp hpart
    exact ih (h.of_child? hchild) hrest

end Json

/-! ### Steps to schemas -/

namespace Document

variable {document : Document} {node child source : Pointer} {keyword name : String} {value : Json}

theorem fragment_eq_of_lookup (h : node.lookup document.root = some value) :
    document.fragment node = value := by
  rw [fragment, h, Option.getD_some]

theorem lookup_of_keyword? (h : document.keyword? node keyword = some value) :
    (node.push keyword).lookup document.root = some value := by
  rw [Pointer.lookup_push]
  unfold keyword? fragment at h
  cases hnode : node.lookup document.root with
  | none =>
    rw [hnode] at h
    cases h
  | some part =>
    rw [hnode, Option.getD_some] at h
    cases part with
    | obj members => exact h
    | null | bool _ | num _ | str _ | arr _ => cases h

/-- The schema under a keyword is the value there. -/
theorem exists_of_subschema? (h : document.subschema? node keyword = some child) :
    ∃ value, document.keyword? node keyword = some value ∧ value.isSchema = true ∧
      child = node.push keyword ∧ child.lookup document.root = some value := by
  unfold subschema? at h
  split at h
  · rename_i value hvalue
    split at h
    · rename_i hschema
      cases h
      exact ⟨value, hvalue, hschema, rfl, lookup_of_keyword? hvalue⟩
    · cases h
  · cases h

/-- A schema of a list under a keyword is an element there. -/
theorem exists_of_mem_subschemas (hroot : document.root.Addressable)
    (h : child ∈ document.subschemas node keyword) :
    ∃ elements index value, document.keyword? node keyword = some (.arr elements) ∧
      elements[index]? = some value ∧ value.isSchema = true ∧
      child = (node.push keyword).pushIndex index ∧
      child.lookup document.root = some value := by
  unfold subschemas at h
  split at h
  · rename_i elements hkeyword
    obtain ⟨⟨value, index⟩, hmem, hchild⟩ := List.mem_filterMap.mp h
    simp only [Option.ite_none_right_eq_some, Option.some.injEq] at hchild
    obtain ⟨hschema, rfl⟩ := hchild
    have hvalue : elements[index]? = some value := List.mem_zipIdx_iff_getElem?.mp hmem
    have hlist := lookup_of_keyword? hkeyword
    have hindex : index < 2 ^ 64 := by
      have haddressable := hroot.of_foldlM hlist
      cases haddressable with
      | arr hlength _ =>
        have := (List.getElem?_eq_some_iff.mp hvalue).1
        omega
    refine ⟨elements, index, value, hkeyword, hvalue, hschema, rfl, ?_⟩
    unfold Pointer.pushIndex
    rw [Pointer.lookup_push, hlist]
    exact Json.child?_element hvalue hindex
  · cases h

/-- A schema of an object under a keyword is the member of its name. -/
theorem exists_of_mem_namedSubschemas (hroot : document.root.Addressable)
    (h : (name, child) ∈ document.namedSubschemas node keyword) :
    ∃ members value, document.keyword? node keyword = some (.obj members) ∧
      (name, value) ∈ members ∧ value.isSchema = true ∧
      child = (node.push keyword).push name ∧ child.lookup document.root = some value := by
  unfold namedSubschemas at h
  split at h
  · rename_i members hkeyword
    obtain ⟨⟨other, value⟩, hmem, hchild⟩ := List.mem_filterMap.mp h
    simp only [Option.ite_none_right_eq_some, Option.some.injEq, Prod.mk.injEq] at hchild
    obtain ⟨hschema, rfl, rfl⟩ := hchild
    have hobject := lookup_of_keyword? hkeyword
    refine ⟨members, value, hkeyword, hmem, hschema, rfl, ?_⟩
    rw [Pointer.lookup_push, hobject]
    have haddressable := hroot.of_foldlM hobject
    cases haddressable with
    | obj hkeys _ => exact Table.lookup_of_mem hkeys hmem
  · cases h

/-! ### The written form as a reference -/

theorem percent_not_mem_escape {chars : List Char} (h : '%' ∉ chars) :
    '%' ∉ Pointer.escape chars := by
  fun_induction Pointer.escape chars with
  | case1 => exact h
  | case2 rest ih => simp_all
  | case3 rest ih => simp_all
  | case4 c rest _ _ ih => simp_all

/-- The written form of an existing position refers to it, unless its percent signs are taken for
encoded bytes. -/
theorem resolveReference_text (hnode : document.has node = true)
    (hplain : ∀ token ∈ node.tokens, '%' ∉ token.toList) (source : Pointer) :
    document.resolveReference node.text source = .ok node := by
  obtain ⟨tokens⟩ := node
  have hread := Pointer.parse?_behindSlashes tokens
  have hpercent : '%' ∉ (String.ofList (Pointer.behindSlashes
      (tokens.map fun token => Pointer.escape token.toList))).toList := by
    simp only [String.toList_ofList, Pointer.behindSlashes, List.flatMap_map, List.mem_flatMap]
    rintro ⟨token, htoken, hmem⟩
    rcases List.mem_cons.mp hmem with hslash | hmem
    · cases hslash
    · exact percent_not_mem_escape (hplain token htoken) hmem
  have hlocate : document.locate? (String.ofList (Pointer.behindSlashes
      (tokens.map fun token => Pointer.escape token.toList))) = some ⟨tokens⟩ := by
    unfold locate? Pointer.ofFragment?
    rw [if_pos, Pointer.percentDecode?_eq_self hpercent]
    · exact hread
    · cases tokens with
      | nil => exact .inl rfl
      | cons first others => exact .inr (by simp [Pointer.behindSlashes_cons])
  rw [Pointer.text_eq, resolveReference_eq_ok_iff]
  refine ⟨isExternal_fragment _, ?_⟩
  unfold target?
  rw [splitReference_fragment, hlocate]
  exact Option.filter_eq_some_iff.mpr ⟨rfl, hnode⟩

/-! ### Ways through a document -/

/-- The positions that steps to schemas and references lead to from the root. -/
inductive Arrives (document : Document) : Pointer → Prop where
  | root : Arrives document .root
  | subschema {node child : Pointer} {keyword : String} (h : Arrives document node)
      (hchild : document.subschema? node keyword = some child) : Arrives document child
  | element {node child : Pointer} {keyword : String} (h : Arrives document node)
      (hchild : child ∈ document.subschemas node keyword) : Arrives document child
  | member {node child : Pointer} {keyword name : String} (h : Arrives document node)
      (hchild : (name, child) ∈ document.namedSubschemas node keyword) : Arrives document child
  | reference {source target : Pointer} {reference : String}
      (htarget : document.resolveReference reference source = .ok target) :
      Arrives document target

theorem Arrives.exists_lookup (hroot : document.root.Addressable) (h : document.Arrives node) :
    ∃ value, node.lookup document.root = some value := by
  cases h with
  | root => exact ⟨document.root, rfl⟩
  | subschema _ hchild =>
    obtain ⟨value, -, -, -, hvalue⟩ := exists_of_subschema? hchild
    exact ⟨value, hvalue⟩
  | element _ hchild =>
    obtain ⟨_, _, value, -, -, -, -, hvalue⟩ := exists_of_mem_subschemas hroot hchild
    exact ⟨value, hvalue⟩
  | member _ hchild =>
    obtain ⟨_, value, -, -, -, -, hvalue⟩ := exists_of_mem_namedSubschemas hroot hchild
    exact ⟨value, hvalue⟩
  | reference htarget => exact Pointer.exists_lookup_of_resolveReference htarget

/-- **What steps lead to exists.** A position that keywords, indices, names and references lead to
from the root stands in the document. What stands at the end of a step to a schema is the object or
Boolean that the step has found there, and the written form of a position without percent signs is a
reference to it from everywhere. -/
theorem exists_lookup_of_arrives (hroot : document.root.Addressable) (h : document.Arrives node) :
    (∃ value, node.lookup document.root = some value ∧ document.fragment node = value) ∧
    (∀ keyword child, document.subschema? node keyword = some child →
      ∃ value, document.keyword? node keyword = some value ∧ value.isSchema = true ∧
        child = node.push keyword ∧ child.lookup document.root = some value) ∧
    (∀ keyword child, child ∈ document.subschemas node keyword →
      ∃ elements index value, document.keyword? node keyword = some (.arr elements) ∧
        elements[index]? = some value ∧ value.isSchema = true ∧
        child = (node.push keyword).pushIndex index ∧
        child.lookup document.root = some value) ∧
    (∀ keyword name child, (name, child) ∈ document.namedSubschemas node keyword →
      ∃ members value, document.keyword? node keyword = some (.obj members) ∧
        (name, value) ∈ members ∧ value.isSchema = true ∧
        child = (node.push keyword).push name ∧ child.lookup document.root = some value) ∧
    ((∀ token ∈ node.tokens, '%' ∉ token.toList) →
      ∀ source, document.resolveReference node.text source = .ok node) := by
  obtain ⟨value, hvalue⟩ := h.exists_lookup hroot
  refine ⟨⟨value, hvalue, fragment_eq_of_lookup hvalue⟩, ?_, ?_, ?_, ?_⟩
  · exact fun keyword child hchild => exists_of_subschema? hchild
  · exact fun keyword child hchild => exists_of_mem_subschemas hroot hchild
  · exact fun keyword name child hchild => exists_of_mem_namedSubschemas hroot hchild
  · exact resolveReference_text (Option.isSome_iff_exists.mpr ⟨value, hvalue⟩)

/-! ### A definition with signs in its name -/

/-- A definition the name of which has a slash, a tilde and a number sign. -/
def signsInName : Document :=
  .ofJson (.object [("$defs", .object [("a/b~#", .object [("allOf", .arr [.null, .bool true])])])])

/-- The position of the only schema in its list. -/
def signsInNameSchema : Pointer :=
  ((((Pointer.root.push "$defs").push "a/b~#").push "allOf").pushIndex 1)

theorem addressable_signsInName : signsInName.root.Addressable := by
  have hlist : (Json.arr [.null, .bool true]).Addressable :=
    .arr (by decide) (by simp [Json.Addressable.null, Json.Addressable.bool])
  have hobject (name : String) {value : Json} (h : value.Addressable) :
      (Json.obj [(name, value)]).Addressable :=
    .obj (List.pairwise_singleton _ _) fun member hmember => by rwa [List.mem_singleton.mp hmember]
  exact hobject _ (hobject _ (hobject _ hlist))

theorem arrives_signsInNameSchema : signsInName.Arrives signsInNameSchema := by
  have hdefinition : ("a/b~#", (Pointer.root.push "$defs").push "a/b~#") ∈
      signsInName.namedSubschemas .root "$defs" := List.mem_singleton.mpr rfl
  have hschema : signsInNameSchema ∈
      signsInName.subschemas ((Pointer.root.push "$defs").push "a/b~#") "allOf" :=
    List.mem_singleton.mpr rfl
  exact .element (.member .root hdefinition) hschema

theorem exists_lookup_of_arrives_signsInName :
    signsInName.root.Addressable ∧ signsInName.Arrives signsInNameSchema ∧
      signsInNameSchema.text = "#/$defs/a~1b~0#/allOf/1" ∧
      (∃ value, signsInNameSchema.lookup signsInName.root = some value) ∧
      ∀ source, signsInName.resolveReference signsInNameSchema.text source =
        .ok signsInNameSchema := by
  obtain ⟨⟨value, hvalue, -⟩, -, -, -, hresolve⟩ :=
    exists_lookup_of_arrives addressable_signsInName arrives_signsInNameSchema
  refine ⟨addressable_signsInName, arrives_signsInNameSchema, by decide +kernel, ⟨value, hvalue⟩, ?_⟩
  exact hresolve (by decide)

end Document

end Specimen
