import Specimen.Proofs.Schema.Place

/-!
# Specimen.Proofs.Schema.Anchors

Which references by name lead to a position (`resolveReference_name_iff`).

The names that positions declare are collected from the whole document, keywords that hold data
apart. But a key is taken for such a keyword wherever it stands. A declaration counts exactly when
there is no such key on the way to it (`mem_anchors`, `exists_mem_anchors`), also when that key is
the name of a property.
-/

namespace Specimen

/-! ### Texts without a percent sign -/

namespace Pointer

theorem toList_eq_data (bytes : ByteArray) : bytes.toList = bytes.data.toList := by
  have hloop (index : Nat) (before : List UInt8) :
      ByteArray.toList.loop bytes index before =
        before.reverse ++ bytes.data.toList.drop index := by
    fun_induction ByteArray.toList.loop bytes index before with
    | case1 index before h ih =>
      have hget : bytes.get! index = bytes.data.toList[index] := getElem!_pos bytes.data index h
      rw [ih, List.reverse_cons, List.append_assoc, hget, List.singleton_append,
        ← List.drop_eq_getElem_cons]
    | case2 index before h =>
      rw [List.drop_of_length_le (Nat.le_of_not_lt h), List.append_nil]
  exact hloop 0 []

theorem percentDecodeBytes_eq_self {bytes : List UInt8} (h : 0x25 ∉ bytes) :
    percentDecodeBytes bytes = bytes := by
  induction bytes with
  | nil => rfl
  | cons byte rest ih =>
    obtain ⟨hbyte, hrest⟩ := List.ne_and_not_mem_of_not_mem_cons h
    unfold percentDecodeBytes
    split <;> simp_all

/-- A byte of a character is the whole character, or at least 128. -/
theorem byte_of_mem_utf8EncodeChar {c : Char} {byte : UInt8} (h : byte ∈ String.utf8EncodeChar c) :
    byte.toNat = c.val.toNat ∨ 128 ≤ byte.toNat := by
  have htoNat (number : Nat) : (UInt8.ofNat number).toNat = number % 256 := UInt8.toNat_ofNat'
  unfold String.utf8EncodeChar at h
  dsimp only at h
  split at h
  · obtain rfl := List.mem_singleton.mp h
    rw [htoNat]
    omega
  · refine .inr ?_
    split at h
    · simp only [List.mem_cons, List.not_mem_nil, or_false] at h
      rcases h with rfl | rfl <;> rw [htoNat] <;> omega
    · split at h
      · simp only [List.mem_cons, List.not_mem_nil, or_false] at h
        rcases h with rfl | rfl | rfl <;> rw [htoNat] <;> omega
      · simp only [List.mem_cons, List.not_mem_nil, or_false] at h
        rcases h with rfl | rfl | rfl | rfl <;> rw [htoNat] <;> omega

/-- A text without a percent sign decodes to itself. -/
theorem percentDecode?_eq_self {text : String} (h : '%' ∉ text.toList) :
    percentDecode? text = some text := by
  have hbytes : text.toUTF8.toList = text.toList.flatMap String.utf8EncodeChar := by
    rw [String.toUTF8_eq_toByteArray, ← String.utf8Encode_toList, toList_eq_data]
    exact List.toList_data_toByteArray
  have hpercent : (0x25 : UInt8) ∉ text.toUTF8.toList := by
    rw [hbytes]
    intro hmem
    obtain ⟨c, hc, hbyte⟩ := List.mem_flatMap.mp hmem
    rcases byte_of_mem_utf8EncodeChar hbyte with heq | hle
    · obtain rfl : c = '%' := Char.ext (UInt32.toNat_inj.mp heq.symm)
      exact h hc
    · exact absurd hle (by decide)
  unfold percentDecode?
  rw [percentDecodeBytes_eq_self hpercent, toList_eq_data, Array.toArray_toList]
  exact dif_pos text.isValidUTF8

end Pointer

/-! ### Values the parts of which have addresses -/

namespace Json

/-- Every part of a value can be told by the way down to it: the keys of an object differ, and an
array has no more elements than there are indices. -/
inductive Addressable : Json → Prop where
  | null : Addressable .null
  | bool (value : Bool) : Addressable (.bool value)
  | num (value : Number) : Addressable (.num value)
  | str (value : String) : Addressable (.str value)
  | arr {elements : List Json} (hlength : elements.length ≤ 2 ^ 64)
      (helements : ∀ value ∈ elements, Addressable value) : Addressable (.arr elements)
  | obj {members : List (String × Json)} (hkeys : (Table.names members).Nodup)
      (hmembers : ∀ member ∈ members, Addressable member.2) : Addressable (.obj members)

variable {value part : Json} {members : List (String × Json)} {elements : List Json}
variable {name key : String} {node target : Pointer} {tokens : List String}
variable {entry : String × Pointer}

theorem child?_element {index : Nat} (h : elements[index]? = some part) (hi : index < 2 ^ 64) :
    (Json.arr elements).child? (toString index) = some part := by
  refine Option.bind_eq_some_iff.mpr ⟨index, ?_, h⟩
  exact Pointer.index?_eq_some_iff.mpr ⟨hi, .decimal index⟩

/-! ### Names of positions -/

/-- A value declares a name for its own position. -/
def Declares (value : Json) (name : String) : Prop :=
  value.member? "$anchor" = some (.str name) ∨
    name ≠ "" ∧ value.member? "$id" = some (.str ("#" ++ name))

theorem Declares.exists_members (h : value.Declares name) : ∃ members, value = .obj members := by
  cases value with
  | obj members => exact ⟨members, rfl⟩
  | null | bool _ | num _ | str _ | arr _ => simp [Declares, member?] at h

theorem string?_eq_some {text : String} : value.string? = some text ↔ value = .str text := by
  cases value <;> simp [string?]

theorem mem_declaredNames : name ∈ declaredNames members ↔ (Json.obj members).Declares name := by
  unfold declaredNames
  refine List.mem_append.trans (or_congr ?_ ?_)
  · simp only [Option.mem_toList, Option.bind_eq_some_iff, string?_eq_some, exists_eq_right]
    exact Iff.rfl
  · simp only [Option.mem_toList, Option.bind_eq_bind, Option.bind_eq_some_iff, string?_eq_some]
    constructor
    · rintro ⟨value, hid, text, rfl, hname⟩
      split at hname
      · rename_i c rest htext
        cases hname
        refine ⟨by simp [← String.toList_inj], hid.trans (congrArg (some ∘ Json.str) ?_)⟩
        exact String.toList_inj.mp (by simp [htext])
      · cases hname
    · rintro ⟨hne, hid⟩
      refine ⟨_, hid, _, rfl, ?_⟩
      obtain ⟨c, rest, hname⟩ : ∃ c rest, name.toList = c :: rest :=
        List.exists_cons_of_ne_nil fun hnil => hne (String.toList_inj.mp hnil)
      have htext : ("#" ++ name).toList = '#' :: c :: rest := by
        rw [String.toList_append, hname]
        rfl
      rw [htext]
      exact congrArg some (String.toList_inj.mp (String.toList_ofList.trans hname.symm))

theorem mem_memberAnchors : entry ∈ memberAnchors node members ↔
    ∃ member ∈ members, member.1 ∉ dataKeywords ∧
      entry ∈ member.2.anchors (node.push member.1) := by
  induction members with
  | nil => simp [memberAnchors]
  | cons member rest ih =>
    rw [memberAnchors, List.mem_append, ih, List.exists_mem_cons_iff]
    refine or_congr ?_ Iff.rfl
    split <;> simp_all

theorem mem_elementAnchors {start : Nat} : entry ∈ elementAnchors node start elements ↔
    ∃ (index : Nat) (value : Json), elements[index]? = some value ∧
      entry ∈ value.anchors (node.pushIndex (start + index)) := by
  induction elements generalizing start with
  | nil => simp [elementAnchors]
  | cons first rest ih =>
    rw [elementAnchors, List.mem_append, ih]
    constructor
    · rintro (hfirst | ⟨index, value, hvalue, hentry⟩)
      · exact ⟨0, first, rfl, hfirst⟩
      · exact ⟨index + 1, value, hvalue, by rwa [← Nat.add_assoc, Nat.add_right_comm]⟩
    · rintro ⟨index, value, hvalue, hentry⟩
      cases index with
      | zero =>
        cases hvalue
        exact .inl hentry
      | succ index =>
        exact .inr ⟨index, value, hvalue, by rwa [Nat.add_right_comm, Nat.add_assoc]⟩

/-- An index is no keyword. -/
theorem toString_not_mem_dataKeywords (index : Nat) : toString index ∉ dataKeywords := by
  have hwords : ∀ keyword ∈ dataKeywords, keyword.toList.all Char.isDigit = false := by decide
  refine fun hmem => Bool.eq_false_iff.mp (hwords _ hmem) (List.all_eq_true.mpr fun c hc => ?_)
  rw [Pointer.toList_toString] at hc
  exact Nat.isDigit_of_mem_toDigits (by decide) (by decide) hc

/-- What is collected are declarations, and there is no data keyword on the way to them. -/
theorem exists_of_mem_anchors (h : Addressable value) (hmem : (name, target) ∈ value.anchors node) :
    ∃ tokens part, target.tokens = node.tokens ++ tokens ∧
      tokens.foldlM child? value = some part ∧ (∀ token ∈ tokens, token ∉ dataKeywords) ∧
      part.Declares name := by
  induction h generalizing node with
  | null | bool _ | num _ | str _ => cases hmem
  | @arr elements hlength helements ih =>
    obtain ⟨index, value, hvalue, hentry⟩ := mem_elementAnchors.mp hmem
    obtain ⟨tokens, part, htarget, hpart, havoids, hdeclares⟩ :=
      ih value (List.mem_of_getElem? hvalue) hentry
    have hindex : index < 2 ^ 64 := by
      have := (List.getElem?_eq_some_iff.mp hvalue).1
      omega
    rw [Nat.zero_add] at htarget
    refine ⟨toString index :: tokens, part, ?_, ?_, ?_, hdeclares⟩
    · rw [htarget]
      simp [Pointer.pushIndex, Pointer.push]
    · exact Option.bind_eq_some_iff.mpr ⟨value, child?_element hvalue hindex, hpart⟩
    · exact List.forall_mem_cons.mpr ⟨toString_not_mem_dataKeywords index, havoids⟩
  | @obj members hkeys hmembers ih =>
    rcases List.mem_append.mp hmem with hown | hmem
    · obtain ⟨other, hdeclared, heq⟩ := List.mem_map.mp hown
      cases heq
      exact ⟨[], _, (List.append_nil _).symm, rfl, by simp, mem_declaredNames.mp hdeclared⟩
    · obtain ⟨⟨key, value⟩, hmember, hkey, hentry⟩ := mem_memberAnchors.mp hmem
      obtain ⟨tokens, part, htarget, hpart, havoids, hdeclares⟩ := ih _ hmember hentry
      refine ⟨key :: tokens, part, ?_, ?_, ?_, hdeclares⟩
      · rw [htarget]
        simp [Pointer.push]
      · exact Option.bind_eq_some_iff.mpr ⟨value, Table.lookup_of_mem hkeys hmember, hpart⟩
      · exact List.forall_mem_cons.mpr ⟨hkey, havoids⟩

/-- Every declaration without a data keyword on the way to it is collected. -/
theorem exists_mem_anchors (hpart : tokens.foldlM child? value = some part)
    (havoids : ∀ token ∈ tokens, token ∉ dataKeywords) (hdeclares : part.Declares name)
    (node : Pointer) : ∃ target, (name, target) ∈ value.anchors node := by
  induction tokens generalizing value node with
  | nil =>
    cases hpart
    obtain ⟨members, rfl⟩ := hdeclares.exists_members
    refine ⟨node, List.mem_append.mpr (.inl ?_)⟩
    exact List.mem_map.mpr ⟨name, mem_declaredNames.mpr hdeclares, rfl⟩
  | cons token tokens ih =>
    obtain ⟨child, hchild, hrest⟩ := Option.bind_eq_some_iff.mp hpart
    obtain ⟨htoken, havoids⟩ := List.forall_mem_cons.mp havoids
    cases value with
    | obj members =>
      obtain ⟨target, htarget⟩ := ih hrest havoids (node.push token)
      refine ⟨target, List.mem_append.mpr (.inr (mem_memberAnchors.mpr ?_))⟩
      exact ⟨(token, child), Table.mem_of_lookup hchild, htoken, htarget⟩
    | arr elements =>
      obtain ⟨index, -, hvalue⟩ := Option.bind_eq_some_iff.mp hchild
      obtain ⟨target, htarget⟩ := ih hrest havoids (node.pushIndex (0 + index))
      exact ⟨target, mem_elementAnchors.mpr ⟨index, child, hvalue, htarget⟩⟩
    | null | bool _ | num _ | str _ => cases hchild

end Json

/-! ### References by name -/

namespace Document

variable {document : Document} {node child target source : Pointer} {name keyword : String}
variable {root : Json}

/-- A name that is neither read as a pointer nor decoded. -/
structure IsName (name : String) : Prop where
  nonempty : name ≠ ""
  plain : '%' ∉ name.toList
  relative : name.toList.head? ≠ some '/'

/-- The value at a position declares a name. -/
def Declares (document : Document) (node : Pointer) (name : String) : Prop :=
  (document.fragment node).Declares name

/-- Schemas lead from the root to a position, through keywords that hold no data; `named` holds of
the names of properties and definitions on the way. -/
inductive IsSchemaAt (document : Document) (named : String → Prop) : Pointer → Prop where
  | root : IsSchemaAt document named .root
  | single {node child : Pointer} {keyword : String} (h : IsSchemaAt document named node)
      (hkeyword : keyword ∉ Json.dataKeywords)
      (hchild : document.subschema? node keyword = some child) : IsSchemaAt document named child
  | listed {node child : Pointer} {keyword : String} (h : IsSchemaAt document named node)
      (hkeyword : keyword ∉ Json.dataKeywords) (hchild : child ∈ document.subschemas node keyword) :
      IsSchemaAt document named child
  | named {node child : Pointer} {keyword name : String} (h : IsSchemaAt document named node)
      (hkeyword : keyword ∉ Json.dataKeywords) (hname : named name)
      (hchild : (name, child) ∈ document.namedSubschemas node keyword) :
      IsSchemaAt document named child

/-- Where no data keyword is the name of a property, none is on the way to a schema. -/
theorem IsSchemaAt.avoids (h : IsSchemaAt document (· ∉ Json.dataKeywords) node) :
    ∀ token ∈ node.tokens, token ∉ Json.dataKeywords := by
  have hpush {node : Pointer} {token : String} (h : ∀ token ∈ node.tokens, token ∉ Json.dataKeywords)
      (htoken : token ∉ Json.dataKeywords) :
      ∀ other ∈ (node.push token).tokens, other ∉ Json.dataKeywords := by
    intro other hother
    rcases List.mem_append.mp hother with hother | hother
    · exact h other hother
    · rwa [List.mem_singleton.mp hother]
  induction h with
  | root => exact fun _ htoken => absurd htoken List.not_mem_nil
  | @single _ _ keyword _ hkeyword hchild ih =>
    unfold subschema? at hchild
    split at hchild
    · split at hchild
      · cases hchild
        exact hpush ih hkeyword
      · cases hchild
    · cases hchild
  | listed _ hkeyword hchild ih =>
    unfold subschemas at hchild
    split at hchild
    · obtain ⟨⟨value, index⟩, -, hindex⟩ := List.mem_filterMap.mp hchild
      dsimp only at hindex
      split at hindex
      · cases hindex
        exact hpush (hpush ih hkeyword) (Json.toString_not_mem_dataKeywords index)
      · cases hindex
    · cases hchild
  | named _ hkeyword hname hchild ih =>
    unfold namedSubschemas at hchild
    split at hchild
    · obtain ⟨⟨other, value⟩, -, hother⟩ := List.mem_filterMap.mp hchild
      dsimp only at hother
      split at hother
      · cases hother
        exact hpush (hpush ih hkeyword) hname
      · cases hother
    · cases hchild

theorem splitReference_fragment (fragment : String) :
    splitReference ("#" ++ fragment) = ("", fragment) := by
  have hchars : ("#" ++ fragment).toList = '#' :: fragment.toList := by
    rw [String.toList_append]
    rfl
  unfold splitReference
  rw [hchars]
  exact congrArg (Prod.mk "") String.ofList_toList

theorem target?_of_isName (h : IsName name) :
    document.target? ("#" ++ name) = (document.anchors.lookup name).filter document.has := by
  unfold target? locate?
  rw [splitReference_fragment, if_neg, Pointer.percentDecode?_eq_self h.plain]
  · rfl
  · rw [String.isEmpty_iff]
    exact not_or.mpr ⟨h.nonempty, h.relative⟩

theorem isExternal_fragment (fragment : String) :
    document.isExternal ("#" ++ fragment) = false := by
  unfold isExternal
  rw [splitReference_fragment]
  rfl

theorem resolveReference_eq_ok_iff {reference : String} {source target : Pointer} :
    document.resolveReference reference source = .ok target ↔
      document.isExternal reference = false ∧ document.target? reference = some target := by
  unfold resolveReference
  cases document.isExternal reference with
  | true => exact ⟨nofun, fun h => nomatch h.1⟩
  | false => cases document.target? reference <;> simp

theorem resolveReference_name_eq_ok_iff (h : IsName name) :
    document.resolveReference ("#" ++ name) source = .ok target ↔
      document.anchors.lookup name = some target ∧ document.has target = true := by
  rw [resolveReference_eq_ok_iff, isExternal_fragment, target?_of_isName h,
    Option.filter_eq_some_iff]
  exact and_iff_right rfl

/-- What is declared stands in the document. -/
theorem Declares.exists_lookup (h : document.Declares node name) :
    ∃ part, node.lookup document.root = some part ∧ part.Declares name := by
  unfold Declares fragment at h
  cases hpart : node.lookup document.root with
  | none =>
    rw [hpart] at h
    obtain ⟨members, hmembers⟩ := h.exists_members
    cases hmembers
  | some part =>
    rw [hpart] at h
    exact ⟨part, rfl, h⟩

/-- A position under a name declares it, and there is no data keyword on the way to it. -/
theorem declares_of_lookup_anchors (hroot : root.Addressable)
    (h : (ofJson root).anchors.lookup name = some target) :
    (∀ token ∈ target.tokens, token ∉ Json.dataKeywords) ∧
      (ofJson root).Declares target name ∧ (ofJson root).has target = true := by
  obtain ⟨tokens, part, htarget, hpart, havoids, hdeclares⟩ :=
    Json.exists_of_mem_anchors hroot (Table.mem_of_lookup h)
  have hlookup : target.lookup root = some part := by
    unfold Pointer.lookup
    rw [htarget]
    exact hpart
  refine ⟨?_, ?_, Option.isSome_iff_exists.mpr ⟨part, hlookup⟩⟩
  · rwa [htarget]
  · show ((target.lookup root).getD .null).Declares name
    rwa [hlookup]

/-- Some position is found under a name that is declared without a data keyword on the way. -/
theorem exists_lookup_anchors (h : (ofJson root).Declares node name)
    (havoids : ∀ token ∈ node.tokens, token ∉ Json.dataKeywords) :
    ∃ target, (ofJson root).anchors.lookup name = some target := by
  obtain ⟨part, hpart, hdeclares⟩ := h.exists_lookup
  obtain ⟨target, htarget⟩ := Json.exists_mem_anchors hpart havoids hdeclares .root
  refine Option.ne_none_iff_exists'.mp fun hnone => Table.lookup_eq_none_iff.mp hnone ?_
  exact List.mem_map.mpr ⟨(name, target), htarget, rfl⟩

/-- **Which references by name lead to a position.** There is such a position exactly when one
without a data keyword on the way to it declares the name, and then the position that is found
declares it. A schema that declares a name is enough, unless a property on the way to it is named
like a data keyword. -/
theorem resolveReference_name_iff (hroot : root.Addressable) (h : IsName name) (source : Pointer) :
    ((∃ target, (ofJson root).resolveReference ("#" ++ name) source = .ok target) ↔
      ∃ node, (∀ token ∈ node.tokens, token ∉ Json.dataKeywords) ∧
        (ofJson root).Declares node name) ∧
    (∀ target, (ofJson root).resolveReference ("#" ++ name) source = .ok target →
      (ofJson root).Declares target name) ∧
    (∀ node, IsSchemaAt (ofJson root) (· ∉ Json.dataKeywords) node →
      (ofJson root).Declares node name →
        ∃ target, (ofJson root).resolveReference ("#" ++ name) source = .ok target) := by
  have hdeclared (target : Pointer)
      (htarget : (ofJson root).resolveReference ("#" ++ name) source = .ok target) :
      (∀ token ∈ target.tokens, token ∉ Json.dataKeywords) ∧
        (ofJson root).Declares target name := by
    obtain ⟨hlookup, -⟩ := (resolveReference_name_eq_ok_iff h).mp htarget
    obtain ⟨havoids, hdeclares, -⟩ := declares_of_lookup_anchors hroot hlookup
    exact ⟨havoids, hdeclares⟩
  have hfound (node : Pointer) (havoids : ∀ token ∈ node.tokens, token ∉ Json.dataKeywords)
      (hdeclares : (ofJson root).Declares node name) :
      ∃ target, (ofJson root).resolveReference ("#" ++ name) source = .ok target := by
    obtain ⟨target, hlookup⟩ := exists_lookup_anchors hdeclares havoids
    obtain ⟨-, -, hhas⟩ := declares_of_lookup_anchors hroot hlookup
    exact ⟨target, (resolveReference_name_eq_ok_iff h).mpr ⟨hlookup, hhas⟩⟩
  refine ⟨⟨?_, ?_⟩, fun target htarget => (hdeclared target htarget).2, ?_⟩
  · rintro ⟨target, htarget⟩
    exact ⟨target, hdeclared target htarget⟩
  · rintro ⟨node, havoids, hdeclares⟩
    exact hfound node havoids hdeclares
  · exact fun node hnode hdeclares => hfound node hnode.avoids hdeclares

/-! ### A property that is named like a keyword -/

/-- Two properties that declare a name, the first of them under the name of a data keyword. -/
def namedLikeKeyword : Json :=
  .object [("properties", .object [("default", .object [("$anchor", .str "x")]),
    ("other", .object [("$anchor", .str "y")])])]

theorem addressable_namedLikeKeyword : namedLikeKeyword.Addressable := by
  have hproperty (name : String) : (Json.object [("$anchor", .str name)]).Addressable :=
    .obj (List.pairwise_singleton _ _) fun member hmember => by
      rw [List.mem_singleton.mp hmember]
      exact .str name
  refine .obj (by decide) fun member hmember => ?_
  rw [List.mem_singleton.mp hmember]
  refine .obj (by decide) fun member hmember => ?_
  have hmembers : member ∈ [("default", Json.object [("$anchor", .str "x")]),
      ("other", Json.object [("$anchor", .str "y")])] := hmember
  simp only [List.mem_cons, List.not_mem_nil, or_false] at hmembers
  rcases hmembers with rfl | rfl
  · exact hproperty "x"
  · exact hproperty "y"

/-- The second property is found under its name. The first one is a schema with a name as well, but
no reference finds it. -/
theorem resolveReference_name_namedLikeKeyword :
    (∃ target, (ofJson namedLikeKeyword).resolveReference ("#" ++ "y") .root = .ok target) ∧
      IsSchemaAt (ofJson namedLikeKeyword) (fun _ => True)
        ((Pointer.root.push "properties").push "default") ∧
      (ofJson namedLikeKeyword).Declares ((Pointer.root.push "properties").push "default") "x" ∧
      ¬∃ source target,
        (ofJson namedLikeKeyword).resolveReference ("#" ++ "x") source = .ok target := by
  have hproperties : (ofJson namedLikeKeyword).namedSubschemas .root "properties" =
      [("default", (Pointer.root.push "properties").push "default"),
        ("other", (Pointer.root.push "properties").push "other")] := rfl
  have hx : IsName "x" := ⟨by decide, by decide, by decide⟩
  have hy : IsName "y" := ⟨by decide, by decide, by decide⟩
  have hother : IsSchemaAt (ofJson namedLikeKeyword) (· ∉ Json.dataKeywords)
      ((Pointer.root.push "properties").push "other") := by
    have hmem : ("other", (Pointer.root.push "properties").push "other") ∈
        (ofJson namedLikeKeyword).namedSubschemas .root "properties" := by
      rw [hproperties]
      exact .tail _ (.head _)
    exact .named .root (by decide) (by decide) hmem
  have hdefault : IsSchemaAt (ofJson namedLikeKeyword) (fun _ => True)
      ((Pointer.root.push "properties").push "default") := by
    have hmem : ("default", (Pointer.root.push "properties").push "default") ∈
        (ofJson namedLikeKeyword).namedSubschemas .root "properties" := by
      rw [hproperties]
      exact .head _
    exact .named .root (by decide) trivial hmem
  obtain ⟨-, -, hfound⟩ := resolveReference_name_iff addressable_namedLikeKeyword hy .root
  refine ⟨hfound _ hother (.inl rfl), hdefault, .inl rfl, ?_⟩
  rintro ⟨source, target, htarget⟩
  have hnone : (ofJson namedLikeKeyword).anchors.lookup "x" = none := rfl
  cases hnone.symm.trans ((resolveReference_name_eq_ok_iff hx).mp htarget).1

end Document

end Specimen
