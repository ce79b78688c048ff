import Specimen.Proofs.Instance.Depth
import Specimen.Proofs.Instance.Limits

/-!
# Specimen.Proofs.Instance.Nesting

How deeply the value of a run is nested: no deeper than the run may go down, as long as no value is
taken over as it is (`Generation.nestsWithin_of_run`).

Values are taken over from `enum` and `const` and from the source of realistic values. Without the
keywords no set of demands has candidates (`Normalization.candidates_eq_none`), and a source of
scalars adds nothing to a value. All else is one level of the value for one level of the run.
-/

namespace Specimen

/-! ### Keys and nesting -/

namespace Json

mutual

/-- The keys of all objects in a value. -/
def keys : Json → List String
  | .arr elements => elementsKeys elements
  | .obj members => membersKeys members
  | _ => []

/-- The keys of all objects in some elements. -/
def elementsKeys : List Json → List String
  | [] => []
  | value :: rest => keys value ++ elementsKeys rest

/-- The keys of some members, and of all objects in them. -/
def membersKeys : List (String × Json) → List String
  | [] => []
  | (name, value) :: rest => name :: (keys value ++ membersKeys rest)

end

theorem keys_subset_of_mem {value : Json} :
    {elements : List Json} → value ∈ elements → value.keys ⊆ elementsKeys elements
  | first :: rest, h => by
    rcases List.mem_cons.mp h with rfl | h
    · exact List.subset_append_left _ _
    · exact List.Subset.trans (keys_subset_of_mem h) (List.subset_append_right _ _)

theorem keys_subset_of_lookup {name : String} {value : Json} :
    {members : List (String × Json)} → members.lookup name = some value →
      name ∈ membersKeys members ∧ value.keys ⊆ membersKeys members
  | (first, part) :: rest, h => by
    rw [List.lookup_cons] at h
    split at h
    · rename_i hname
      cases h
      refine ⟨by simp [membersKeys, eq_of_beq hname], fun key hkey => ?_⟩
      exact List.mem_cons_of_mem _ (List.mem_append_left _ hkey)
    · obtain ⟨hname, hkeys⟩ := keys_subset_of_lookup h
      refine ⟨List.mem_cons_of_mem _ (List.mem_append_right _ hname), fun key hkey => ?_⟩
      exact List.mem_cons_of_mem _ (List.mem_append_right _ (hkeys hkey))

/-- The keys of a part are keys of the whole. -/
theorem keys_subset_of_child? {value child : Json} {token : String}
    (h : value.child? token = some child) : child.keys ⊆ value.keys := by
  unfold child? at h
  split at h
  · exact (keys_subset_of_lookup h).2
  · obtain ⟨index, -, hi⟩ := Option.bind_eq_some_iff.mp h
    exact keys_subset_of_mem (List.mem_of_getElem? hi)
  · cases h

theorem keys_subset_of_foldlM {tokens : List String} {value part : Json}
    (h : tokens.foldlM child? value = some part) : part.keys ⊆ value.keys := by
  induction tokens generalizing value with
  | nil =>
    cases h
    exact List.Subset.refl _
  | cons token tokens ih =>
    obtain ⟨child, hc, hp⟩ := Option.bind_eq_some_iff.mp h
    exact List.Subset.trans (ih hp) (keys_subset_of_child? hc)

/-- A value without parts. -/
def isScalar : Json → Bool
  | .arr _ | .obj _ => false
  | _ => true

/-- Every position in a value is reached by so many tokens at most. -/
def NestsWithin (bound : Nat) (value : Json) : Prop :=
  ∀ pointer part, Pointer.lookup pointer value = some part → pointer.tokens.length ≤ bound

variable {bound other : Nat} {value : Json}

/-- A greater bound is met too. -/
theorem NestsWithin.mono (h : value.NestsWithin bound) (hle : bound ≤ other) :
    value.NestsWithin other :=
  fun pointer part hp => Nat.le_trans (h pointer part hp) hle

theorem nestsWithin_of_child?_eq_none (h : ∀ token, value.child? token = none) :
    value.NestsWithin bound := by
  intro pointer part hp
  obtain ⟨tokens⟩ := pointer
  cases tokens with
  | nil => exact Nat.zero_le _
  | cons token tokens =>
    obtain ⟨child, hc, -⟩ := Option.bind_eq_some_iff.mp hp
    cases (h token).symm.trans hc

/-- Values without parts do not nest. -/
theorem nestsWithin_of_isScalar (h : value.isScalar = true) : value.NestsWithin bound := by
  refine nestsWithin_of_child?_eq_none fun token => ?_
  cases value with
  | null | bool | num | str => rfl
  | arr | obj => cases h

/-- One level more than the parts. -/
theorem nestsWithin_succ (h : ∀ token child, value.child? token = some child →
    child.NestsWithin bound) : value.NestsWithin (bound + 1) := by
  intro pointer part hp
  obtain ⟨tokens⟩ := pointer
  cases tokens with
  | nil => exact Nat.zero_le _
  | cons token tokens =>
    obtain ⟨child, hc, hrest⟩ := Option.bind_eq_some_iff.mp hp
    exact Nat.succ_le_succ (h token child hc ⟨tokens⟩ part hrest)

/-- A list nests one level deeper than its elements. -/
theorem nestsWithin_arr {elements : List Json} (h : ∀ value ∈ elements, value.NestsWithin bound) :
    (Json.arr elements).NestsWithin (bound + 1) := by
  refine nestsWithin_succ fun token child hc => ?_
  obtain ⟨index, -, hi⟩ := Option.bind_eq_some_iff.mp hc
  exact h child (List.mem_of_getElem? hi)

end Json

/-- Neither `enum` nor `const` is a key of any object in a document. -/
def Document.ListsNoValues (document : Document) : Prop :=
  "enum" ∉ document.root.keys ∧ "const" ∉ document.root.keys

instance (document : Document) : Decidable document.ListsNoValues :=
  inferInstanceAs (Decidable (_ ∧ _))

/-- A source that gives no other values than scalars. -/
def Provider.GivesScalars {σ : Type} (provider : Provider σ) : Prop :=
  ∀ hint, Yields (provider.provide hint) fun value? => ∀ value ∈ value?, value.isScalar = true

/-! ### Candidates -/

section Candidates

variable {document : Document} {node : Pointer} {keyword : String}

/-- A keyword that occurs nowhere is missing at every node. -/
theorem Document.keyword?_eq_none (h : keyword ∉ document.root.keys) :
    document.keyword? node keyword = none := by
  refine Option.eq_none_iff_forall_ne_some.mpr fun value hvalue => h ?_
  unfold keyword? fragment Pointer.lookup Json.member? at hvalue
  cases hf : node.tokens.foldlM Json.child? document.root with
  | none => rw [hf] at hvalue; cases hvalue
  | some part =>
    rw [hf] at hvalue
    split at hvalue
    · rename_i members hmembers
      obtain rfl : part = .obj members := hmembers
      exact Json.keys_subset_of_foldlM hf (Json.keys_subset_of_lookup hvalue).1
    · cases hvalue

/-- A document that lists no values gives no candidates. -/
theorem Constraints.candidates_of_ofSchema (h : document.ListsNoValues) {set : Constraints}
    (hs : ofSchema document node = .ok set) : set.candidates = none := by
  have hread := (isReading_of_ofSchema_eq_ok hs).candidates
  unfold readCandidates readEnum at hread
  rw [Document.keyword?_eq_none h.1, Document.keyword?_eq_none h.2] at hread
  exact (Except.ok.inj hread).symm

/-- Without lists of values no demands have candidates. -/
theorem Normalization.candidates_eq_none (h : document.ListsNoValues) {path : List Pointer}
    {entered broken : Pointer → Prop} {set : Constraints}
    (hs : Settles document path entered broken node set) : set.candidates = none := by
  obtain ⟨raw, hraw, hfinal⟩ := hs
  refine (Constraints.settlesTo_of_finalize hfinal).unlisted ?_
  refine Alternative.induct (fun _ set => set.candidates = none) ?_ ?_ ?_ ?_ hraw
  · exact fun _ => rfl
  · intro _ own howns
    obtain ⟨set, hset, rfl⟩ := howns
    show set.candidates = none
    exact Constraints.candidates_of_ofSchema h hset
  · exact fun _ _ _ _ hpart => hpart
  · intro _ left right set hleft hright hi
    obtain ⟨kinds, candidates, -, hc, rfl⟩ := Constraints.exists_mergeWith_of_intersect hi
    rw [hleft, hright] at hc
    exact (Option.some.inj hc).symm

end Candidates

/-! ### Values -/

namespace Instance

variable {σ : Type} {set : Constraints} {bound : Nat}

/-- The simplest values do not nest. -/
theorem nestsWithin_simplest (set : Constraints) (kinds : KindSet) :
    (simplest set kinds).NestsWithin 0 := by
  refine Json.nestsWithin_of_child?_eq_none fun token => ?_
  unfold simplest
  split
  · rfl
  · split
    · rfl
    · rfl
    · dsimp only
      split <;> rfl
    · rfl
    · unfold Json.child?
      simp
    all_goals rfl

/-- At the depth limit values do not nest. -/
theorem nestsWithin_terminalValue {document : Document} (h : document.ListsNoValues)
    (node : Pointer) : (terminalValue document node).NestsWithin 0 := by
  unfold terminalValue
  dsimp only
  split
  · exact Json.nestsWithin_of_isScalar rfl
  · rename_i set hset
    rw [Constraints.candidates_of_ofSchema h hset]
    exact nestsWithin_simplest _ _

variable [Random.Source σ] {setting : Setting σ} {child : Pointer → Option String → Run σ Json}

theorem yields_unknownValue (hp : setting.provider.GivesScalars) (property : Option String) :
    Yields (unknownValue setting.provider property) fun value => value.isScalar = true := by
  unfold unknownValue
  split
  · rename_i hint _
    unfold Provider.provideOrText
    refine (hp hint).bind fun value? => ?_
    split
    · exact ends_pure fun hscalar => hscalar _ rfl
    · exact (yields_any _).andThen fun _ => ends_pure fun _ => rfl
  · exact ends_pure rfl

/-- Only lists and objects add a level. -/
theorem yields_ofKind_nestsWithin (hp : setting.provider.GivesScalars)
    (hc : ∀ node, set.IsChild node → ∀ property,
      Yields (child node property) (Json.NestsWithin bound))
    (property : Option String) (kind : Kind) :
    Yields (ofKind setting set property child kind) (Json.NestsWithin (bound + 1)) := by
  have hscalar {value : Json} (h : value.isScalar = true) : value.NestsWithin (bound + 1) :=
    Json.nestsWithin_of_isScalar h
  cases kind with
  | null => exact ends_pure (hscalar rfl)
  | boolean | integer | number | string =>
    exact (yields_any _).andThen fun _ => ends_pure (hscalar rfl)
  | array =>
    refine (ends_array unaffected_false (fun node hn => hc node hn none) _).bind fun elements => ?_
    refine ends_pure fun hfits => Json.nestsWithin_arr fun item hitem => ?_
    obtain ⟨containsAt, -, -, hplace⟩ := hfits
    obtain ⟨index, hindex⟩ := List.getElem?_of_mem hitem
    have hfits := hplace index item hindex
    cases hschema : schemaAt? set containsAt index with
    | some node => rw [hschema] at hfits; exact hfits
    | none => rw [hschema] at hfits; exact Json.nestsWithin_of_isScalar (by rw [hfits]; rfl)
  | object =>
    have hrule : MemberRule setting.library (fun _ value => value.NestsWithin bound)
        (fun value => value.isScalar = true) set fun _ value => value.NestsWithin bound :=
      ⟨fun _ _ _ _ h => h, fun _ _ _ _ _ h => h, fun _ _ _ h => Json.nestsWithin_of_isScalar h⟩
    refine (ends_object_eachMember unaffected_false hrule
      (fun name => yields_unknownValue hp (some name)) hc).bind fun members => ?_
    exact ends_pure fun heach => Json.nestsWithin_succ fun name value hv => heach name value hv
  | unknown =>
    exact (ends_draw unaffected_false (yields_unknownValue hp property)).mono fun _ => hscalar

theorem yields_drawAdmissible {described : Json → Prop} {property : Option String}
    (h : ∀ kind, Yields (ofKind setting set property child kind) described) (last : Json)
    (attempts : Nat) :
    Yields (drawAdmissible setting set property child last attempts) fun value =>
      described last → described value := by
  induction attempts generalizing last with
  | zero => exact (yields_any _).andThen fun _ => ends_pure fun hlast => hlast
  | succ attempts ih =>
    unfold drawAdmissible
    refine (yields_any _).andThen fun kind => (h kind).bind fun value => ?_
    split
    · exact (ih value).mono fun _ hafter hvalue _ => hafter hvalue
    · exact ends_pure fun hvalue _ => hvalue

/-- Values nest one level deeper than those of the children. -/
theorem yields_ofConstraints_nestsWithin (hp : setting.provider.GivesScalars)
    (hnone : set.candidates = none)
    (hc : ∀ node, set.IsChild node → ∀ property,
      Yields (child node property) (Json.NestsWithin bound))
    (property : Option String) :
    Yields (ofConstraints setting set property child) (Json.NestsWithin (bound + 1)) := by
  unfold ofConstraints
  rw [hnone]
  refine (yields_drawAdmissible (yields_ofKind_nestsWithin hp hc property) .null _).mono ?_
  exact fun value h => h (Json.nestsWithin_of_isScalar rfl)

/-- A value is nested no deeper than there is room. -/
theorem yields_value_nestsWithin (hd : setting.document.ListsNoValues)
    (hp : setting.provider.GivesScalars) (room : Nat) (node : Pointer)
    (property : Option String) :
    Yields (Instance.value setting room node property) (Json.NestsWithin room) := by
  induction room generalizing node property with
  | zero =>
    refine (yields_any _).andThen fun _ => (yields_any _).andThen fun _ => ?_
    exact ends_pure (nestsWithin_terminalValue hd node)
  | succ room ih =>
    have hnormalized : Yields (normalized setting.document node : Run σ Normalization)
        fun normalization => ∀ set ∈ normalization.demands.sets, set.candidates = none :=
      fun progress => ⟨fun h => h, fun normalization h => .inr fun set hset =>
        Normalization.candidates_eq_none hd
          (Normalization.exists_alternative (normalize_of_normalized h) set hset)⟩
    rw [value_succ]
    refine ends_valueWith unaffected_false hnormalized ?_ ?_
    · intro target message
      refine (yields_any _).andThen fun _ => ends_pure ?_
      exact (nestsWithin_terminalValue hd target).mono (Nat.zero_le _)
    · -- One level of the run makes at most one level of the value.
      intro set entered
      refine Ends.of_known (yields_any _) fun hnone progress => ?_
      exact yields_ofConstraints_nestsWithin hp hnone (fun node _ property => ih node property)
        property (progress.descend entered)

end Instance

namespace Generation

open Instance

variable {σ : Type} [Random.Source σ] {setting : Setting σ} {source : σ} {node : Pointer}
variable {seed : UInt64} {value : Json} {report : Report}

/-- **The greatest depth bounds the value.** Where neither the document lists values nor the source
of realistic values gives others than scalars, no position in the value of a run has a longer
pointer than the run may go down. -/
theorem nestsWithin_of_run (hd : setting.document.ListsNoValues)
    (hp : setting.provider.GivesScalars)
    (h : run setting source node seed = .ok (value, report)) :
    ∀ pointer part, Pointer.lookup pointer value = some part →
      pointer.tokens.length ≤ setting.options.maxDepth := by
  have hvalue := (yields_value_nestsWithin hd hp setting.options.maxDepth node none
    (start source node seed)).2 value (result_finish h)
  exact hvalue.resolve_left fun hf => hf

theorem nestsWithin_of_run_singletons : ∃ value report,
    singletons.document.ListsNoValues ∧ singletons.provider.GivesScalars ∧
      run singletons ⟨⟩ .root 0 = .ok (value, report) ∧
      ∀ pointer part, Pointer.lookup pointer value = some part →
        pointer.tokens.length ≤ singletons.options.maxDepth := by
  obtain ⟨value, report, hrun, -⟩ := run_singletons
  have hd : singletons.document.ListsNoValues := by decide +kernel
  have hp : singletons.provider.GivesScalars := fun hint => ends_pure (by simp)
  exact ⟨value, report, hd, hp, hrun, nestsWithin_of_run hd hp hrun⟩

end Generation

end Specimen
