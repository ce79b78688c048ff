import Specimen.Normalization
import Specimen.Proofs.Constraint.Reading

/-!
# Specimen.Proofs.Normalization.Satisfaction

What it means that a value satisfies a schema (`Satisfies`), without alternatives and without the
order in which a walk goes: the schema's own keywords hold, and so do its reference, every member
of its `allOf`, its `then`, and one branch each of its `anyOf` and its `oneOf`.

A reference to a target that is open demands nothing. As in the walk, this makes the recursion end:
every step goes down in the document or opens one more target.
-/

namespace Specimen

namespace Normalization

variable (document : Document)

/-- The reference of a schema leads to a target that is not open yet. -/
def Enters (path active : List Pointer) (node target : Pointer) : Prop :=
  ∃ reference, document.referenceOf node = .ok (some reference) ∧
    document.resolveReference reference node = .ok target ∧ target ∉ path ∧ target ∉ active

/-- A value meets the keywords of a schema itself, and is none of those that its `not` lists. -/
structure SatisfiesOwn (node : Pointer) (value : Json) : Prop where
  enumerated : ∀ values, document.keyword? node "enum" = some (.arr values) →
    Json.contains values value = true
  constant : ∀ constant, document.keyword? node "const" = some constant → (constant == value) = true
  admitted : ∀ set, Constraints.ofSchema document node = .ok set → set.Admits value
  negated : ∀ negated, document.subschema? node "not" = some negated →
    Json.contains (listedValues document negated) value = false

variable {document} in
/-- Each target that is entered is one less to be entered, so the recursion ends. -/
theorem Enters.unvisited_lt {path active : List Pointer} {node target : Pointer}
    (h : Enters document path active node target) :
    document.unvisited (target :: active) < document.unvisited active := by
  obtain ⟨reference, hr, ht, -, ha⟩ := h
  exact Document.unvisited_cons_lt (Document.mem_targets_of_resolveReference hr ht) ha

/-- A value satisfies a schema. `path` and `active` hold the targets that are open. -/
def Satisfies (path active : List Pointer) (node : Pointer) (value : Json) : Prop :=
  match document.fragment node with
  | .bool flag => flag = true
  | .obj _ =>
    SatisfiesOwn document node value ∧
    (∀ target, (_ : Enters document path active node target) →
      Satisfies path (target :: active) target value) ∧
    (∀ member, (_ : member ∈ document.subschemas node "allOf") →
      Satisfies path active member value) ∧
    (∀ child, (_ : document.subschema? node "then" = some child) →
      Satisfies path active child value) ∧
    (document.subschemas node "anyOf" ≠ [] →
      ∃ branch, ∃ _ : branch ∈ document.subschemas node "anyOf",
        Satisfies path active branch value) ∧
    (document.subschemas node "oneOf" ≠ [] →
      ∃ branch, ∃ _ : branch ∈ document.subschemas node "oneOf",
        Satisfies path active branch value)
  | _ => False
termination_by (document.unvisited active, sizeOf (document.fragment node))
decreasing_by
  · exact .left _ _ (Enters.unvisited_lt ‹_›)
  · exact .right _ (Document.sizeOf_fragment_subschemas_lt ‹_›)
  · exact .right _ (Document.sizeOf_fragment_subschema_lt ‹_›)
  · exact .right _ (Document.sizeOf_fragment_subschemas_lt ‹_›)
  · exact .right _ (Document.sizeOf_fragment_subschemas_lt ‹_›)

end Normalization

/-! ### Failures to read keywords -/

/-- No value can meet the demands of a schema. -/
def SchemaError.Unsatisfiable (error : SchemaError) : Prop :=
  ∃ node reason, error = .unsatisfiable node reason

/-- A computation fails only because a schema is not well formed. -/
structure OnlyInvalid {α : Type} (result : Except SchemaError α) : Prop where
  exists_eq : ∀ error, result = .error error → ∃ node reason, error = .invalidSchema node reason

section OnlyInvalid

variable {α β : Type}

theorem OnlyInvalid.ok (a : α) : OnlyInvalid (.ok a) := by
  constructor
  intro error h
  cases h

theorem OnlyInvalid.error (node : Pointer) (reason : String) :
    OnlyInvalid (.error (.invalidSchema node reason) : Except SchemaError α) := by
  constructor
  intro error h
  cases h
  exact ⟨node, reason, rfl⟩

/-- Reading in steps fails as one of the steps does. -/
theorem OnlyInvalid.bind {first : Except SchemaError α} {next : α → Except SchemaError β}
    (hfirst : OnlyInvalid first) (hnext : ∀ a, OnlyInvalid (next a)) :
    OnlyInvalid (first >>= next) := by
  constructor
  intro error h
  cases first with
  | error e =>
    cases h
    exact hfirst.exists_eq _ rfl
  | ok a => exact (hnext a).exists_eq error h

theorem OnlyInvalid.mapM {f : α → Except SchemaError β} (hf : ∀ a, OnlyInvalid (f a)) :
    (list : List α) → OnlyInvalid (list.mapM f)
  | [] => .ok []
  | a :: rest => by
    rw [List.mapM_cons]
    exact .bind (hf a) fun b => .bind (OnlyInvalid.mapM hf rest) fun bs => .ok (b :: bs)

theorem OnlyInvalid.foldlM {f : β → α → Except SchemaError β}
    (hf : ∀ b a, OnlyInvalid (f b a)) : (list : List α) → (b : β) → OnlyInvalid (list.foldlM f b)
  | [], b => .ok b
  | a :: rest, b => by
    rw [List.foldlM_cons]
    exact .bind (hf b a) fun b => OnlyInvalid.foldlM hf rest b

/-- A failure of a computation in two steps that is not the failure of the first one is one of the
second. -/
theorem OnlyInvalid.error_of_bind {first : Except SchemaError α} {next : α → Except SchemaError β}
    (hfirst : OnlyInvalid first) {error : SchemaError} (hu : error.Unsatisfiable)
    (h : (first >>= next) = .error error) : ∃ a, first = .ok a ∧ next a = .error error := by
  obtain ⟨at_, reason, rfl⟩ := hu
  cases first with
  | error e =>
    cases h
    obtain ⟨_, _, he⟩ := hfirst.exists_eq _ rfl
    cases he
  | ok a => exact ⟨a, rfl, h⟩

end OnlyInvalid

namespace Constraints

variable (document : Document) (node : Pointer) (keyword : String)

/-- Types that are not names of types make a schema invalid. -/
theorem onlyInvalid_readKinds : OnlyInvalid (readKinds document node) := by
  unfold readKinds readTypeNames
  refine .bind ?_ fun names => ?_
  · split
    · exact .ok _
    · exact .ok _
    · refine .mapM (fun name => ?_) _
      split
      · exact .ok _
      · exact .error _ _
    · exact .error _ _
  · dsimp only
    split <;> exact .ok _

theorem onlyInvalid_readNumber : OnlyInvalid (readNumber document node keyword) := by
  unfold readNumber
  split
  · exact .ok _
  · split
    · exact .ok _
    · exact .error _ _

theorem onlyInvalid_readCount : OnlyInvalid (readCount document node keyword) := by
  unfold readCount
  split
  · exact .ok _
  · split
    · exact .ok _
    · exact .error _ _

theorem onlyInvalid_readText : OnlyInvalid (readText document node keyword) := by
  unfold readText
  split
  · exact .ok _
  · exact .ok _
  · exact .error _ _

/-- Ends that are not numbers make a schema invalid. -/
theorem onlyInvalid_readBound (exclusiveKeyword : String) (tighter : Bound → Bound → Bound) :
    OnlyInvalid (readBound document node keyword exclusiveKeyword tighter) := by
  unfold readBound
  refine .bind (onlyInvalid_readNumber ..) fun inclusive => ?_
  split
  · exact .ok _
  · exact .ok _
  · exact .ok _
  · split
    · exact .ok _
    · exact .error _ _

theorem onlyInvalid_readStep : OnlyInvalid (readStep document node) := by
  unfold readStep
  refine .bind (onlyInvalid_readNumber ..) fun step => ?_
  split
  · exact .error _ _
  · exact .ok _

/-- Names that are not texts make a schema invalid. -/
theorem onlyInvalid_readNames (value : Json) :
    OnlyInvalid (readNames node keyword value) := by
  unfold readNames
  dsimp only
  split
  · split
    · exact .ok _
    · exact .error _ _
  · exact .error _ _

theorem onlyInvalid_readRequired : OnlyInvalid (readRequired document node) := by
  unfold readRequired
  split
  · exact onlyInvalid_readNames ..
  · exact .ok _

theorem onlyInvalid_addDependencies (keyword : String) (arraysOnly : Bool)
    (table : NameTable NameSet) :
    OnlyInvalid (addDependencies document node keyword arraysOnly table) := by
  unfold addDependencies
  split
  · refine .foldlM (fun table entry => ?_) _ _
    obtain ⟨name, value⟩ := entry
    dsimp only
    split
    · exact .ok _
    · exact .bind (onlyInvalid_readNames ..) fun names => .ok _
  · exact .ok _

/-- Dependencies of the wrong form make a schema invalid. -/
theorem onlyInvalid_readDependencies : OnlyInvalid (readDependencies document node) :=
  .bind (onlyInvalid_addDependencies ..) fun _ => onlyInvalid_addDependencies ..

theorem onlyInvalid_readEnum : OnlyInvalid (readEnum document node) := by
  unfold readEnum
  split
  · exact .ok _
  · exact .ok _
  · exact .error _ _

variable {document node} in
/-- Values that have been read are those that the keyword lists. -/
theorem keyword?_of_readEnum {enumerated : Option (List Json)}
    (h : readEnum document node = .ok enumerated) (values : List Json) :
    document.keyword? node "enum" = some (.arr values) ↔ enumerated = some values := by
  unfold readEnum at h
  split at h
  · rename_i hk
    cases h
    simp [hk]
  · rename_i listed hk
    cases h
    simp [hk]
  · cases h

/-- Reading the demands of a schema fails for want of a value only when `const` is none of the
values of `enum`. -/
theorem exists_const_of_ofSchema_eq_error {error : SchemaError} (hu : error.Unsatisfiable)
    (h : ofSchema document node = .error error) :
    ∃ values constant, document.keyword? node "enum" = some (.arr values) ∧
      document.keyword? node "const" = some constant ∧ Json.contains values constant = false := by
  unfold ofSchema at h
  obtain ⟨kinds, -, h⟩ := (onlyInvalid_readKinds ..).error_of_bind hu h
  obtain ⟨minimum, -, h⟩ := (onlyInvalid_readBound ..).error_of_bind hu h
  obtain ⟨maximum, -, h⟩ := (onlyInvalid_readBound ..).error_of_bind hu h
  obtain ⟨multipleOf, -, h⟩ := (onlyInvalid_readStep ..).error_of_bind hu h
  obtain ⟨minLength, -, h⟩ := (onlyInvalid_readCount ..).error_of_bind hu h
  obtain ⟨maxLength, -, h⟩ := (onlyInvalid_readCount ..).error_of_bind hu h
  obtain ⟨pattern, -, h⟩ := (onlyInvalid_readText ..).error_of_bind hu h
  obtain ⟨format, -, h⟩ := (onlyInvalid_readText ..).error_of_bind hu h
  obtain ⟨minItems, -, h⟩ := (onlyInvalid_readCount ..).error_of_bind hu h
  obtain ⟨maxItems, -, h⟩ := (onlyInvalid_readCount ..).error_of_bind hu h
  obtain ⟨required, -, h⟩ := (onlyInvalid_readRequired ..).error_of_bind hu h
  obtain ⟨minProperties, -, h⟩ := (onlyInvalid_readCount ..).error_of_bind hu h
  obtain ⟨maxProperties, -, h⟩ := (onlyInvalid_readCount ..).error_of_bind hu h
  obtain ⟨dependentRequired, -, h⟩ := (onlyInvalid_readDependencies ..).error_of_bind hu h
  -- Only the last keywords are left, `enum` and `const`.
  cases hc : readCandidates document node with
  | ok candidates => rw [hc] at h; cases h
  | error e =>
    rw [hc] at h
    cases h
    obtain ⟨enumerated, he, hc⟩ := (onlyInvalid_readEnum ..).error_of_bind hu hc
    unfold candidatesOf at hc
    split at hc
    · cases hc
    · cases hc
    · rename_i values constant hconst
      split at hc
      · cases hc
      · rename_i hcontains
        exact ⟨values, constant, (keyword?_of_readEnum he values).mpr rfl, hconst,
          by simpa using hcontains⟩

variable {document node} in
/-- The candidates of a schema are listed by its `enum` and equal to its `const`. -/
theorem listed_of_readCandidates {candidates : Option (List Json)} {value : Json}
    (h : readCandidates document node = .ok candidates)
    (hv : ∀ listed ∈ candidates, Json.contains listed value = true) :
    (∀ values, document.keyword? node "enum" = some (.arr values) →
      Json.contains values value = true) ∧
    ∀ constant, document.keyword? node "const" = some constant → (constant == value) = true := by
  unfold readCandidates at h
  obtain ⟨enumerated, he, h⟩ := exists_of_bind_eq_ok h
  simp only [keyword?_of_readEnum he]
  unfold candidatesOf at h
  split at h
  · rename_i hconst
    cases h
    simp only [hconst, reduceCtorEq, false_implies, implies_true, and_true]
    exact fun values hvalues => hv values hvalues
  · rename_i constant hconst
    cases h
    have : (constant == value) = true := by simpa [Json.contains_iff] using hv
    simpa [hconst] using this
  · rename_i values constant hconst
    split at h
    · rename_i hcontains
      cases h
      have heq : (constant == value) = true := by simpa [Json.contains_iff] using hv
      obtain ⟨other, hother, hoc⟩ := Json.contains_iff.mp hcontains
      have hvalue : Json.contains values value = true :=
        Json.contains_iff.mpr ⟨other, hother, Json.beq_trans hoc heq⟩
      simpa [hconst, heq] using hvalue
    · cases h

end Constraints

end Specimen
