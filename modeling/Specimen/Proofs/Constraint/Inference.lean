import Specimen.Proofs.Constraint.Associativity
import Specimen.Proofs.Constraint.Reading

/-!
# Specimen.Proofs.Constraint.Inference

Whether the kinds that keywords hint at cover what keywords demand (`infers_of_concerns`).

The demands of a schema and the kinds that it hints at are read separately. Every field of the demands
is as if nothing was demanded where the keywords that hint at its kind are missing
(`IsReading.onlyDependencies_of_lacks`), with one exception: `dependencies` demands something of
objects and hints at nothing.
-/

namespace Specimen

/-- None of some keywords is present. -/
def Document.Lacks (document : Document) (node : Pointer) (keywords : List String) : Prop :=
  ∀ keyword ∈ keywords, document.keyword? node keyword = none

instance (document : Document) (node : Pointer) (keywords : List String) :
    Decidable (document.Lacks node keywords) :=
  inferInstanceAs (Decidable (∀ keyword ∈ keywords, document.keyword? node keyword = none))

theorem KindSet.contains_of {kind : Kind} {kinds : List Kind} (hk : kind ∈ Kind.known) :
    (KindSet.of kinds).contains kind = kinds.contains kind := by
  unfold of
  cases hfilter : filter? (kinds.contains ·) with
  | some set => exact contains_of_filter? hfilter hk
  | none =>
    rw [Option.getD_none, filter?_eq_none hfilter hk]
    revert hk
    cases kind <;> decide

namespace Constraints

variable {document : Document} {node : Pointer} {set : Constraints} {keyword : String} {kind : Kind}

/-- Something is demanded of the values of a kind: a field for them is not as it is where nothing is
demanded. -/
inductive Concerns (set : Constraints) : Kind → Prop where
  | properties (h : set.properties ≠ ∅) : Concerns set .object
  | required (h : set.required ≠ ∅) : Concerns set .object
  | additionalProperties (h : set.additionalProperties ≠ .unspecified) : Concerns set .object
  | patternProperties (h : set.patternProperties ≠ []) : Concerns set .object
  | propertyNames (h : set.propertyNames ≠ none) : Concerns set .object
  | minProperties (h : set.minProperties ≠ none) : Concerns set .object
  | maxProperties (h : set.maxProperties ≠ none) : Concerns set .object
  | dependentRequired (h : set.dependentRequired ≠ ∅) : Concerns set .object
  | minItems (h : set.minItems ≠ none) : Concerns set .array
  | maxItems (h : set.maxItems ≠ none) : Concerns set .array
  | uniqueItems (h : set.uniqueItems ≠ false) : Concerns set .array
  | prefixItems (h : set.prefixItems ≠ []) : Concerns set .array
  | items (h : set.items ≠ .unspecified) : Concerns set .array
  | contains (h : set.contains ≠ none) : Concerns set .array
  | minLength (h : set.minLength ≠ none) : Concerns set .string
  | maxLength (h : set.maxLength ≠ none) : Concerns set .string
  | pattern (h : set.pattern ≠ none) : Concerns set .string
  | minimum (h : set.minimum ≠ none) : Concerns set .number
  | maximum (h : set.maximum ≠ none) : Concerns set .number
  | multipleOf (h : set.multipleOf ≠ none) : Concerns set .number

/-! ### Missing keywords -/

section Missing

variable (hk : document.keyword? node keyword = none)

include hk

theorem subschema?_of_missing : document.subschema? node keyword = none := by
  rw [Document.subschema?, hk]

theorem namedSubschemas_of_missing : document.namedSubschemas node keyword = [] := by
  rw [Document.namedSubschemas, hk]

theorem readNumber_of_missing : readNumber document node keyword = .ok none := by
  rw [readNumber, hk]

theorem readCount_of_missing : readCount document node keyword = .ok none := by
  rw [readCount, hk]

theorem readText_of_missing : readText document node keyword = .ok none := by
  rw [readText, hk]

theorem readExtra_of_missing : readExtra document node keyword = .unspecified := by
  rw [readExtra, hk]

theorem readBound_of_missing {exclusiveKeyword : String} (tighter : Bound → Bound → Bound)
    (he : document.keyword? node exclusiveKeyword = none) :
    readBound document node keyword exclusiveKeyword tighter = .ok none := by
  rw [readBound, readNumber_of_missing hk, he]
  rfl

theorem addDependencies_of_missing (arraysOnly : Bool) (table : NameTable NameSet) :
    addDependencies document node keyword arraysOnly table = .ok table := by
  rw [addDependencies, hk]

end Missing

theorem readItems_of_missing (hlacks : document.Lacks node arrayKeywords) :
    readItems document node = ([], .unspecified) := by
  have hprefix := hlacks "prefixItems" (by decide)
  have hitems := hlacks "items" (by decide)
  rw [readItems, hprefix, hitems, readExtra_of_missing hitems]
  rfl

/-! ### Where demands come from -/

/-- The keywords that hint at a kind. -/
def keywordsFor : Kind → List String
  | .object => objectKeywords
  | .array => arrayKeywords
  | .string => stringKeywords
  | .number => numberKeywords
  | _ => []

/-- Names are listed under `dependencies`, and no keyword that hints at objects is present. -/
structure OnlyDependencies (document : Document) (node : Pointer) : Prop where
  entries : ∃ entries, document.keyword? node "dependencies" = some (.obj entries)
  lacks : document.Lacks node objectKeywords

/-- Without the keywords that hint at a kind, nothing is demanded of its values, apart from the names
that `dependencies` lists. -/
theorem IsReading.onlyDependencies_of_lacks (h : IsReading document node set)
    (hlacks : document.Lacks node (keywordsFor kind)) (hc : set.Concerns kind) :
    kind = .object ∧ OnlyDependencies document node := by
  cases hc with
  | properties hne =>
    refine absurd ?_ hne
    rw [h.properties, namedSubschemas_of_missing (hlacks "properties" (by decide))]
    rfl
  | required hne =>
    have hread := h.required
    rw [readRequired, hlacks "required" (by decide)] at hread
    exact absurd (Except.ok.inj hread).symm hne
  | additionalProperties hne =>
    have hextra := readExtra_of_missing (hlacks "additionalProperties" (by decide))
    exact absurd (h.additionalProperties.trans hextra) hne
  | patternProperties hne =>
    have hnone := namedSubschemas_of_missing (hlacks "patternProperties" (by decide))
    exact absurd (h.patternProperties.trans hnone) hne
  | propertyNames hne =>
    have hnone := subschema?_of_missing (hlacks "propertyNames" (by decide))
    exact absurd (h.propertyNames.trans hnone) hne
  | minProperties hne =>
    have hnone := readCount_of_missing (hlacks "minProperties" (by decide))
    exact absurd (Except.ok.inj (h.minProperties.symm.trans hnone)) hne
  | maxProperties hne =>
    have hnone := readCount_of_missing (hlacks "maxProperties" (by decide))
    exact absurd (Except.ok.inj (h.maxProperties.symm.trans hnone)) hne
  | dependentRequired hne =>
    -- The keyword itself is missing; what is left to read is `dependencies`.
    refine ⟨rfl, ?_, hlacks⟩
    have hread : addDependencies document node "dependencies" true ∅ =
        .ok set.dependentRequired := by
      rw [← h.dependentRequired, readDependencies,
        addDependencies_of_missing (hlacks "dependentRequired" (by decide))]
      rfl
    unfold addDependencies at hread
    split at hread
    · exact ⟨_, ‹_›⟩
    · exact absurd (Except.ok.inj hread).symm hne
  | minItems hne =>
    have hnone := readCount_of_missing (hlacks "minItems" (by decide))
    exact absurd (Except.ok.inj (h.minItems.symm.trans hnone)) hne
  | maxItems hne =>
    have hnone := readCount_of_missing (hlacks "maxItems" (by decide))
    exact absurd (Except.ok.inj (h.maxItems.symm.trans hnone)) hne
  | uniqueItems hne =>
    refine absurd ?_ hne
    rw [h.uniqueItems, hlacks "uniqueItems" (by decide)]
    rfl
  | prefixItems hne => exact absurd (Prod.mk.inj (h.items.trans (readItems_of_missing hlacks))).1 hne
  | items hne => exact absurd (Prod.mk.inj (h.items.trans (readItems_of_missing hlacks))).2 hne
  | contains hne =>
    have hnone := subschema?_of_missing (hlacks "contains" (by decide))
    exact absurd (h.contains.trans hnone) hne
  | minLength hne =>
    have hnone := readCount_of_missing (hlacks "minLength" (by decide))
    exact absurd (Except.ok.inj (h.minLength.symm.trans hnone)) hne
  | maxLength hne =>
    have hnone := readCount_of_missing (hlacks "maxLength" (by decide))
    exact absurd (Except.ok.inj (h.maxLength.symm.trans hnone)) hne
  | pattern hne =>
    have hnone := readText_of_missing (hlacks "pattern" (by decide))
    exact absurd (Except.ok.inj (h.pattern.symm.trans hnone)) hne
  | minimum hne =>
    have hnone := readBound_of_missing (hlacks "minimum" (by decide)) tighterMinimum
      (hlacks "exclusiveMinimum" (by decide))
    exact absurd (Except.ok.inj (h.minimum.symm.trans hnone)) hne
  | maximum hne =>
    have hnone := readBound_of_missing (hlacks "maximum" (by decide)) tighterMaximum
      (hlacks "exclusiveMaximum" (by decide))
    exact absurd (Except.ok.inj (h.maximum.symm.trans hnone)) hne
  | multipleOf hne =>
    have hread := h.multipleOf
    rw [readStep, readNumber_of_missing (hlacks "multipleOf" (by decide))] at hread
    exact absurd (Except.ok.inj hread).symm hne

/-! ### Kinds that are hinted at -/

/-- The keywords of a set hint at a kind. -/
def Infers (set : Constraints) (kind : Kind) : Prop :=
  ∃ inferred ∈ set.inferred, inferred.contains kind = true

theorem any_isSome_iff {keywords : List String} :
    (keywords.any fun keyword => (document.keyword? node keyword).isSome) = true ↔
      ¬document.Lacks node keywords := by
  simp [Document.Lacks, Option.isSome_iff_ne_none]

/-- The kinds that are hinted at; `null`, which may be added, is none of those that keywords hint at. -/
theorem exists_contains_iff {hinted : Kind → Bool} (isNullable : Bool) (hk : kind ∈ Kind.known)
    (hnull : kind ≠ .null) :
    (∃ inferred ∈ (KindSet.filter? hinted).map fun inferred =>
        if isNullable then .of (inferred.kinds ++ [.null]) else inferred,
      inferred.contains kind = true) ↔ hinted kind = true := by
  cases hfilter : KindSet.filter? hinted with
  | none => simp [KindSet.filter?_eq_none hfilter hk]
  | some inferred =>
    have hcontains := KindSet.contains_of_filter? hfilter hk
    cases isNullable with
    | false => simp [hcontains]
    | true =>
      have hadded : (KindSet.of (inferred.kinds ++ [.null])).contains kind = hinted kind := by
        rw [KindSet.contains_of hk, ← hcontains, KindSet.contains, List.contains_append]
        simp [hnull]
      simp [hadded]

theorem Concerns.mem_known (hc : set.Concerns kind) : kind ∈ Kind.known ∧ kind ≠ .null := by
  cases hc <;> decide

/-- A keyword that hints at a kind does so. -/
theorem IsReading.infers_of_not_lacks (h : IsReading document node set) (hc : set.Concerns kind)
    (hpresent : ¬document.Lacks node (keywordsFor kind)) : set.Infers kind := by
  obtain ⟨hknown, hnull⟩ := hc.mem_known
  have hany := any_isSome_iff.mpr hpresent
  unfold Infers
  rw [h.inferred]
  refine (exists_contains_iff _ hknown hnull).mpr ?_
  cases kind with
  | object | array => exact hany
  | string | number => exact Bool.or_eq_true_iff.mpr (.inl hany)
  | null | boolean | integer | unknown => cases hc

theorem IsReading.infers_object_iff (h : IsReading document node set) :
    set.Infers .object ↔ ¬document.Lacks node objectKeywords := by
  unfold Infers
  rw [h.inferred]
  exact (exists_contains_iff _ (by decide) (by decide)).trans any_isSome_iff

/-- Where no type is named, the kinds to produce are those that are hinted at. -/
theorem IsReading.contains_effectiveKinds (h : IsReading document node set)
    (htype : document.keyword? node "type" = none) (hknown : kind ∈ Kind.known) :
    set.effectiveKinds.contains kind = true ↔ set.Infers kind := by
  have hkinds := h.kinds
  rw [readKinds, readTypeNames, htype] at hkinds
  have hunknown : set.kinds = .unknown := (Except.ok.inj hkinds).symm
  have hnone : KindSet.unknown.contains kind = false := by
    revert hknown
    cases kind <;> decide
  unfold effectiveKinds Infers
  rw [hunknown, if_pos (by decide)]
  cases set.inferred with
  | none => simp [hnone]
  | some inferred => simp

/-- **Kinds that are hinted at.** Where the keywords of a schema demand something of the values of a
kind, they hint at that kind; and where no type is named, it is one of the kinds to produce. The only
exception are names under `dependencies` without another keyword for objects. -/
theorem infers_of_concerns (h : ofSchema document node = .ok set) (hc : set.Concerns kind) :
    (set.Infers kind ↔ ¬(kind = .object ∧ OnlyDependencies document node)) ∧
      (document.keyword? node "type" = none →
        (set.effectiveKinds.contains kind = true ↔
          ¬(kind = .object ∧ OnlyDependencies document node))) := by
  have hread := isReading_of_ofSchema_eq_ok h
  have hinfers : set.Infers kind ↔ ¬(kind = .object ∧ OnlyDependencies document node) := by
    by_cases hlacks : document.Lacks node (keywordsFor kind)
    · obtain ⟨rfl, honly⟩ := hread.onlyDependencies_of_lacks hlacks hc
      have hnot : ¬set.Infers .object := fun hinfers => hread.infers_object_iff.mp hinfers hlacks
      exact iff_of_false hnot fun hexcept => hexcept ⟨rfl, honly⟩
    · refine iff_of_true (hread.infers_of_not_lacks hc hlacks) ?_
      rintro ⟨rfl, honly⟩
      exact hlacks honly.lacks
  refine ⟨hinfers, fun htype => ?_⟩
  rw [hread.contains_effectiveKinds htype hc.mem_known.1, hinfers]

/-- Nothing but names under `dependencies`, and a pattern of texts. -/
def dependenciesAndPattern : Document := .ofJson (.object
  [("dependencies", .object [("a", .arr [.str "b"])]), ("pattern", .str "x")])

/-- Names are demanded of objects and a pattern of texts, but only texts are produced. -/
theorem infers_of_concerns_dependenciesAndPattern :
    ∃ set, ofSchema dependenciesAndPattern .root = .ok set ∧
      set.Concerns .object ∧ OnlyDependencies dependenciesAndPattern .root ∧ ¬set.Infers .object ∧
      set.Concerns .string ∧ set.Infers .string ∧
      set.effectiveKinds.contains .object = false ∧ set.effectiveKinds.contains .string = true := by
  obtain ⟨set, hset, hdependents, hpattern⟩ :
      ∃ set, ofSchema dependenciesAndPattern .root = .ok set ∧ set.dependentRequired ≠ ∅ ∧
        set.pattern ≠ none :=
    ⟨_, rfl, by decide, by decide⟩
  have hobject : set.Concerns .object := .dependentRequired hdependents
  have hstring : set.Concerns .string := .pattern hpattern
  have honly : OnlyDependencies dependenciesAndPattern .root := ⟨⟨_, rfl⟩, by decide⟩
  have htype : dependenciesAndPattern.keyword? .root "type" = none := by decide
  obtain ⟨hinfersObject, hproducesObject⟩ := infers_of_concerns hset hobject
  obtain ⟨hinfersString, hproducesString⟩ := infers_of_concerns hset hstring
  refine ⟨set, hset, hobject, honly, fun h => hinfersObject.mp h ⟨rfl, honly⟩, hstring,
    hinfersString.mpr fun h => Kind.noConfusion h.1, ?_,
    (hproducesString htype).mpr fun h => Kind.noConfusion h.1⟩
  exact Bool.eq_false_iff.mpr fun h => (hproducesObject htype).mp h ⟨rfl, honly⟩

end Constraints

end Specimen
