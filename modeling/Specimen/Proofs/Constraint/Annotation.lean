import Specimen.Proofs.Constraint.Children
import Specimen.Proofs.Schema.Annotation

/-!
# Specimen.Proofs.Constraint.Annotation

What a schema demands by its own keywords does not depend on annotations
(`Constraints.ofSchema_eq_of_akin`): two schemas that are the same apart from them are read in the
same way, keyword by keyword, and the schemas for the parts of a value stand at the same positions
(`Constraints.IsReading.childrenAkin`).
-/

namespace Specimen

namespace Constraints

open Document (Akin)

variable {document other : Document} {node child : Pointer} {keyword : String}
variable {set : Constraints}

/-! ### Keywords -/

/-- A keyword without data is there in both nodes or in neither. -/
theorem isSome_keyword?_eq (h : Akin document other node) (hk : keyword ∉ Json.dataKeywords) :
    (document.keyword? node keyword).isSome = (other.keyword? node keyword).isSome := by
  rcases h.keyword?_cases hk with ⟨ha, hb⟩ | ⟨a, b, ha, hb, -⟩ <;> rw [ha, hb]
  rfl

theorem bind_bool?_eq (h : Akin document other node) (hk : keyword ∉ Json.dataKeywords) :
    (document.keyword? node keyword).bind Json.bool? =
      (other.keyword? node keyword).bind Json.bool? := by
  rcases h.keyword?_cases hk with ⟨ha, hb⟩ | ⟨a, b, ha, hb, hab⟩ <;> rw [ha, hb]
  exact hab.bool?_eq

theorem bind_string?_eq (h : Akin document other node) (hk : keyword ∉ Json.dataKeywords) :
    (document.keyword? node keyword).bind Json.string? =
      (other.keyword? node keyword).bind Json.string? := by
  rcases h.keyword?_cases hk with ⟨ha, hb⟩ | ⟨a, b, ha, hb, hab⟩ <;> rw [ha, hb]
  exact hab.string?_eq

/-- The names of types are texts, which akin nodes share. -/
theorem readTypeNames_eq (h : Akin document other node) :
    readTypeNames document node = readTypeNames other node := by
  unfold readTypeNames
  rcases h.keyword?_cases (by decide : "type" ∉ Json.dataKeywords) with
    ⟨ha, hb⟩ | ⟨a, b, ha, hb, hab⟩
  · rw [ha, hb]
  · rw [ha, hb]
    cases hab with
    | same value => rfl
    | obj => rfl
    | @arr _ as bs hlength helements =>
      have hlist : Json.Resembles false (.arr as) (.arr bs) := .arr hlength helements
      refine mapM_eq_of_forall₂ (hlist.elements.imp fun a b hab => ?_)
      cases hab <;> rfl

theorem readKinds_eq (h : Akin document other node) :
    readKinds document node = readKinds other node := by
  unfold readKinds isNullable
  rw [readTypeNames_eq h, bind_bool?_eq h (by decide)]

/-- Kinds are inferred from keywords that are not annotations. -/
theorem inferKinds_eq (h : Akin document other node) :
    inferKinds document node = inferKinds other node := by
  have hpresent (keywords : List String) (hk : ∀ keyword ∈ keywords, keyword ∉ Json.dataKeywords) :
      (keywords.any fun keyword => (document.keyword? node keyword).isSome) =
        keywords.any fun keyword => (other.keyword? node keyword).isSome := by
    rw [Bool.eq_iff_iff, List.any_eq_true, List.any_eq_true]
    exact exists_congr fun keyword => and_congr_right fun hmem => by
      rw [isSome_keyword?_eq h (hk keyword hmem)]
  unfold inferKinds isNullable
  dsimp only
  rw [bind_string?_eq h (by decide), bind_bool?_eq h (by decide),
    hpresent objectKeywords (by decide), hpresent arrayKeywords (by decide),
    hpresent stringKeywords (by decide), hpresent numberKeywords (by decide)]

/-- Numbers are shared. -/
theorem readNumber_eq (h : Akin document other node) (hk : keyword ∉ Json.dataKeywords) :
    readNumber document node keyword = readNumber other node keyword := by
  unfold readNumber
  rcases h.keyword?_cases hk with ⟨ha, hb⟩ | ⟨a, b, ha, hb, hab⟩
  · rw [ha, hb]
  · rw [ha, hb]
    dsimp only
    rw [hab.double?_eq]

theorem readCount_eq (h : Akin document other node) (hk : keyword ∉ Json.dataKeywords) :
    readCount document node keyword = readCount other node keyword := by
  unfold readCount
  rcases h.keyword?_cases hk with ⟨ha, hb⟩ | ⟨a, b, ha, hb, hab⟩
  · rw [ha, hb]
  · rw [ha, hb]
    dsimp only
    rw [hab.double?_eq]

theorem readText_eq (h : Akin document other node) (hk : keyword ∉ Json.dataKeywords) :
    readText document node keyword = readText other node keyword := by
  unfold readText
  rcases h.keyword?_cases hk with ⟨ha, hb⟩ | ⟨a, b, ha, hb, hab⟩
  · rw [ha, hb]
  · rw [ha, hb]
    cases hab <;> rfl

/-- Ends of ranges are shared. -/
theorem readBound_eq (h : Akin document other node) {inclusive exclusive : String}
    (hi : inclusive ∉ Json.dataKeywords) (he : exclusive ∉ Json.dataKeywords)
    (tighter : Bound → Bound → Bound) :
    readBound document node inclusive exclusive tighter =
      readBound other node inclusive exclusive tighter := by
  unfold readBound
  rw [readNumber_eq h hi]
  rcases h.keyword?_cases he with ⟨ha, hb⟩ | ⟨a, b, ha, hb, hab⟩
  · rw [ha, hb]
  · rw [ha, hb]
    cases hab <;> rfl

/-- Lists of names are shared. -/
theorem readNames_eq {naming : Bool} {a b : Json} (h : Json.Resembles naming a b) :
    readNames node keyword a = readNames node keyword b := by
  cases h with
  | same value => rfl
  | obj => rfl
  | @arr _ as bs hlength helements =>
    have hlist : Json.Resembles false (.arr as) (.arr bs) := .arr hlength helements
    have hnames : as.mapM Json.string? = bs.mapM Json.string? :=
      mapM_eq_of_forall₂ (hlist.elements.imp fun a b hab => hab.string?_eq)
    unfold readNames
    dsimp only
    rw [hnames]

theorem readExtra_eq (h : Akin document other node) (hk : keyword ∉ Json.dataKeywords) :
    readExtra document node keyword = readExtra other node keyword := by
  unfold readExtra
  rcases h.keyword?_cases hk with ⟨ha, hb⟩ | ⟨a, b, ha, hb, hab⟩
  · rw [ha, hb]
  · rw [ha, hb]
    cases hab <;> rfl

/-- Dependencies are shared: names under names, whose order is the same. -/
theorem addDependencies_eq (h : Akin document other node) (hk : keyword ∈ Json.namingKeywords)
    (arraysOnly : Bool) (table : NameTable NameSet) :
    addDependencies document node keyword arraysOnly table =
      addDependencies other node keyword arraysOnly table := by
  unfold addDependencies
  rcases h.keyword?_cases (Json.not_mem_dataKeywords_of_naming hk) with
    ⟨ha, hb⟩ | ⟨a, b, ha, hb, hab⟩
  · rw [ha, hb]
  · rw [ha, hb]
    rw [decide_eq_true hk] at hab
    cases hab with
    | same value => rfl
    | arr => rfl
    | obj hkeys hdata hother =>
      refine foldlM_eq_of_forall₂ ?_ table
      refine (Json.Resembles.obj hkeys hdata hother).members.imp fun p q hpq table => ?_
      obtain ⟨name, a⟩ := p
      obtain ⟨name', b⟩ := q
      obtain ⟨rfl, hunder⟩ : name = name' ∧ Json.ResemblesUnder true name a b := hpq
      obtain ⟨naming, hab⟩ := hunder.exists_resembles fun _ => rfl
      have helements : a.elements?.isNone = b.elements?.isNone := by
        rw [← Option.not_isSome, ← Option.not_isSome, hab.isSome_elements?_eq]
      dsimp only
      rw [helements, readNames_eq hab]

theorem readDependencies_eq (h : Akin document other node) :
    readDependencies document node = readDependencies other node := by
  unfold readDependencies
  rw [addDependencies_eq h (by decide)]
  exact congrArg _ (funext fun table => addDependencies_eq h (by decide) true table)

/-- Listed values are data but no annotations, so they are shared as they are. -/
theorem readCandidates_eq (h : Akin document other node) :
    readCandidates document node = readCandidates other node := by
  unfold readCandidates readEnum
  rw [h.keyword?_eq (by decide : "enum" ∈ _) (by decide),
    h.keyword?_eq (by decide : "const" ∈ _) (by decide)]

theorem readStep_eq (h : Akin document other node) :
    readStep document node = readStep other node := by
  unfold readStep
  rw [readNumber_eq h (by decide)]

theorem readRequired_eq (h : Akin document other node) :
    readRequired document node = readRequired other node := by
  unfold readRequired
  rcases h.keyword?_cases (by decide : "required" ∉ Json.dataKeywords) with
    ⟨ha, hb⟩ | ⟨a, b, ha, hb, hab⟩
  · rw [ha, hb]
  · rw [ha, hb]
    exact readNames_eq hab

theorem readItems_eq (h : Akin document other node) :
    readItems document node = readItems other node := by
  have hlist : ((document.keyword? node "items").bind Json.elements?).isSome =
      ((other.keyword? node "items").bind Json.elements?).isSome := by
    rcases h.keyword?_cases (by decide : "items" ∉ Json.dataKeywords) with
      ⟨ha, hb⟩ | ⟨a, b, ha, hb, hab⟩ <;> rw [ha, hb]
    exact hab.isSome_elements?_eq
  unfold readItems
  rw [isSome_keyword?_eq h (by decide), hlist, h.subschemas_eq (by decide),
    h.subschemas_eq (by decide), readExtra_eq h (by decide), readExtra_eq h (by decide)]

/-- **Demands do not depend on annotations.** -/
theorem ofSchema_eq_of_akin (h : Akin document other node) :
    ofSchema document node = ofSchema other node := by
  unfold ofSchema
  rw [readKinds_eq h, inferKinds_eq h,
    readBound_eq h (by decide) (by decide), readBound_eq h (by decide) (by decide), readStep_eq h,
    readCount_eq h (by decide), readCount_eq h (by decide), readText_eq h (by decide),
    readText_eq h (by decide), readCount_eq h (by decide), readCount_eq h (by decide),
    bind_bool?_eq h (by decide), readItems_eq h, h.subschema?_eq (by decide),
    h.namedSubschemas_eq (by decide), readRequired_eq h, readExtra_eq h (by decide),
    h.namedSubschemas_eq (by decide), h.subschema?_eq (by decide), readCount_eq h (by decide),
    readCount_eq h (by decide), readDependencies_eq h, readCandidates_eq h]

/-! ### Schemas for the parts of a value -/

/-- A schema for what is left over stands in akin places. -/
theorem akin_of_readExtra (h : Akin document other node) (hk : keyword ∉ Json.dataKeywords)
    (hchild : readExtra document node keyword = .schema child) : Akin document other child := by
  unfold readExtra at hchild
  split at hchild <;> cases hchild
  exact h.push hk

/-- Schemas of elements stand in akin places. -/
theorem akin_of_readItems (h : Akin document other node) :
    (∀ child ∈ (readItems document node).1, Akin document other child) ∧
      ∀ child, (readItems document node).2 = .schema child → Akin document other child := by
  have hextra {keyword : String} (hk : keyword ∉ Json.dataKeywords) (child : Pointer)
      (hchild : readExtra document node keyword = .schema child) : Akin document other child :=
    akin_of_readExtra h hk hchild
  unfold readItems
  split
  · exact ⟨fun _ hc => h.subschemas (by decide) hc, hextra (by decide)⟩
  · split
    · exact ⟨fun _ hc => h.subschemas (by decide) hc, hextra (by decide)⟩
    · exact ⟨fun _ hc => absurd hc List.not_mem_nil, hextra (by decide)⟩

/-- The schemas of a set of demands for the parts of a value are the same apart from annotations. -/
def ChildrenAkin (document other : Document) (set : Constraints) : Prop :=
  ∀ child, set.IsChild child → Akin document other child

/-- All schemas that the demands of a node refer to stand in akin places. -/
theorem IsReading.childrenAkin (h : IsReading document node set)
    (hnode : Akin document other node) : set.ChildrenAkin document other := by
  intro child hc
  have hitems : set.prefixItems = (readItems document node).1 ∧
      set.items = (readItems document node).2 := Prod.mk.inj h.items
  cases hc with
  | prefixItem hc => exact (akin_of_readItems hnode).1 child (hitems.1 ▸ hc)
  | item hc => exact (akin_of_readItems hnode).2 child (hitems.2 ▸ hc)
  | contains hc => exact hnode.subschema? (by decide) (h.contains.symm.trans hc)
  | property name hc =>
    rw [h.properties] at hc
    exact hnode.namedSubschemas (by decide) (NameTable.mem_of_get?_ofList hc)
  | additional hc =>
    exact akin_of_readExtra hnode (by decide) (h.additionalProperties.symm.trans hc)
  | pattern pattern hc =>
    rw [h.patternProperties] at hc
    exact hnode.namedSubschemas (by decide) hc
  | propertyName hc => exact hnode.subschema? (by decide) (h.propertyNames.symm.trans hc)

theorem childrenAkin_any (node : Pointer) : (any node).ChildrenAkin document other :=
  fun _ hc => absurd hc not_isChild_any

/-- Demands that meet refer to schemas of one side or the other. -/
theorem ChildrenAkin.intersect {left right : Constraints} (hl : left.ChildrenAkin document other)
    (hr : right.ChildrenAkin document other) (h : left.intersect right = .ok set) :
    set.ChildrenAkin document other :=
  fun child hc => (hc.of_intersect h).elim (hl child) (hr child)

/-- Settling demands does not add schemas. -/
theorem ChildrenAkin.finalize {raw : Constraints} (hr : raw.ChildrenAkin document other)
    (h : raw.finalize = .ok set) : set.ChildrenAkin document other :=
  fun child hc => hr child (hc.of_finalize h)

end Constraints

end Specimen
