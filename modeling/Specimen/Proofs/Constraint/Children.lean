import Specimen.Proofs.Constraint.Settled
import Specimen.Proofs.Schema.Measure

/-!
# Specimen.Proofs.Constraint.Children

The schemas that a set of demands has for the parts of a value (`Constraints.IsChild`).

Combining two sets and settling one brings in no others (`Constraints.IsChild.of_intersect`,
`Constraints.IsChild.of_finalize`), and those that a schema has by its own keywords are lower in the
document than the schema (`Constraints.IsReading.height_lt`).
-/

namespace Specimen

theorem Extra.schema?_eq_some {extra : Extra} {node : Pointer} :
    extra.schema? = some node ↔ extra = .schema node := by
  cases extra <;> simp [schema?]

theorem Extra.eq_schema_of_merge {a b : Extra} {node : Pointer}
    (h : a.merge b = .schema node) : a = .schema node ∨ b = .schema node := by
  cases a <;> cases b <;> simp_all [merge]

theorem NameTable.mem_of_get?_insertManyWith {α : Type} {table : NameTable α}
    {entries : List (String × α)} {name : String} {entry : α}
    (h : (table.insertManyWith (fun _ later => later) entries).get? name = some entry) :
    table.get? name = some entry ∨ (name, entry) ∈ entries := by
  induction entries generalizing table with
  | nil => exact .inl h
  | cons first rest ih =>
    rcases ih h with hget | hmem
    · rw [get?_insertWith] at hget
      split at hget
      · rename_i hname
        subst hname
        have : first.2 = entry := by cases ht : table.get? first.1 <;> simp_all [Option.merge]
        exact .inr (this ▸ List.mem_cons_self)
      · exact .inl hget
    · exact .inr (List.mem_cons_of_mem _ hmem)

theorem NameTable.mem_of_get?_ofList {α : Type} {entries : List (String × α)} {name : String}
    {entry : α} (h : (ofList entries).get? name = some entry) : (name, entry) ∈ entries :=
  (mem_of_get?_insertManyWith h).resolve_left fun hnone => by cases hnone

namespace Constraints

variable {document : Document} {set a b c : Constraints} {node child : Pointer}

/-- The keywords under which a set of demands may have a schema for the parts of a value. -/
inductive IsChild (set : Constraints) (child : Pointer) : Prop where
  | prefixItem (h : child ∈ set.prefixItems)
  | item (h : set.items = .schema child)
  | contains (h : set.contains = some child)
  | property (name : String) (h : set.properties.get? name = some child)
  | additional (h : set.additionalProperties = .schema child)
  | pattern (pattern : String) (h : (pattern, child) ∈ set.patternProperties)
  | propertyName (h : set.propertyNames = some child)

/-- Where nothing is demanded, nothing is demanded of the parts. -/
theorem not_isChild_any : ¬(any node).IsChild child := by
  intro hc
  cases hc with
  | prefixItem h | pattern _ h => cases h
  | item h | contains h | property _ h | additional h | propertyName h => cases h

/-! ### Combined and settled sets -/

theorem mem_mergePatterns {earlier later : List (String × Pointer)} {entry : String × Pointer}
    (h : entry ∈ mergePatterns earlier later) : entry ∈ earlier ∨ entry ∈ later := by
  unfold mergePatterns at h
  induction later generalizing earlier with
  | nil => exact .inl h
  | cons first rest ih =>
    rcases ih h with hmem | hmem
    · dsimp only at hmem
      split at hmem
      · obtain ⟨known, hknown, heq⟩ := List.mem_map.mp hmem
        split at heq
        · exact .inr (heq ▸ List.mem_cons_self)
        · exact .inl (heq ▸ hknown)
      · rcases List.mem_append.mp hmem with hmem | hmem
        · exact .inl hmem
        · exact .inr (List.mem_singleton.mp hmem ▸ List.mem_cons_self)
    · exact .inr (List.mem_cons_of_mem _ hmem)

theorem eq_or_eq_of_or_eq_some {α : Type} {x y : Option α} {z : α} (h : (x <|> y) = some z) :
    x = some z ∨ y = some z := by
  cases x with
  | none => exact .inr (by simpa using h)
  | some w => exact .inl (by simpa using h)

theorem IsChild.of_mergeWith {kinds : KindSet} {candidates : Option (List Json)}
    (h : (mergeWith kinds candidates a b).IsChild child) : a.IsChild child ∨ b.IsChild child := by
  cases h with
  | prefixItem h =>
    unfold mergeWith at h
    dsimp only at h
    split at h
    · exact .inl (.prefixItem h)
    · exact .inr (.prefixItem h)
  | item h => exact (Extra.eq_schema_of_merge h).imp .item .item
  | contains h => exact (eq_or_eq_of_or_eq_some h).symm.imp .contains .contains
  | property name h =>
    have hget : (a.properties.union b.properties).get? name = some child := h
    rw [NameTable.get?_union] at hget
    exact (eq_or_eq_of_or_eq_some hget).symm.imp (.property name) (.property name)
  | additional h => exact (Extra.eq_schema_of_merge h).imp .additional .additional
  | pattern pattern h => exact (mem_mergePatterns h).imp (.pattern pattern) (.pattern pattern)
  | propertyName h => exact (eq_or_eq_of_or_eq_some h).symm.imp .propertyName .propertyName

theorem IsChild.of_intersect (h : a.intersect b = .ok c) (hc : c.IsChild child) :
    a.IsChild child ∨ b.IsChild child := by
  obtain ⟨kinds, candidates, -, -, rfl⟩ := exists_mergeWith_of_intersect h
  exact hc.of_mergeWith

/-- Kinds, candidates and excluded values are not about the parts of a value. -/
theorem IsChild.of_with {kinds : KindSet} {candidates : Option (List Json)} {excluded : List Json}
    (h : IsChild { a with kinds, candidates, excluded } child) : a.IsChild child := by
  cases h with
  | prefixItem h => exact .prefixItem h
  | item h => exact .item h
  | contains h => exact .contains h
  | property name h => exact .property name h
  | additional h => exact .additional h
  | pattern pattern h => exact .pattern pattern h
  | propertyName h => exact .propertyName h

/-- What settling a set of demands leaves as it is. Only kinds and candidates are dropped, but not all
candidates, and those that are excluded. -/
structure SettlesTo (raw set : Constraints) : Prop where
  same : set = { raw with kinds := set.kinds, candidates := set.candidates }
  unlisted : raw.candidates = none → set.candidates = none
  listed : ∀ candidates ∈ set.candidates,
    candidates ≠ [] ∧ ∀ value ∈ candidates, Json.contains raw.excluded value = false

theorem settlesTo_of_finalize (h : a.finalize = .ok c) : a.SettlesTo c := by
  have hunlisted (hnone : a.candidates = none) : ∀ candidates ∈ a.candidates, candidates ≠ [] ∧
      ∀ value ∈ candidates, Json.contains a.excluded value = false :=
    fun candidates hc => nomatch hnone.symm.trans hc
  cases settledAs_iff.mpr h with
  | listed candidates hlist hviable =>
    refine ⟨rfl, fun hnone => (nomatch hnone.symm.trans hlist), fun left hleft => ?_⟩
    cases hleft
    exact ⟨hviable, fun value hvalue => (mem_viable_iff.mp hvalue).2.1⟩
  | unknown hnone => exact ⟨rfl, fun h => h, hunlisted hnone⟩
  | kinds left hnone => exact ⟨rfl, fun h => h, hunlisted hnone⟩

theorem IsChild.of_finalize (h : a.finalize = .ok c) (hc : c.IsChild child) : a.IsChild child := by
  rw [(settlesTo_of_finalize h).same] at hc
  exact hc.of_with

/-! ### The keywords of a schema -/

theorem height_readItems_lt :
    (∀ child ∈ (readItems document node).1, document.height child < document.height node) ∧
      ∀ child, (readItems document node).2 = .schema child →
        document.height child < document.height node := by
  unfold readItems
  split
  · exact ⟨fun _ h => Document.height_subschemas_lt h, fun _ h => Document.height_readExtra_lt h⟩
  · split
    · exact ⟨fun _ h => Document.height_subschemas_lt h, fun _ h => Document.height_readExtra_lt h⟩
    · exact ⟨fun _ h => absurd h List.not_mem_nil, fun _ h => Document.height_readExtra_lt h⟩

/-- The schemas for the parts of a value are lower than the schema of the value. -/
theorem IsReading.height_lt (h : IsReading document node set) (hc : set.IsChild child) :
    document.height child < document.height node := by
  have hitems : set.prefixItems = (readItems document node).1 ∧
      set.items = (readItems document node).2 := Prod.mk.inj h.items
  cases hc with
  | prefixItem hc => exact height_readItems_lt.1 child (hitems.1 ▸ hc)
  | item hc => exact height_readItems_lt.2 child (hitems.2 ▸ hc)
  | contains hc => exact Document.height_subschema_lt (h.contains ▸ hc)
  | property name hc =>
    rw [h.properties] at hc
    exact Document.height_namedSubschemas_lt (NameTable.mem_of_get?_ofList hc)
  | additional hc => exact Document.height_readExtra_lt (h.additionalProperties ▸ hc)
  | pattern pattern hc =>
    rw [h.patternProperties] at hc
    exact Document.height_namedSubschemas_lt hc
  | propertyName hc => exact Document.height_subschema_lt (h.propertyNames ▸ hc)

end Constraints

end Specimen
