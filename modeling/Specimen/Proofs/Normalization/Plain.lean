import Specimen.Proofs.Normalization.Independence

/-!
# Specimen.Proofs.Normalization.Plain

Schemas that are not composed of others: they have one set of demands, that of their own keywords
(`Normalization.alternatives_of_isPlain`), and normalizing them comes down to settling it
(`Normalization.demandsOn_of_isPlain`).
-/

namespace Specimen

/-- The keywords by which a schema is composed of others. -/
def Document.composingKeywords : List String :=
  ["$ref", "not", "allOf", "if", "then", "anyOf", "oneOf"]

/-- A schema is an object with none of the keywords that bring in other schemas. -/
structure Document.IsPlain (document : Document) (node : Pointer) : Prop where
  object : ∃ members, document.fragment node = .obj members
  absent : ∀ keyword ∈ composingKeywords, document.keyword? node keyword = none

namespace Normalization

variable {document : Document} {path active : List Pointer} {node : Pointer}

theorem referenceOf_of_isPlain (h : document.IsPlain node) :
    document.referenceOf node = .ok none := by
  unfold Document.referenceOf
  rw [h.absent "$ref" (by decide)]

theorem ownDemands_of_isPlain (h : document.IsPlain node) :
    ownDemands document node = liftM (Constraints.ofSchema document node) := by
  have hnot : document.subschema? node "not" = none := by
    unfold Document.subschema?
    rw [h.absent "not" (by decide)]
  unfold ownDemands
  rw [hnot]
  exact bind_pure _

theorem withReference_of_isPlain (h : document.IsPlain node)
    {walk : (target : Pointer) → target ∈ document.targets → target ∉ active →
      Walk (List Constraints)} (sets : List Constraints) :
    withReference document path active node walk sets = pure sets := by
  have hreference := referenceOf_of_isPlain h
  unfold withReference
  split
  · rename_i hr
    cases hr.symm.trans hreference
  · rfl
  · rename_i hr
    cases hr.symm.trans hreference

theorem subschemas_of_absent {keyword : String} (h : document.keyword? node keyword = none) :
    document.subschemas node keyword = [] := by
  unfold Document.subschemas
  rw [h]

theorem withMembers_of_isPlain {keyword : String} (h : document.keyword? node keyword = none)
    {walk : (member : Pointer) → member ∈ document.subschemas node keyword →
      Walk (List Constraints)} (sets : List Constraints) :
    withMembers document node keyword walk sets = pure sets := by
  have hattach : (document.subschemas node keyword).attach = [] :=
    List.attach_eq_nil_iff.mpr (subschemas_of_absent h)
  unfold withMembers
  rw [hattach]
  rfl

theorem withConsequence_of_isPlain (h : document.IsPlain node)
    {walk : (child : Pointer) → document.subschema? node "then" = some child →
      Walk (List Constraints)} (sets : List Constraints) :
    withConsequence document node walk sets = pure sets := by
  have hthen : document.subschema? node "then" = none := by
    unfold Document.subschema?
    rw [h.absent "then" (by decide)]
  have hchild : withChild document node "then" walk sets = pure sets := by
    unfold withChild
    split
    · rename_i hc
      cases hc.symm.trans hthen
    · rfl
  unfold withConsequence
  rw [h.absent "if" (by decide)]
  exact hchild

theorem withBranches_of_isPlain {keyword : String} (h : document.keyword? node keyword = none)
    {walk : (branch : Pointer) → branch ∈ document.subschemas node keyword →
      Walk (List Constraints)} (sets : List Constraints) :
    withBranches document node keyword walk sets = pure sets := by
  have hempty : (document.subschemas node keyword).isEmpty = true := by
    rw [subschemas_of_absent h]
    rfl
  unfold withBranches
  rw [if_pos hempty]

/-- A schema that is not composed of others has the demands of its own keywords only. -/
theorem alternatives_of_isPlain (h : document.IsPlain node) :
    alternatives document path active node =
      do return [← liftM (Constraints.ofSchema document node)] := by
  obtain ⟨members, hmembers⟩ := h.object
  rw [alternatives, hmembers]
  dsimp only
  rw [ownDemands_of_isPlain h]
  congr 1
  funext own
  rw [withReference_of_isPlain h, pure_bind, withMembers_of_isPlain (h.absent "allOf" (by decide)),
    pure_bind, withConsequence_of_isPlain h, pure_bind,
    withBranches_of_isPlain (h.absent "anyOf" (by decide)), pure_bind,
    withBranches_of_isPlain (h.absent "oneOf" (by decide))]

theorem settle_singleton (set : Constraints) :
    settle node [set] = set.finalize.map Demands.single := by
  unfold settle
  rw [List.map_singleton]
  cases set.finalize with
  | error error => rfl
  | ok settled => rfl

/-- Normalizing a schema that is not composed of others settles the demands of its own keywords. -/
theorem demandsOn_of_isPlain (h : document.IsPlain node) :
    demandsOn document path node =
      liftM (do Except.map Demands.single (← Constraints.ofSchema document node).finalize) := by
  rw [demandsOn_eq, referenceOf_of_isPlain h]
  dsimp only
  unfold settledDemands
  rw [alternatives_of_isPlain h]
  cases Constraints.ofSchema document node with
  | error error => rfl
  | ok set =>
    show (liftM (settle node [set]) : Walk Demands) = _
    rw [settle_singleton]
    rfl

end Normalization

end Specimen
