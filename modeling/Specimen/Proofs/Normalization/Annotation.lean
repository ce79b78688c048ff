import Specimen.Proofs.Constraint.Annotation
import Specimen.Proofs.Normalization.Descent
import Specimen.Proofs.Normalization.Origin

/-!
# Specimen.Proofs.Normalization.Annotation

Normalizing a schema does not depend on annotations (`normalize_eq_of_akin`).

In two documents that are the same apart from annotations, a walk takes the same way: the schemas
that it comes to are neither annotations themselves nor stand inside of them. This is shown for the
walk on a stack, which has no facts about the document in its calls (`descend_eq_of_akin`). The
schemas for the parts of a value have the same property, so that a run can go on from them
(`akin_of_normalize`).
-/

namespace Specimen.Normalization

open Document (Akin DifferInAnnotations)

variable {document other : Document} {path active : List Pointer} {node child : Pointer}

/-! ### A schema's own demands -/

theorem listedValues_eq_of_akin (h : Akin document other node) :
    listedValues document node = listedValues other node := by
  unfold listedValues
  rw [h.keyword?_eq (by decide : "enum" ∈ _) (by decide),
    h.keyword?_eq (by decide : "const" ∈ _) (by decide)]

theorem applyNot_eq_of_akin (h : Akin document other node) (set : Constraints) :
    applyNot document set node = applyNot other set node := by
  have ⟨naming, hresembles⟩ := h
  have hany (f : String × Json → Bool) (hf : ∀ p q, p.1 = q.1 → f p = f q) :
      ((document.fragment node).members?.getD []).any f =
        ((other.fragment node).members?.getD []).any f :=
    any_eq_of_forall₂ (hresembles.keys.imp hf)
  unfold applyNot
  rw [listedValues_eq_of_akin h, h.keyword?_eq (by decide : "enum" ∈ _) (by decide),
    h.keyword?_eq (by decide : "const" ∈ _) (by decide)]
  dsimp only
  rw [hany]
  -- Which keywords there are is a matter of the keys alone.
  rintro ⟨key, a⟩ ⟨key', b⟩ hkey
  rw [show key = key' from hkey]

theorem ownDemands_eq_of_akin (h : Akin document other node) :
    ownDemands document node = ownDemands other node := by
  unfold ownDemands
  rw [Constraints.ofSchema_eq_of_akin h, h.subschema?_eq (by decide)]
  refine congrArg _ (funext fun set => ?_)
  cases hn : other.subschema? node "not" with
  | none => rfl
  | some negated =>
    rw [← h.subschema?_eq (by decide)] at hn
    exact applyNot_eq_of_akin (h.subschema? (by decide) hn) set

/-! ### Walks -/

section Walks

variable {recurse again : Pointer → StackWalk (List Constraints)}

theorem descendReference_eq_of_akin (hd : DifferInAnnotations document other)
    (h : Akin document other node)
    (hr : ∀ target, Akin document other target → recurse target = again target)
    (sets : List Constraints) :
    descendReference document path recurse node sets =
      descendReference other path again node sets := by
  unfold descendReference
  rw [← h.referenceOf_eq]
  cases hreference : document.referenceOf node with
  | error error => rfl
  | ok reference? =>
    cases reference? with
    | none => rfl
    | some reference =>
      obtain ⟨hresolve, hakin⟩ := hd.resolveReference_eq h hreference node
      dsimp only
      rw [← hresolve]
      cases htarget : document.resolveReference reference node with
      | error error => rfl
      | ok target =>
        dsimp only
        rw [hr target (hakin target htarget)]

theorem descendMembers_eq {members : List Pointer}
    (hr : ∀ member ∈ members, recurse member = again member) (sets : List Constraints) :
    descendMembers recurse node members sets = descendMembers again node members sets :=
  foldlM_eq_of_forall₂ (List.forall₂_same.mpr fun member hm sets => by rw [hr member hm]) sets

theorem descendConsequence_eq_of_akin (h : Akin document other node)
    (hr : ∀ child, Akin document other child → recurse child = again child)
    (sets : List Constraints) :
    descendConsequence document recurse node sets = descendConsequence other again node sets := by
  unfold descendConsequence
  rw [Constraints.isSome_keyword?_eq h (by decide), ← h.subschema?_eq (by decide),
    descendMembers_eq fun child hc => hr child (h.subschema? (by decide) (Option.mem_toList.mp hc))]

theorem descendBranches_eq_of_akin (h : Akin document other node)
    (hr : ∀ branch, Akin document other branch → recurse branch = again branch)
    {keyword : String} (hk : keyword ∉ Json.dataKeywords) (sets : List Constraints) :
    descendBranches document recurse node keyword sets =
      descendBranches other again node keyword sets := by
  have hbranches : (document.subschemas node keyword).mapM (fun branch =>
      StackWalk.tried (recurse branch)) = (document.subschemas node keyword).mapM fun branch =>
        StackWalk.tried (again branch) :=
    mapM_eq_of_forall₂ (List.forall₂_same.mpr fun branch hb => by
      rw [hr branch (h.subschemas hk hb)])
  unfold descendBranches
  rw [← h.subschemas_eq hk, hbranches]

theorem descendWith_eq_of_akin (hd : DifferInAnnotations document other)
    (h : Akin document other node)
    (hr : ∀ child, Akin document other child → recurse child = again child) :
    descendWith document path recurse node = descendWith other path again node := by
  have hmembers (sets : List Constraints) :
      descendMembers recurse node (document.subschemas node "allOf") sets =
        descendMembers again node (other.subschemas node "allOf") sets := by
    rw [← h.subschemas_eq (by decide)]
    exact descendMembers_eq (fun member hm => hr member (h.subschemas (by decide) hm)) sets
  have hobject : (do
      let own ← StackWalk.noted (ownDemands document node)
      let sets ← descendReference document path recurse node [own]
      let sets ← descendMembers recurse node (document.subschemas node "allOf") sets
      let sets ← descendConsequence document recurse node sets
      let sets ← descendBranches document recurse node "anyOf" sets
      descendBranches document recurse node "oneOf" sets) = (do
      let own ← StackWalk.noted (ownDemands other node)
      let sets ← descendReference other path again node [own]
      let sets ← descendMembers again node (other.subschemas node "allOf") sets
      let sets ← descendConsequence other again node sets
      let sets ← descendBranches other again node "anyOf" sets
      descendBranches other again node "oneOf" sets) := by
    simp only [ownDemands_eq_of_akin h, descendReference_eq_of_akin hd h hr, hmembers,
      descendConsequence_eq_of_akin h hr,
      descendBranches_eq_of_akin h hr (by decide : "anyOf" ∉ Json.dataKeywords),
      descendBranches_eq_of_akin h hr (by decide : "oneOf" ∉ Json.dataKeywords)]
  obtain ⟨naming, hfragment⟩ := h
  unfold descendWith
  revert hfragment
  generalize document.fragment node = a
  generalize other.fragment node = b
  intro hfragment
  cases hfragment with
  | same =>
    cases a with
    | obj => exact hobject
    | bool flag => cases flag <;> rfl
    | null | num | str | arr => rfl
  | arr => rfl
  | obj => exact hobject

theorem descend_eq_of_akin (hd : DifferInAnnotations document other) (levels : Nat)
    (h : Akin document other node) :
    descend document path levels node = descend other path levels node := by
  induction levels generalizing node with
  | zero => rfl
  | succ levels ih => exact descendWith_eq_of_akin hd h fun child hchild => ih hchild

end Walks

/-- The alternatives of a schema are the same, since so many levels are enough in both documents. -/
theorem alternatives_eq_of_akin (hd : DifferInAnnotations document other)
    (h : Akin document other node) :
    alternatives document path active node = alternatives other path active node := by
  obtain ⟨levels, hdocument, hother⟩ :
      ∃ levels, document.descent active node < levels ∧ other.descent active node < levels :=
    ⟨max (document.descent active node) (other.descent active node) + 1, by omega, by omega⟩
  funext notes
  have hleft : Mirrors active (descend document path levels node)
      (alternatives document path active node) := mirrors_descend hdocument
  have hright : Mirrors active (descend other path levels node)
      (alternatives other path active node) := mirrors_descend hother
  have hleft := hleft notes
  rw [descend_eq_of_akin hd levels h, hright notes] at hleft
  obtain ⟨hresult, hstack⟩ := Prod.mk.inj (Option.some.inj hleft)
  exact Prod.ext hresult.symm (Stack.mk.inj hstack).2.symm

/-! ### Normalizing -/

theorem demandsOn_eq_of_akin (hd : DifferInAnnotations document other)
    (h : Akin document other node) : demandsOn document path node = demandsOn other path node := by
  have hsettled : settledDemands document path node = settledDemands other path node := by
    unfold settledDemands
    rw [alternatives_eq_of_akin hd h]
  rw [demandsOn_eq, demandsOn_eq, ← h.referenceOf_eq, hsettled]
  cases hreference : document.referenceOf node with
  | error error => rfl
  | ok reference? =>
    cases reference? with
    | none => rfl
    | some reference =>
      dsimp only
      rw [(hd.resolveReference_eq h hreference node).1]

/-- **Normalizing a schema does not depend on annotations.** -/
theorem normalize_eq_of_akin (hd : DifferInAnnotations document other)
    (h : Akin document other node) : normalize document path node = normalize other path node := by
  unfold normalize
  rw [demandsOn_eq_of_akin hd h]

/-! ### Where a run goes on -/

section Onward

variable {entered broken : Pointer → Prop} {visit part : Visit} {set : Constraints}

theorem akin_of_conjunct (hd : DifferInAnnotations document other)
    (h : Akin document other visit.node) (hc : Conjunct document path visit part) :
    Akin document other part.node := by
  cases hc with
  | reference henters =>
    obtain ⟨reference, hr, ht, -⟩ := henters
    exact (hd.resolveReference_eq h hr _).2 _ ht
  | member hm => exact h.subschemas (by decide) hm
  | consequence hc => exact h.subschema? (by decide) hc

theorem akin_of_isBranch (h : Akin document other visit.node) (hb : IsBranch document visit part) :
    Akin document other part.node := by
  obtain ⟨-, keyword, hk, hb⟩ := hb
  have hdata : ∀ keyword ∈ ["anyOf", "oneOf"], keyword ∉ Json.dataKeywords := by decide
  exact h.subschemas (hdata keyword hk) hb

/-- No schema for a part of a value is an annotation that differs, or stands in one. -/
theorem childrenAkin_of_alternative (hd : DifferInAnnotations document other)
    (ha : Alternative document path entered broken visit set) :
    Akin document other visit.node → set.ChildrenAkin document other := by
  refine @Alternative.rec document path entered broken
    (fun visit set _ => Akin document other visit.node → set.ChildrenAkin document other)
    (fun left parts set _ => left.ChildrenAkin document other →
      (∀ part ∈ parts, Akin document other part.node) → set.ChildrenAkin document other)
    ?any ?object ?nil ?cons visit set ha
  case any => exact fun {visit} _ _ => Constraints.childrenAkin_any visit.node
  case object =>
    intro visit own set parts members _ howns hparts _ ih hvisit
    obtain ⟨read, hread, rfl⟩ := howns
    have hreading := (Constraints.isReading_of_ofSchema_eq_ok hread).childrenAkin hvisit
    -- `not` changes no keyword that has a schema.
    refine ih (fun child hc => hreading child hc.of_with) fun part hpart => ?_
    exact (hparts.conjunct_or_isBranch hpart).elim (akin_of_conjunct hd hvisit)
      (akin_of_isBranch hvisit)
  case nil => exact fun hleft _ => hleft
  case cons =>
    intro left right middle set part parts _ hi _ ihright ih hleft hparts
    obtain ⟨hpart, hrest⟩ := List.forall_mem_cons.mp hparts
    exact ih (hleft.intersect (ihright hpart) hi) hrest

theorem ne_cycle_of_settle {sets : List Constraints} {demands : Demands}
    (h : settle node sets = .ok demands) (target : Pointer) : demands ≠ .cycle target := by
  unfold settle at h
  dsimp only at h
  split at h <;> cases h <;> nofun

/-- Only a reference leads back. -/
theorem yields_demandsOn_refersTo (document : Document) (path : List Pointer) (node : Pointer) :
    Yields (demandsOn document path node) fun demands =>
      ∀ target, demands = .cycle target → RefersTo document node target := by
  have hsettled : Yields (settledDemands document path node) fun demands =>
      ∀ target, demands = .cycle target → RefersTo document node target := by
    refine (yields_any _).andThen fun sets => ends_lift fun demands hd target hcycle => ?_
    exact absurd hcycle (ne_cycle_of_settle hd target)
  rw [demandsOn_eq]
  split
  · exact ends_throw
  · exact hsettled
  · rename_i reference hr
    split
    · exact ends_throw
    · rename_i target ht
      split
      · refine ends_pure fun other hcycle => ?_
        cases hcycle
        exact ⟨reference, hr, ht⟩
      · exact hsettled

/-- A run goes on at schemas that are the same apart from annotations. -/
theorem akin_of_normalize (hd : DifferInAnnotations document other)
    (h : Akin document other node) {report : Report} {normalization : Normalization}
    (hn : (normalize document path node report).1 = .ok normalization) :
    (∀ target, normalization.demands = .cycle target → Akin document other target) ∧
      ∀ set ∈ normalization.demands.sets, set.ChildrenAkin document other := by
  refine ⟨fun target hcycle => ?_, fun set hset => ?_⟩
  · have hrefers := yields_demandsOn_refersTo document path node
    obtain ⟨reference, hr, ht⟩ :=
      hrefers.of_eq_ok (demandsOn_of_normalize hn).1 target hcycle
    exact (hd.resolveReference_eq h hr node).2 target ht
  · obtain ⟨raw, hraw, hfinal⟩ := exists_alternative hn set hset
    exact (childrenAkin_of_alternative hd hraw h).finalize hfinal

end Onward

end Specimen.Normalization
