import Specimen.Normalization

/-!
# Specimen.Proofs.Normalization.Equations

What the steps of a walk come down to, by the form of the schema: `demandsOn_eq` for the schema
where a walk starts, `alternatives_of_obj` for the recursion, and equations for the parts of a
schema without the facts that the recursion needs in order to end.
-/

namespace Specimen.Normalization

variable {document : Document} {path active : List Pointer} {node target : Pointer}

/-- The ways in which the demands of a schema come about. -/
theorem demandsOn_eq (path : List Pointer) (node : Pointer) :
    demandsOn document path node =
      match document.referenceOf node with
      | .error error => throw error
      | .ok none => settledDemands document path node
      | .ok (some reference) =>
        match document.resolveReference reference node with
        | .error error => throw error
        | .ok target =>
          if target ∈ path then pure (.cycle target) else settledDemands document path node := by
  unfold demandsOn
  cases document.referenceOf node with
  | error error => rfl
  | ok reference? =>
    cases reference? with
    | none => rfl
    | some reference =>
      show (liftM (document.resolveReference reference node) >>= fun target => _ : Walk _) =
        match document.resolveReference reference node with
        | .error error => _
        | .ok target => _
      cases document.resolveReference reference node with
      | error error => rfl
      | ok target => rfl

theorem withMembers_eq_foldlM (keyword : String) (walk : Pointer → Walk (List Constraints))
    (sets : List Constraints) :
    withMembers document node keyword (fun member _ => walk member) sets =
      (document.subschemas node keyword).foldlM
        (fun sets member => do combine node sets (← walk member)) sets := by
  unfold withMembers
  conv =>
    rhs
    rw [← List.attach_map_subtype_val (document.subschemas node keyword), List.foldlM_map]

theorem withBranches_eq_mapM (keyword : String) (walk : Pointer → Walk (List Constraints))
    (sets : List Constraints) :
    withBranches document node keyword (fun branch _ => walk branch) sets =
      (do
        if (document.subschemas node keyword).isEmpty then return sets
        let results ← (document.subschemas node keyword).mapM fun branch => attempt (walk branch)
        combine node sets (← branchAlternatives node keyword results)) := by
  have hmap : ((document.subschemas node keyword).mapM fun branch => attempt (walk branch)) =
      (document.subschemas node keyword).attach.mapM fun branch => attempt (walk branch.1) := by
    conv =>
      lhs
      rw [← List.attach_map_subtype_val (document.subschemas node keyword), List.mapM_map]
    rfl
  unfold withBranches
  rw [hmap]

theorem withChild_eq_foldlM (keyword : String) (walk : Pointer → Walk (List Constraints))
    (sets : List Constraints) :
    withChild document node keyword (fun child _ => walk child) sets =
      (document.subschema? node keyword).toList.foldlM
        (fun sets child => do combine node sets (← walk child)) sets := by
  unfold withChild
  split
  · rename_i child hc
    have hlist : (document.subschema? node keyword).toList = [child] := by
      rw [hc]
      rfl
    rw [hlist]
    exact (bind_pure _).symm
  · rename_i hc
    have hlist : (document.subschema? node keyword).toList = [] := by
      rw [hc]
      rfl
    rw [hlist]
    rfl

theorem withReference_eq (path active : List Pointer) (node : Pointer)
    (walk : Pointer → Walk (List Constraints)) (sets : List Constraints) :
    withReference document path active node (fun target _ _ => walk target) sets =
      match document.referenceOf node with
      | .error error => throw error
      | .ok none => pure sets
      | .ok (some reference) =>
        match document.resolveReference reference node with
        | .error error => throw error
        | .ok target =>
          if target ∈ path ∨ target ∈ active then (do
            note .cycleBroken node
              s!"reference '{reference}' re-enters {target}; left unconstrained"
            return sets)
          else (do
            enter target
            combine node sets (← walk target)) := by
  unfold withReference
  split
  · rename_i error hr
    rw [hr]
  · rename_i hr
    rw [hr]
  · rename_i reference hr
    split
    · rename_i error ht
      rw [hr]
      dsimp only
      rw [ht]
    · rename_i target ht
      dsimp only
      rw [hr]
      dsimp only
      rw [ht]
      rfl

theorem withReference_of_enters {reference : String}
    (hr : document.referenceOf node = .ok (some reference))
    (ht : document.resolveReference reference node = .ok target)
    (hclosed : ¬(target ∈ path ∨ target ∈ active)) (walk : Pointer → Walk (List Constraints))
    (sets : List Constraints) :
    withReference document path active node (fun target _ _ => walk target) sets =
      (do
        enter target
        combine node sets (← walk target)) := by
  rw [withReference_eq, hr]
  dsimp only
  rw [ht]
  dsimp only
  rw [if_neg hclosed]

theorem alternatives_of_false (h : document.fragment node = .bool false) :
    alternatives document path active node =
      throw (.unsatisfiable node "schema `false` admits no value") := by
  rw [alternatives, h]

/-- The recursion, as it goes on from an object. -/
theorem alternatives_of_obj (members : List (String × Json))
    (h : document.fragment node = .obj members) :
    alternatives document path active node = (do
      let own ← ownDemands document node
      let sets ← withReference document path active node
        (fun target _ _ => alternatives document path (target :: active) target) [own]
      let sets ← (document.subschemas node "allOf").foldlM (fun sets member => do
        combine node sets (← alternatives document path active member)) sets
      let sets ← withConsequence document node
        (fun child _ => alternatives document path active child) sets
      let sets ← withBranches document node "anyOf"
        (fun branch _ => alternatives document path active branch) sets
      withBranches document node "oneOf"
        (fun branch _ => alternatives document path active branch) sets) := by
  rw [alternatives, h]
  simp only [withMembers_eq_foldlM]

end Specimen.Normalization
