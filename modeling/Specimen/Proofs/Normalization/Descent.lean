import Specimen.Proofs.Normalization.Equations
import Specimen.Proofs.Outcome
import Specimen.Proofs.Schema.Measure

/-!
# Specimen.Proofs.Normalization.Descent

The recursion over schemas ends, and it can do with one stack of open targets.

`alternatives` hands the targets that are being combined down to the schemas below, and its
recursion is founded. `descend` is the same walk without either: the open targets are a stack that
all calls share, onto which a target is pushed before the walk over it and from which one is popped
behind it, and nothing bounds the recursion but the number of levels that it is given. Whatever the
references of a document are, `Document.descent` levels are enough for a schema (`descend_eq`),
since every call further down opens one more target or stands lower in the document; the walk then
comes to the result of `alternatives`, with or without success, and leaves the stack as it found it.
-/

namespace Specimen

/-! ### The measure -/

namespace Document

variable {document : Document} {active : List Pointer} {node child target : Pointer}

/-- A target that is opened is one less to be opened. -/
theorem unopened_cons_lt (ht : target ∈ document.resolvedTargets) (ha : target ∉ active) :
    document.unopened (target :: active) < document.unopened active := by
  have hcons : document.unopened (target :: active) = document.unopened (active ++ [target]) := by
    unfold unopened
    congr 2
    funext other
    simp [or_comm]
  rw [hcons]
  exact unopened_append_lt ht ha (List.mem_singleton_self target)

/-- How many calls the walk over a schema may be deep, by the targets that are not open yet and the
height of the schema. -/
def descent (document : Document) (active : List Pointer) (node : Pointer) : Nat :=
  document.unopened active * (document.root.height + 1) + document.height node

/-- Going down a node is a step down. -/
theorem descent_lt_of_height_lt (h : document.height child < document.height node) :
    document.descent active child < document.descent active node := by
  unfold descent
  omega

/-- Opening a target is a step down, however high the target is. -/
theorem descent_cons_lt (ht : target ∈ document.resolvedTargets) (ha : target ∉ active) :
    document.descent (target :: active) target < document.descent active node := by
  have hheight := document.height_le target
  have hopen := Nat.mul_le_mul_right (document.root.height + 1) (unopened_cons_lt ht ha)
  rw [Nat.succ_mul] at hopen
  unfold descent
  omega

/-- A bound for all schemas of a document. -/
theorem descent_lt (document : Document) (active : List Pointer) (node : Pointer) :
    document.descent active node <
      (document.resolvedTargets.length + 1) * (document.root.height + 1) := by
  have hheight := document.height_le node
  have hopen := Nat.mul_le_mul_right (document.root.height + 1)
    (document.unopened_le : document.unopened active ≤ _)
  rw [Nat.succ_mul]
  unfold descent
  omega

end Document

namespace Normalization

/-! ### The walk on a stack -/

/-- What a walk on a stack changes. -/
structure Stack where
  /-- The targets that are being combined, the innermost one first. -/
  active : List Pointer
  notes : Notes

/-- A walk on a stack. It may need more levels than it is given, and then has no outcome. -/
abbrev StackWalk := ExceptT SchemaError (StateT Stack Option)

/-- A part of a walk that does not touch the stack. -/
def StackWalk.noted (walk : Walk α) : StackWalk α := fun stack =>
  some ((walk stack.notes).1, { stack with notes := (walk stack.notes).2 })

/-- A walk while a target is on top of the stack. It is popped whether or not the walk succeeds. -/
def StackWalk.under (target : Pointer) (walk : StackWalk α) : StackWalk α := fun stack =>
  (walk { stack with active := target :: stack.active }).map fun outcome =>
    (outcome.1, { outcome.2 with active := outcome.2.active.tail })

/-- The outcome of a walk as a value, unless the schema is at fault. -/
def StackWalk.tried (walk : StackWalk α) : StackWalk (Except SchemaError α) := fun stack =>
  (walk stack).map fun outcome => (recover outcome.1, outcome.2)

/-- Whether a target is open on the way to a schema or on the stack. -/
def StackWalk.isOpen (path : List Pointer) (target : Pointer) : StackWalk Bool := fun stack =>
  some (.ok (decide (target ∈ path ∨ target ∈ stack.active)), stack)

section Descend

open StackWalk

variable (document : Document) (path : List Pointer)
variable (recurse : Pointer → StackWalk (List Constraints)) (node : Pointer)

/-- Combines the alternatives of the reference of a schema with `sets`. -/
def descendReference (sets : List Constraints) : StackWalk (List Constraints) :=
  match document.referenceOf node with
  | .error error => throw error
  | .ok none => return sets
  | .ok (some reference) =>
    match document.resolveReference reference node with
    | .error error => throw error
    | .ok target => do
      if ← isOpen path target then
        noted (note .cycleBroken node
          s!"reference '{reference}' re-enters {target}; left unconstrained")
        return sets
      else
        noted (enter target)
        let found ← under target (recurse target)
        noted (combine node sets found)

/-- Combines the alternatives of some schemas, one after the other, with `sets`. -/
def descendMembers (members : List Pointer) (sets : List Constraints) :
    StackWalk (List Constraints) :=
  members.foldlM (fun sets member => do noted (combine node sets (← recurse member))) sets

/-- Combines the alternatives of `then` with `sets`; the condition is passed over. -/
def descendConsequence (sets : List Constraints) : StackWalk (List Constraints) := do
  if (document.keyword? node "if").isSome then
    noted (note .ifAdvisory node "`if` is not evaluated; `then` is applied and `else` ignored")
  descendMembers recurse node (document.subschema? node "then").toList sets

/-- Combines the alternatives of one branch of a list, whichever, with `sets`. -/
def descendBranches (keyword : String) (sets : List Constraints) :
    StackWalk (List Constraints) := do
  if (document.subschemas node keyword).isEmpty then return sets
  let results ← (document.subschemas node keyword).mapM fun branch => tried (recurse branch)
  noted (do combine node sets (← branchAlternatives node keyword results))

/-- What one call does for a schema; `recurse` is what it calls for the schemas below. -/
def descendWith : StackWalk (List Constraints) :=
  match document.fragment node with
  | .bool true => return [.any node]
  | .bool false => throw (.unsatisfiable node "schema `false` admits no value")
  | .obj _ => do
    let own ← noted (ownDemands document node)
    let sets ← descendReference document path recurse node [own]
    let sets ← descendMembers recurse node (document.subschemas node "allOf") sets
    let sets ← descendConsequence document recurse node sets
    let sets ← descendBranches document recurse node "anyOf" sets
    descendBranches document recurse node "oneOf" sets
  | _ => throw (.invalidSchema node "schema must be an object or a boolean")

/-- The walk over a schema, at most so many calls deep. -/
def descend : (levels : Nat) → Pointer → StackWalk (List Constraints)
  | 0, _ => fun _ => none
  | levels + 1, node => descendWith document path (descend levels) node

end Descend

/-! ### Walks that do the same -/

section Mirrors

variable {α β : Type} {active : List Pointer} {stacked : StackWalk α} {walk : Walk α}

/-- A walk on a stack has the outcome of a walk for which the stack is fixed, and leaves the stack
as it was. -/
def Mirrors (active : List Pointer) (stacked : StackWalk α) (walk : Walk α) : Prop :=
  ∀ notes, stacked ⟨active, notes⟩ = some ((walk notes).1, ⟨active, (walk notes).2⟩)

theorem mirrors_pure (a : α) : Mirrors active (pure a) (pure a) := fun _ => rfl

/-- A failure leaves the stack as it was. -/
theorem mirrors_throw (error : SchemaError) :
    Mirrors active (throw error : StackWalk α) (throw error) := fun _ => rfl

theorem mirrors_noted (walk : Walk α) : Mirrors active (.noted walk) walk := fun _ => rfl

/-- Walks that mirror each other go on to do so. -/
theorem Mirrors.bind {next : α → StackWalk β} {following : α → Walk β}
    (h : Mirrors active stacked walk) (hn : ∀ a, Mirrors active (next a) (following a)) :
    Mirrors active (stacked >>= next) (walk >>= following) := by
  intro notes
  have hfirst := h notes
  rw [bind_apply]
  show (stacked ⟨active, notes⟩ >>= _) = _
  rw [hfirst]
  cases hwalk : walk notes with
  | mk result after =>
    cases result with
    | error error => rfl
    | ok a => exact hn a after

/-- An attempt leaves the stack as it was, also where it fails. -/
theorem Mirrors.tried (h : Mirrors active stacked walk) :
    Mirrors active stacked.tried (attempt walk) := by
  intro notes
  unfold StackWalk.tried
  rw [h notes]
  rfl

/-- What is pushed is popped again. -/
theorem Mirrors.under {target : Pointer} (h : Mirrors (target :: active) stacked walk) :
    Mirrors active (stacked.under target) walk := by
  intro notes
  unfold StackWalk.under
  rw [h notes]
  rfl

/-- Steps that mirror each other do so one after the other. -/
theorem Mirrors.foldlM {list : List β} {step : α → β → StackWalk α} {following : α → β → Walk α}
    (h : ∀ b ∈ list, ∀ a, Mirrors active (step a b) (following a b)) (a : α) :
    Mirrors active (list.foldlM step a) (list.foldlM following a) := by
  induction list generalizing a with
  | nil => exact mirrors_pure a
  | cons b rest ih =>
    rw [List.foldlM_cons, List.foldlM_cons]
    exact (h b List.mem_cons_self a).bind
      (ih fun b hb => h b (List.mem_cons_of_mem _ hb))

theorem Mirrors.mapM {list : List β} {step : β → StackWalk α} {following : β → Walk α}
    (h : ∀ b ∈ list, Mirrors active (step b) (following b)) :
    Mirrors active (list.mapM step) (list.mapM following) := by
  induction list with
  | nil => exact mirrors_pure []
  | cons b rest ih =>
    rw [List.mapM_cons, List.mapM_cons]
    exact (h b List.mem_cons_self).bind fun first =>
      (ih fun b hb => h b (List.mem_cons_of_mem _ hb)).bind fun others => mirrors_pure _

/-- Whether a target is open is read off the stack. -/
theorem mirrors_isOpen {path : List Pointer} {target : Pointer} {next : Bool → StackWalk α}
    (h : Mirrors active (next (decide (target ∈ path ∨ target ∈ active))) walk) :
    Mirrors active (StackWalk.isOpen path target >>= next) walk := fun notes => h notes

end Mirrors

/-! ### The parts of a schema -/

section Parts

variable {document : Document} {path active : List Pointer} {node : Pointer}
variable {recurse : Pointer → StackWalk (List Constraints)}
variable {walk : Pointer → Walk (List Constraints)}

/-- The target is on the stack while it is walked through and taken off behind it. -/
theorem mirrors_descendReference
    (hw : ∀ target ∈ document.resolvedTargets, target ∉ active →
      Mirrors (target :: active) (recurse target) (walk target))
    (sets : List Constraints) :
    Mirrors active (descendReference document path recurse node sets)
      (withReference document path active node (fun target _ _ => walk target) sets) := by
  rw [withReference_eq]
  unfold descendReference
  cases hr : document.referenceOf node with
  | error error => exact mirrors_throw error
  | ok reference? =>
    cases reference? with
    | none => exact mirrors_pure sets
    | some reference =>
      dsimp only
      cases ht : document.resolveReference reference node with
      | error error => exact mirrors_throw error
      | ok target =>
        refine mirrors_isOpen ?_
        dsimp only
        by_cases hopen : target ∈ path ∨ target ∈ active
        · rw [if_pos hopen, if_pos (decide_eq_true hopen)]
          exact (mirrors_noted _).bind fun _ => mirrors_pure sets
        · rw [if_neg hopen, if_neg (by simpa using hopen)]
          have hfound := hw target (Document.mem_resolvedTargets hr ht) fun h => hopen (.inr h)
          refine (mirrors_noted _).bind fun _ => ?_
          exact hfound.under.bind fun found => mirrors_noted _

theorem mirrors_descendMembers {members : List Pointer}
    (hw : ∀ member ∈ members, Mirrors active (recurse member) (walk member))
    (sets : List Constraints) :
    Mirrors active (descendMembers recurse node members sets)
      (members.foldlM (fun sets member => do combine node sets (← walk member)) sets) :=
  Mirrors.foldlM (fun member hm _ => (hw member hm).bind fun _ => mirrors_noted _) sets

theorem mirrors_descendConsequence
    (hw : ∀ child, document.subschema? node "then" = some child →
      Mirrors active (recurse child) (walk child))
    (sets : List Constraints) :
    Mirrors active (descendConsequence document recurse node sets)
      (withConsequence document node (fun child _ => walk child) sets) := by
  have hchild : Mirrors active
      (descendMembers recurse node (document.subschema? node "then").toList sets)
      (withChild document node "then" (fun child _ => walk child) sets) := by
    rw [withChild_eq_foldlM]
    exact mirrors_descendMembers (fun child hc => hw child (Option.mem_toList.mp hc)) sets
  unfold descendConsequence withConsequence
  cases (document.keyword? node "if").isSome with
  | true => exact (mirrors_noted _).bind fun _ => hchild
  | false => exact hchild

/-- Branches are walked through with the same stack, one after the other. -/
theorem mirrors_descendBranches (keyword : String)
    (hw : ∀ branch ∈ document.subschemas node keyword,
      Mirrors active (recurse branch) (walk branch))
    (sets : List Constraints) :
    Mirrors active (descendBranches document recurse node keyword sets)
      (withBranches document node keyword (fun branch _ => walk branch) sets) := by
  rw [withBranches_eq_mapM]
  unfold descendBranches
  cases (document.subschemas node keyword).isEmpty with
  | true => exact mirrors_pure sets
  | false =>
    have hresults := Mirrors.mapM fun branch hb => (hw branch hb).tried
    exact hresults.bind fun results => mirrors_noted _

/-- A call does what the founded recursion does, if the calls further down do. -/
theorem mirrors_descendWith
    (htargets : ∀ target ∈ document.resolvedTargets, target ∉ active →
      Mirrors (target :: active) (recurse target)
        (alternatives document path (target :: active) target))
    (hlower : ∀ child, document.height child < document.height node →
      Mirrors active (recurse child) (alternatives document path active child)) :
    Mirrors active (descendWith document path recurse node)
      (alternatives document path active node) := by
  have hmembers (keyword : String) : ∀ member ∈ document.subschemas node keyword,
      Mirrors active (recurse member) (alternatives document path active member) :=
    fun member hm => hlower member (Document.height_subschemas_lt hm)
  unfold descendWith
  split
  · rename_i hf
    rw [alternatives, hf]
    exact mirrors_pure _
  · rename_i hf
    rw [alternatives_of_false hf]
    exact mirrors_throw _
  · rename_i members hf
    rw [alternatives_of_obj members hf]
    refine (mirrors_noted _).bind fun own => ?_
    refine (mirrors_descendReference htargets [own]).bind fun sets => ?_
    refine (mirrors_descendMembers (hmembers "allOf") sets).bind fun sets => ?_
    refine (mirrors_descendConsequence (fun child hc =>
      hlower child (Document.height_subschema_lt hc)) sets).bind fun sets => ?_
    refine (mirrors_descendBranches "anyOf" (hmembers "anyOf") sets).bind fun sets => ?_
    exact mirrors_descendBranches "oneOf" (hmembers "oneOf") sets
  · rename_i htrue hfalse hobj
    rw [alternatives]
    split
    · rename_i hf
      exact absurd hf htrue
    · rename_i hf
      exact absurd hf hfalse
    · rename_i members hf
      exact absurd hf (hobj members)
    · exact mirrors_throw _

end Parts

/-! ### Enough levels -/

/-- Every call further down has one level less to it, and its measure is lower as well. -/
theorem mirrors_descend {document : Document} {path active : List Pointer} {levels : Nat}
    {node : Pointer} (h : document.descent active node < levels) :
    Mirrors active (descend document path levels node)
      (alternatives document path active node) := by
  induction levels generalizing active node with
  | zero => exact absurd h (Nat.not_lt_zero _)
  | succ levels ih =>
    refine mirrors_descendWith (fun target ht ha => ih ?_) (fun child hlower => ih ?_)
    · exact Nat.lt_of_lt_of_le (Document.descent_cons_lt ht ha) (Nat.le_of_lt_succ h)
    · exact Nat.lt_of_lt_of_le (Document.descent_lt_of_height_lt hlower) (Nat.le_of_lt_succ h)

/-- The walk over a schema with a number of levels. Unlike `alternatives`, it computes on closed
documents. -/
def descended (document : Document) (levels : Nat) (path active : List Pointer) (node : Pointer) :
    Walk (List Constraints) := fun notes =>
  match descend document path levels node ⟨active, notes⟩ with
  | some (outcome, stack) => (outcome, stack.notes)
  | none => (.ok [], notes)

/-- With enough levels the walk with a stack is the walk of the normalization. -/
theorem alternatives_eq_descended {document : Document} {levels : Nat}
    (h : (document.resolvedTargets.length + 1) * (document.root.height + 1) ≤ levels)
    (path active : List Pointer) (node : Pointer) :
    alternatives document path active node = descended document levels path active node := by
  funext notes
  have hlevels := Nat.lt_of_lt_of_le (document.descent_lt active node) h
  rw [descended, mirrors_descend hlevels]
  rfl

/-- **The walk over a schema ends and leaves the open targets as they were.** The number of levels
that it needs is found in the targets of references that are not open and the height of the schema,
and is bounded for all schemas of a document together. -/
theorem descend_eq (document : Document) (path active : List Pointer) (node : Pointer)
    (notes : Notes) (levels : Nat) (h : document.descent active node < levels) :
    descend document path levels node ⟨active, notes⟩ =
        some ((alternatives document path active node notes).1,
          ⟨active, (alternatives document path active node notes).2⟩) ∧
      document.descent active node <
        (document.resolvedTargets.length + 1) * (document.root.height + 1) :=
  ⟨mirrors_descend h notes, document.descent_lt active node⟩

/-- Two schemas that refer to each other. -/
def entangled : Document := .ofJson (.object [
  ("$ref", .str "#/definitions/a"),
  ("definitions", .object [
    ("a", .object [("$ref", .str "#/definitions/b")]),
    ("b", .object [("$ref", .str "#/definitions/a")])])])

/-- The position of one of them. -/
def entangledTarget (name : String) : Pointer := ⟨["definitions", name]⟩

theorem resolvedTargets_entangled :
    entangled.resolvedTargets = [entangledTarget "a", entangledTarget "b"] := by
  have hresolved : (entangled.root.references.filterMap fun reference =>
      (entangled.resolveReference reference .root).toOption) =
        [entangledTarget "a", entangledTarget "b", entangledTarget "a"] := by decide +kernel
  unfold Document.resolvedTargets
  rw [hresolved]
  decide

/-- Two targets and three steps on the longest way down, so that twelve levels are enough. -/
theorem descend_eq_entangled :
    entangled.descent [] .root < 12 ∧
      descend entangled [] 12 .root ⟨[], ⟨[], .start 0, 0⟩⟩ =
        some ((alternatives entangled [] [] .root ⟨[], .start 0, 0⟩).1,
          ⟨[], (alternatives entangled [] [] .root ⟨[], .start 0, 0⟩).2⟩) := by
  have hheight : entangled.root.height = 3 := by decide +kernel
  have hbound := entangled.descent_lt [] .root
  rw [resolvedTargets_entangled, hheight] at hbound
  have h : entangled.descent [] .root < 12 := hbound
  exact ⟨h, (descend_eq entangled [] [] .root ⟨[], .start 0, 0⟩ 12 h).1⟩

end Normalization

end Specimen
