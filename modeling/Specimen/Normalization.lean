import Specimen.Constraint.Keywords
import Specimen.Constraint.Settle
import Specimen.Report
import Specimen.Schema.Reference

/-!
# Specimen.Normalization

What a schema demands together with the schemas it is composed of.

A schema may admit several sets of demands, one for each choice among the branches of its
`anyOf` and `oneOf`. `alternatives` collects them: the schema's own demands are combined with
those of the target of its `$ref`, of the members of its `allOf`, of its `then`, and of one
branch of its `anyOf` and `oneOf`. A combination that contradicts itself is dropped.

* `normalize` — the settled alternatives of a schema, or the target that it leads back to;
* `alternatives` — the recursion. It ends because every step goes down in the document or to a
  reference target that is not open yet.
-/

namespace Specimen

/-- The demands of a schema. -/
inductive Demands where
  | single (set : Constraints)
  /-- One set for each combination of branches. -/
  | choice (sets : List Constraints)
  /-- The schema is a reference to a target on the path to it. -/
  | cycle (target : Pointer)

/-- The result of normalizing a schema. -/
structure Normalization where
  demands : Demands
  /-- The reference targets whose demands were combined; they are open below the schema. -/
  entered : List Pointer

namespace Normalization

/-- At most so many combinations are followed. -/
def maxAlternatives : Nat := 256

/-- What is noted while a schema is walked over, whether or not the walk succeeds. -/
structure Notes where
  /-- The reference targets entered so far. -/
  entered : List Pointer
  report : Report
  /-- How often combinations were left out because there were too many of them. -/
  cuts : Nat

/-- A walk over schemas. -/
abbrev Walk := ExceptT SchemaError (StateM Notes)

/-- Records an issue at a schema. -/
def note (code : IssueCode) (node : Pointer) (message : String) : Walk Unit :=
  modify fun notes => { notes with report := notes.report.record code node.text message }

/-- Notes that a reference target is entered. -/
def enter (target : Pointer) : Walk Unit :=
  modify fun notes => { notes with entered := notes.entered ++ [target] }

/-- An outcome as a value, unless it is a failure for another reason than that no value meets the
demands. -/
def recover : Except SchemaError α → Except SchemaError (Except SchemaError α)
  | .error (.unsatisfiable node reason) => .ok (.error (.unsatisfiable node reason))
  | .error error => .error error
  | .ok value => .ok (.ok value)

/-- The outcome of a walk as a value, unless the schema is at fault. What was noted is kept. -/
def attempt (walk : Walk α) : Walk (Except SchemaError α) := fun notes =>
  let (result, notes) := walk notes
  (recover result, notes)

/-! ### Combining alternatives -/

/-- The first combinations that do not contradict themselves, at most `room` of them, and the first
contradiction met. -/
def intersections :
    (room : Nat) → List (Constraints × Constraints) → List Constraints × Option SchemaError
  | 0, _ => ([], none)
  | _ + 1, [] => ([], none)
  | room + 1, (left, right) :: rest =>
    match left.intersect right with
    | .ok set =>
      let (sets, error) := intersections room rest
      (set :: sets, error)
    | .error error => ((intersections (room + 1) rest).1, some error)

/-- Whether a pair is left out because there are `room` combinations before it. -/
def leavesOut : (room : Nat) → List (Constraints × Constraints) → Bool
  | _, [] => false
  | 0, _ :: _ => true
  | room + 1, (left, right) :: rest =>
    match left.intersect right with
    | .ok _ => leavesOut room rest
    | .error _ => leavesOut (room + 1) rest

/-- Every alternative of one list with every one of another. -/
def pairs (lefts rights : List Constraints) : List (Constraints × Constraints) :=
  lefts.flatMap fun left => rights.map fun right => (left, right)

/-- The combinations of two lists of alternatives. When every pair contradicts itself, the first
contradiction is the error. -/
def product (node : Pointer) (lefts rights : List Constraints) :
    Except SchemaError (List Constraints) :=
  match intersections maxAlternatives (pairs lefts rights) with
  | ([], some error) => .error error
  | ([], none) => .error (.unsatisfiable node "constraints admit no value")
  | (sets, _) => .ok sets

/-- The combinations of two lists of alternatives; notes when some are left out. -/
def combine (node : Pointer) (lefts rights : List Constraints) : Walk (List Constraints) := do
  if leavesOut maxAlternatives (pairs lefts rights) then
    modify fun notes => { notes with cuts := notes.cuts + 1 }
  product node lefts rights

/-- The alternatives of the branches that have some. When no branch has, the first failure is the
error. -/
def branchAlternatives (node : Pointer) (keyword : String)
    (results : List (Except SchemaError (List Constraints))) :
    Except SchemaError (List Constraints) :=
  let error? : Option SchemaError := results.findSome? fun
    | .error error => some error
    | .ok _ => none
  match (results.filterMap Except.toOption).flatten, error? with
  | [], some error => .error error
  | [], none => .error (.unsatisfiable node s!"every {keyword} branch is unsatisfiable")
  | sets, _ => .ok sets

/-! ### Walking over a schema -/

variable (document : Document)

/-- The values that a negated schema lists by its `enum` and its `const`. -/
def listedValues (negated : Pointer) : List Json :=
  ((document.keyword? negated "enum").bind Json.elements?).getD [] ++
    (document.keyword? negated "const").toList

/-- Applies `not`: the values of its `enum` and `const` are excluded, all else is passed over. -/
def applyNot (set : Constraints) (negated : Pointer) : Walk Constraints := do
  let values := (document.keyword? negated "enum").bind Json.elements?
  let constant := document.keyword? negated "const"
  let others := ((document.fragment negated).members?.getD []).any fun (key, _) =>
    key != "enum" && key != "const"
  if (values.isNone ∧ constant.isNone) ∨ others then
    note .notIgnored negated "`not` is applied only through enum/const; other keywords ignored"
  return { set with excluded := set.excluded ++ listedValues document negated }

/-- The demands of a schema by its own keywords and by its `not`. -/
def ownDemands (node : Pointer) : Walk Constraints := do
  let set ← Constraints.ofSchema document node
  match document.subschema? node "not" with
  | some negated => applyNot document set negated
  | none => return set

/-- Combines the alternatives of the reference of a schema with `sets`. A reference to an open
target demands nothing. -/
def withReference (path active : List Pointer) (node : Pointer)
    (walk : (target : Pointer) → target ∈ document.targets → target ∉ active →
      Walk (List Constraints))
    (sets : List Constraints) : Walk (List Constraints) :=
  match hr : document.referenceOf node with
  | .error error => throw error
  | .ok none => return sets
  | .ok (some reference) =>
    match ht : document.resolveReference reference node with
    | .error error => throw error
    | .ok target =>
      if ho : target ∈ path ∨ target ∈ active then do
        note .cycleBroken node s!"reference '{reference}' re-enters {target}; left unconstrained"
        return sets
      else do
        enter target
        combine node sets
          (← walk target (Document.mem_targets_of_resolveReference hr ht) fun h => ho (.inr h))

/-- Combines the alternatives of every member of a list with `sets`. -/
def withMembers (node : Pointer) (keyword : String)
    (walk : (member : Pointer) → member ∈ document.subschemas node keyword →
      Walk (List Constraints))
    (sets : List Constraints) : Walk (List Constraints) :=
  (document.subschemas node keyword).attach.foldlM
    (fun sets member => do combine node sets (← walk member.1 member.2)) sets

/-- Combines the alternatives of the schema under a keyword, if there is one, with `sets`. -/
def withChild (node : Pointer) (keyword : String)
    (walk : (child : Pointer) → document.subschema? node keyword = some child →
      Walk (List Constraints))
    (sets : List Constraints) : Walk (List Constraints) :=
  match hc : document.subschema? node keyword with
  | some child => do combine node sets (← walk child hc)
  | none => return sets

/-- Combines the alternatives of `then` with `sets`; the condition is passed over. -/
def withConsequence (node : Pointer)
    (walk : (child : Pointer) → document.subschema? node "then" = some child →
      Walk (List Constraints))
    (sets : List Constraints) : Walk (List Constraints) := do
  if (document.keyword? node "if").isSome then
    note .ifAdvisory node "`if` is not evaluated; `then` is applied and `else` ignored"
  withChild document node "then" walk sets

/-- Combines the alternatives of one branch of a list, whichever, with `sets`. -/
def withBranches (node : Pointer) (keyword : String)
    (walk : (branch : Pointer) → branch ∈ document.subschemas node keyword →
      Walk (List Constraints))
    (sets : List Constraints) : Walk (List Constraints) := do
  if (document.subschemas node keyword).isEmpty then return sets
  let results ← (document.subschemas node keyword).attach.mapM fun branch =>
    attempt (walk branch.1 branch.2)
  combine node sets (← branchAlternatives node keyword results)

/-- The sets of demands that a schema admits. `path` holds the reference targets above the schema
and `active` those that are being combined. -/
def alternatives (path active : List Pointer) (node : Pointer) : Walk (List Constraints) :=
  match document.fragment node with
  | .bool true => return [.any node]
  | .bool false => throw (.unsatisfiable node "schema `false` admits no value")
  | .obj _ => do
    let own ← ownDemands document node
    let sets ← withReference document path active node
      (fun target _ _ => alternatives path (target :: active) target) [own]
    let sets ← withMembers document node "allOf"
      (fun member _ => alternatives path active member) sets
    let sets ← withConsequence document node
      (fun child _ => alternatives path active child) sets
    let sets ← withBranches document node "anyOf"
      (fun branch _ => alternatives path active branch) sets
    withBranches document node "oneOf"
      (fun branch _ => alternatives path active branch) sets
  | _ => throw (.invalidSchema node "schema must be an object or a boolean")
termination_by (document.unvisited active, sizeOf (document.fragment node))
decreasing_by
  · exact .left _ _ (Document.unvisited_cons_lt ‹_› ‹_›)
  · exact .right _ (Document.sizeOf_fragment_subschemas_lt ‹_›)
  · exact .right _ (Document.sizeOf_fragment_subschema_lt ‹_›)
  · exact .right _ (Document.sizeOf_fragment_subschemas_lt ‹_›)
  · exact .right _ (Document.sizeOf_fragment_subschemas_lt ‹_›)

/-! ### Normalizing -/

/-- Settles the alternatives of a schema; those that cannot be settled are dropped, and when none is
left, the first failure is the error. -/
def settle (node : Pointer) (sets : List Constraints) : Except SchemaError Demands :=
  let results := sets.map Constraints.finalize
  let error? : Option SchemaError := results.findSome? fun
    | .error error => some error
    | .ok _ => none
  match results.filterMap Except.toOption with
  | [] => .error (error?.getD (.unsatisfiable node "no alternative is satisfiable"))
  | [set] => .ok (.single set)
  | sets => .ok (.choice sets)

/-- The settled alternatives of a schema. -/
def settledDemands (path : List Pointer) (node : Pointer) : Walk Demands := do
  settle node (← alternatives document path [] node)

/-- The demands of a schema. `path` holds the reference targets entered above it; when the schema
itself is a reference to one of them, it is a cycle. -/
def demandsOn (path : List Pointer) (node : Pointer) : Walk Demands := do
  match ← document.referenceOf node with
  | none => settledDemands document path node
  | some reference =>
    let target ← document.resolveReference reference node
    if target ∈ path then return .cycle target else settledDemands document path node

/-- Normalizes a schema below the reference targets on `path`. -/
def normalize (path : List Pointer) (node : Pointer) :
    ExceptT SchemaError (StateM Report) Normalization := fun report =>
  let (result, notes) := demandsOn document path node ⟨[], report, 0⟩
  (result.map (⟨·, notes.entered⟩), notes.report)

end Normalization

end Specimen
