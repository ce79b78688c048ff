import Specimen.Proofs.Constraint.Children
import Specimen.Proofs.Normalization.Combination
import Specimen.Proofs.Normalization.Independence

/-!
# Specimen.Proofs.Normalization.Composition

What the alternatives of a schema are made of (`Normalization.exists_alternative`).

`Alternative` describes one alternative without the walk that finds it: the schema's own demands,
intersected in turn with an alternative of every schema that it is composed of, namely of the target
of its reference, of the members of its `allOf`, of its `then`, and of one branch each of its
`anyOf` and its `oneOf`. Each of these alternatives goes into the whole (`Constraints.GoesInto`),
which is what all statements about what a schema has to contribute rest on
(`Alternative.exists_of_conjunct`).

Which references were entered and which ones were left open is known only when the walk is over. A
walk is therefore followed for a fixed choice of both: in the end it has noted something else, or
its alternatives are made as that choice says (`ends_alternatives`).
-/

namespace Specimen

/-- A set of demands was intersected with others, and perhaps settled, to make another set. -/
inductive Constraints.GoesInto (part : Constraints) : Constraints → Prop
  | self : GoesInto part part
  | left {left right set : Constraints} (h : GoesInto part left)
      (hi : left.intersect right = .ok set) : GoesInto part set
  | right {left right set : Constraints} (h : GoesInto part right)
      (hi : left.intersect right = .ok set) : GoesInto part set
  | settled {raw set : Constraints} (h : GoesInto part raw) (hf : raw.finalize = .ok set) :
      GoesInto part set

/-- What a part requires, the whole requires. -/
theorem Constraints.GoesInto.mem_required {part set : Constraints} {name : String}
    (h : part.GoesInto set) (hn : name ∈ part.required) : name ∈ set.required := by
  induction h with
  | self => exact hn
  | left _ hi ih =>
    obtain ⟨kinds, candidates, -, -, rfl⟩ := exists_mergeWith_of_intersect hi
    exact NameSet.mem_union.mpr (.inl ih)
  | right _ hi ih =>
    obtain ⟨kinds, candidates, -, -, rfl⟩ := exists_mergeWith_of_intersect hi
    exact NameSet.mem_union.mpr (.inr ih)
  | settled _ hf ih =>
    rw [(settlesTo_of_finalize hf).same]
    exact ih

/-- A part of a part is a part. -/
theorem Constraints.GoesInto.trans {part middle set : Constraints} (h : part.GoesInto middle)
    (hm : middle.GoesInto set) : part.GoesInto set := by
  induction hm with
  | self => exact h
  | left _ hi ih => exact .left ih hi
  | right _ hi ih => exact .right ih hi
  | settled _ hf ih => exact .settled ih hf

/-- Boolean schemas have no keywords. -/
theorem Document.keyword?_of_bool {document : Document} {node : Pointer} {flag : Bool}
    (h : document.fragment node = .bool flag) (keyword : String) :
    document.keyword? node keyword = none := by
  unfold keyword?
  rw [h]
  rfl

namespace Normalization

/-! ### Alternatives -/

/-- A schema where a walk meets it: below some reference targets that are being combined. -/
structure Visit where
  active : List Pointer
  node : Pointer

section Relation

variable (document : Document) (path : List Pointer)

/-- The values that the `not` of a schema lists. -/
def negatedValues (node : Pointer) : List Json :=
  (document.subschema? node "not").elim [] (listedValues document)

/-- The demands of a schema by its own keywords and by its `not`. -/
def Owns (node : Pointer) (own : Constraints) : Prop :=
  ∃ set, Constraints.ofSchema document node = .ok set ∧
    own = { set with excluded := set.excluded ++ negatedValues document node }

/-- A schema is a reference to a target, whether or not that is open. -/
def RefersTo (node target : Pointer) : Prop :=
  ∃ reference, document.referenceOf node = .ok (some reference) ∧
    document.resolveReference reference node = .ok target

/-- A schema has another one as the target of its reference, in its `allOf` or as its `then`. -/
inductive Merges : Pointer → Pointer → Prop
  | reference {node target : Pointer} (h : RefersTo document node target) : Merges node target
  | member {node member : Pointer} (h : member ∈ document.subschemas node "allOf") :
      Merges node member
  | consequence {node child : Pointer} (h : document.subschema? node "then" = some child) :
      Merges node child

/-- A schema that another one is composed of in any case. -/
inductive Conjunct : Visit → Visit → Prop
  | reference {active : List Pointer} {node target : Pointer}
      (h : Enters document path active node target) :
      Conjunct ⟨active, node⟩ ⟨target :: active, target⟩
  | member {active : List Pointer} {node member : Pointer}
      (h : member ∈ document.subschemas node "allOf") : Conjunct ⟨active, node⟩ ⟨active, member⟩
  | consequence {active : List Pointer} {node child : Pointer}
      (h : document.subschema? node "then" = some child) : Conjunct ⟨active, node⟩ ⟨active, child⟩

/-- A schema that another one may be composed of: a branch of its `anyOf` or `oneOf`. -/
def IsBranch (visit branch : Visit) : Prop :=
  branch.active = visit.active ∧
    ∃ keyword ∈ ["anyOf", "oneOf"], branch.node ∈ document.subschemas visit.node keyword

variable (entered broken : Pointer → Prop)

/-- What the reference of a schema brings in: nothing where it leads to a target that is open. -/
inductive Referenced (visit : Visit) : List Visit → Prop
  | none (h : document.referenceOf visit.node = .ok none) : Referenced visit []
  | broken {reference : String} {target : Pointer}
      (hr : document.referenceOf visit.node = .ok (some reference))
      (ht : document.resolveReference reference visit.node = .ok target)
      (ho : target ∈ path ∨ target ∈ visit.active) (hb : broken visit.node) : Referenced visit []
  | target {target : Pointer} (h : Enters document path visit.active visit.node target)
      (he : entered target) : Referenced visit [⟨target :: visit.active, target⟩]

/-- One of the branches under a keyword, if there are any. -/
inductive Chosen (keyword : String) (visit : Visit) : List Visit → Prop
  | none (h : document.subschemas visit.node keyword = []) : Chosen keyword visit []
  | branch {branch : Pointer} (h : branch ∈ document.subschemas visit.node keyword) :
      Chosen keyword visit [⟨visit.active, branch⟩]

/-- The members of a list under a keyword. -/
def membersOf (keyword : String) (visit : Visit) : List Visit :=
  (document.subschemas visit.node keyword).map (Visit.mk visit.active)

/-- The schema under a keyword, if there is one. -/
def childOf (keyword : String) (visit : Visit) : List Visit :=
  (document.subschema? visit.node keyword).toList.map (Visit.mk visit.active)

/-- The schemas that one alternative of a schema is composed of. -/
inductive Parts (visit : Visit) : List Visit → Prop
  | mk {references anyOf oneOf : List Visit}
      (hr : Referenced document path entered broken visit references)
      (ha : Chosen document "anyOf" visit anyOf) (ho : Chosen document "oneOf" visit oneOf) :
      Parts visit (references ++ membersOf document "allOf" visit ++
        childOf document "then" visit ++ anyOf ++ oneOf)

mutual

/-- One of the sets of demands that a schema admits. -/
inductive Alternative : Visit → Constraints → Prop
  | any {visit : Visit} (h : document.fragment visit.node = .bool true) :
      Alternative visit (.any visit.node)
  | object {visit : Visit} {own set : Constraints} {parts : List Visit}
      {members : List (String × Json)} (hm : document.fragment visit.node = .obj members)
      (ho : Owns document visit.node own) (hp : Parts document path entered broken visit parts)
      (hc : Conjoined own parts set) : Alternative visit set

/-- A set of demands, intersected in turn with an alternative of each of some schemas. -/
inductive Conjoined : Constraints → List Visit → Constraints → Prop
  | nil {set : Constraints} : Conjoined set [] set
  | cons {left right middle set : Constraints} {part : Visit} {parts : List Visit}
      (ha : Alternative part right) (hi : left.intersect right = .ok middle)
      (hc : Conjoined middle parts set) : Conjoined left (part :: parts) set

end

end Relation

section Lemmas

variable {document : Document} {path : List Pointer} {entered broken : Pointer → Prop}
variable {visit part branch : Visit} {parts others : List Visit} {left middle set : Constraints}

/-- Sets met one after the other may be met in two stretches. -/
theorem Conjoined.append (h : Conjoined document path entered broken left parts middle)
    (ho : Conjoined document path entered broken middle others set) :
    Conjoined document path entered broken left (parts ++ others) set := by
  induction parts generalizing left with
  | nil =>
    cases h
    exact ho
  | cons part parts ih =>
    obtain ⟨⟩ | ⟨ha, hi, hc⟩ := h
    exact .cons ha hi (ih hc)

theorem Conjoined.singleton {right : Constraints}
    (ha : Alternative document path entered broken part right)
    (hi : left.intersect right = .ok set) :
    Conjoined document path entered broken left [part] set :=
  .cons ha hi .nil

/-- Whatever is met with a set, the set goes into the result. -/
theorem Conjoined.goesInto (h : Conjoined document path entered broken left parts set) :
    left.GoesInto set := by
  induction parts generalizing left with
  | nil =>
    cases h
    exact .self
  | cons part parts ih =>
    obtain ⟨⟩ | ⟨ha, hi, hc⟩ := h
    exact .trans (.left .self hi) (ih hc)

/-- Each of the schemas has an alternative in the whole. -/
theorem Conjoined.exists_of_mem (h : Conjoined document path entered broken left parts set)
    (hp : part ∈ parts) :
    ∃ right, Alternative document path entered broken part right ∧ right.GoesInto set := by
  induction parts generalizing left with
  | nil => cases hp
  | cons first parts ih =>
    obtain ⟨⟩ | ⟨ha, hi, hc⟩ := h
    rcases List.mem_cons.mp hp with rfl | hp
    · exact ⟨_, ha, .trans (.right .self hi) hc.goesInto⟩
    · exact ih hc hp

/-- All members of `allOf` are parts. -/
theorem Parts.mem_of_member (h : Parts document path entered broken visit parts)
    {member : Pointer} (hm : member ∈ document.subschemas visit.node "allOf") :
    ⟨visit.active, member⟩ ∈ parts := by
  obtain ⟨hr, ha, ho⟩ := h
  simp [membersOf, hm]

/-- The consequence is a part. -/
theorem Parts.mem_of_consequence (h : Parts document path entered broken visit parts)
    {child : Pointer} (hc : document.subschema? visit.node "then" = some child) :
    ⟨visit.active, child⟩ ∈ parts := by
  obtain ⟨hr, ha, ho⟩ := h
  simp [childOf, hc]

/-- The target of a reference is there unless it was open already. -/
theorem Parts.mem_of_reference (h : Parts document path entered broken visit parts)
    {reference : String} {target : Pointer}
    (hr : document.referenceOf visit.node = .ok (some reference))
    (ht : document.resolveReference reference visit.node = .ok target) :
    ((target ∈ path ∨ target ∈ visit.active) ∧ broken visit.node) ∨
      ⟨target :: visit.active, target⟩ ∈ parts := by
  obtain ⟨href, ha, ho⟩ := h
  cases href with
  | none hnone => cases hr.symm.trans hnone
  | broken hr' ht' hopen hb =>
    cases hr.symm.trans hr'
    cases ht.symm.trans ht'
    exact .inl ⟨hopen, hb⟩
  | target hentered he =>
    obtain ⟨reference', hr', ht', -⟩ := hentered
    cases hr.symm.trans hr'
    cases ht.symm.trans ht'
    exact .inr (by simp)

/-- A schema that is merged into another one is among its parts, unless its target was open. -/
theorem Parts.mem_of_merges (h : Parts document path entered broken visit parts) {node : Pointer}
    (hm : Merges document visit.node node) :
    (RefersTo document visit.node node ∧ broken visit.node) ∨
      ∃ active, ⟨active, node⟩ ∈ parts := by
  cases hm with
  | reference hrefers =>
    have ⟨reference, hr, ht⟩ := hrefers
    exact (h.mem_of_reference hr ht).imp (fun hb => ⟨hrefers, hb.2⟩) fun hmem => ⟨_, hmem⟩
  | member hm => exact .inr ⟨_, h.mem_of_member hm⟩
  | consequence hc => exact .inr ⟨_, h.mem_of_consequence hc⟩

/-- A schema that always applies together with a node is one of its parts. -/
theorem Parts.mem_of_conjunct (h : Parts document path entered broken visit parts)
    (hc : Conjunct document path visit part) : part ∈ parts := by
  cases hc with
  | reference hentered =>
    obtain ⟨reference, hr, ht, hpath, hactive⟩ := hentered
    exact (h.mem_of_reference hr ht).resolve_left fun ⟨hopen, _⟩ => hopen.elim hpath hactive
  | member hm => exact h.mem_of_member hm
  | consequence hc => exact h.mem_of_consequence hc

/-- What is chosen for a keyword of branches is one of its branches. -/
theorem Chosen.isBranch {keyword : String} (hk : keyword ∈ ["anyOf", "oneOf"])
    (h : Chosen document keyword visit parts) (hp : part ∈ parts) :
    IsBranch document visit part := by
  cases h with
  | none => cases hp
  | branch hb =>
    obtain rfl := List.mem_singleton.mp hp
    exact ⟨rfl, keyword, hk, hb⟩

/-- Branches are lower than their node, so the recursion over them ends. -/
theorem IsBranch.height_lt (h : IsBranch document visit part) :
    document.height part.node < document.height visit.node := by
  obtain ⟨-, keyword, -, hb⟩ := h
  exact Document.height_subschemas_lt hb

/-- A schema that another one is composed of was entered by a reference or lies below. -/
theorem Parts.entered_or_height_lt (h : Parts document path entered broken visit parts)
    (hp : part ∈ parts) :
    entered part.node ∨ document.height part.node < document.height visit.node := by
  obtain ⟨hr, ha, ho⟩ := h
  simp only [List.mem_append] at hp
  rcases hp with (((hp | hp) | hp) | hp) | hp
  · cases hr with
    | none | broken => cases hp
    | target _ he =>
      obtain rfl := List.mem_singleton.mp hp
      exact .inl he
  · obtain ⟨member, hm, rfl⟩ := List.mem_map.mp hp
    exact .inr (Document.height_subschemas_lt hm)
  · obtain ⟨child, hc, rfl⟩ := List.mem_map.mp hp
    exact .inr (Document.height_subschema_lt (Option.mem_toList.mp hc))
  · exact .inr (ha.isBranch (by decide) hp).height_lt
  · exact .inr (ho.isBranch (by decide) hp).height_lt

/-- A schema that another one is composed of is one that it is composed of in any case, or a
branch. -/
theorem Parts.conjunct_or_isBranch (h : Parts document path entered broken visit parts)
    (hp : part ∈ parts) : Conjunct document path visit part ∨ IsBranch document visit part := by
  obtain ⟨hr, ha, ho⟩ := h
  simp only [List.mem_append] at hp
  rcases hp with (((hp | hp) | hp) | hp) | hp
  · cases hr with
    | none | broken => cases hp
    | target henters =>
      obtain rfl := List.mem_singleton.mp hp
      exact .inl (.reference henters)
  · obtain ⟨member, hm, rfl⟩ := List.mem_map.mp hp
    exact .inl (.member hm)
  · obtain ⟨child, hc, rfl⟩ := List.mem_map.mp hp
    exact .inl (.consequence (Option.mem_toList.mp hc))
  · exact .inr (ha.isBranch (by decide) hp)
  · exact .inr (ho.isBranch (by decide) hp)

/-- Nothing is merged into a Boolean schema. -/
theorem not_merges_of_bool {node part : Pointer} {flag : Bool}
    (h : document.fragment node = .bool flag) : ¬Merges document node part := by
  have hnone := Document.keyword?_of_bool h
  intro hm
  cases hm with
  | reference hrefers =>
    obtain ⟨reference, hr, -⟩ := hrefers
    simp [Document.referenceOf, hnone] at hr
  | member hm => simp [Document.subschemas, hnone] at hm
  | consequence hc => simp [Document.subschema?, hnone] at hc

/-- What always applies together with a node is merged into it. -/
theorem Conjunct.merges (h : Conjunct document path visit part) :
    Merges document visit.node part.node := by
  cases h with
  | reference henters =>
    obtain ⟨reference, hr, ht, -⟩ := henters
    exact .reference ⟨reference, hr, ht⟩
  | member hm => exact .member hm
  | consequence hc => exact .consequence hc

/-- **Nothing is left out.** Every schema that a schema is composed of in any case has an
alternative in each alternative of that schema. -/
theorem Alternative.exists_of_conjunct (h : Alternative document path entered broken visit set)
    (hc : Conjunct document path visit part) :
    ∃ right, Alternative document path entered broken part right ∧ right.GoesInto set := by
  cases h with
  | any htrue => exact absurd hc.merges (not_merges_of_bool htrue)
  | object _ ho hp hconj => exact hconj.exists_of_mem (hp.mem_of_conjunct hc)

/-- What holds of the demands of every schema by itself, and is neither lost when two sets are
combined nor when a schema is seen as a part of another one, holds of every alternative. -/
theorem Alternative.induct (holds : Pointer → Constraints → Prop)
    (any : ∀ node, holds node (.any node))
    (owns : ∀ node own, Owns document node own → holds node own)
    (lift : ∀ node part set, entered part ∨ document.height part < document.height node →
      holds part set → holds node set)
    (intersect : ∀ node left right set, holds node left → holds node right →
      left.intersect right = .ok set → holds node set)
    (h : Alternative document path entered broken visit set) : holds visit.node set := by
  refine @Alternative.rec document path entered broken (fun visit set _ => holds visit.node set)
    (fun left parts set _ => ∀ node, holds node left →
      (∀ part ∈ parts, entered part.node ∨ document.height part.node < document.height node) →
        holds node set)
    ?any ?object ?nil ?cons visit set h
  case any => exact fun {visit} _ => any visit.node
  -- The demands of an object grow from its own ones; the list of its parts is what `Conjoined`
  -- recurs on, so that case carries the schema which the parts belong to.
  case object =>
    exact fun {visit own _ _ _} _ ho hp _ ih =>
      ih visit.node (owns visit.node own ho) fun _ hpart => hp.entered_or_height_lt hpart
  case nil => exact fun _ hleft _ => hleft
  case cons =>
    intro left right middle set part parts _ hi _ ihright ih node hleft hparts
    obtain ⟨hpart, hrest⟩ := List.forall_mem_cons.mp hparts
    exact ih node (intersect node left right middle hleft (lift node _ _ hpart ihright) hi) hrest

end Lemmas

/-! ### Steps of a walk -/

/-- A property of the notes that no step of a walk over the schemas of a region loses. When it is
not gained by entering a target or by breaking a cycle, the target and the schema are among those
chosen. -/
structure Steady (document : Document) (path : List Pointer) (region : Visit → Prop)
    (entered broken : Pointer → Prop) (kept : Notes → Prop) : Prop where
  closed : ∀ visit part, region visit →
    Conjunct document path visit part ∨ IsBranch document visit part → region part
  note : ∀ notes code node message, kept notes →
    kept { notes with report := notes.report.record code node message }
  cut : ∀ notes cuts, kept notes → kept { notes with cuts }
  enter : ∀ notes visit target, region visit →
    Enters document path visit.active visit.node target → kept notes →
      kept { notes with entered := notes.entered ++ [target] }
  entered : ∀ (notes : Notes) target,
    kept { notes with entered := notes.entered ++ [target] } ∨ entered target
  broken : ∀ (notes : Notes) node message,
    kept { notes with report := notes.report.record .cycleBroken (Pointer.text node) message } ∨
      broken node

section Steps

variable {document : Document} {path : List Pointer} {region : Visit → Prop}
variable {entered broken : Pointer → Prop} {kept : Notes → Prop}

/-- A result that is there already changes no notes. -/
theorem ends_lift {α : Type} {result : Except SchemaError α} {described : α → Prop}
    (h : ∀ a, result = .ok a → described a) : Ends kept (liftM result : Walk α) described :=
  fun _ => ⟨fun hk => hk, fun a ha => .inr (h a ha)⟩

/-- An attempt ends as its walk does, also where the walk fails. -/
theorem ends_attempt {α : Type} {walk : Walk α} {described : α → Prop}
    (h : Ends kept walk described) :
    Ends kept (attempt walk) fun outcome => ∀ a, outcome = .ok a → described a := by
  refine fun notes => ⟨(h notes).1, fun outcome houtcome => ?_⟩
  have hvalue := (h notes).2
  change recover (walk notes).1 = .ok outcome at houtcome
  cases hwalk : (walk notes).1 with
  | ok a =>
    rw [hwalk] at hvalue houtcome
    cases houtcome
    refine (hvalue a rfl).imp_right fun ha b hb => ?_
    cases hb
    exact ha
  | error error =>
    rw [hwalk] at houtcome
    cases error with
    | unsatisfiable => cases houtcome; exact .inr (by intro _ h; cases h)
    | unresolvedReference | unsupportedReference | budgetExceeded | invalidSchema => cases houtcome

/-- Noting an issue keeps what is kept. -/
theorem ends_note (hk : Steady document path region entered broken kept) (code : IssueCode)
    (node : Pointer) (message : String) : Ends kept (note code node message) fun _ => True :=
  fun notes => ⟨hk.note notes code node.text message, fun _ _ => .inr trivial⟩

/-- Noting a broken cycle also marks its place as broken. -/
theorem ends_cycleBroken (hk : Steady document path region entered broken kept) (node : Pointer)
    (message : String) : Ends kept (note .cycleBroken node message) fun _ => broken node :=
  fun notes => ⟨hk.note notes .cycleBroken node.text message,
    fun _ _ => hk.broken notes node message⟩

/-- Entering a target marks it as entered. -/
theorem ends_enter (hk : Steady document path region entered broken kept) (visit : Visit)
    {target : Pointer} (hv : region visit)
    (ht : Enters document path visit.active visit.node target) :
    Ends kept (enter target) fun _ => entered target :=
  fun notes => ⟨hk.enter notes visit target hv ht, fun _ _ => hk.entered notes target⟩

/-- Each combination of two lists intersects a member of each. -/
theorem ends_combine (hk : Steady document path region entered broken kept) (node : Pointer)
    (lefts rights : List Constraints) :
    Ends kept (combine node lefts rights) fun sets => ∀ set ∈ sets,
      ∃ left ∈ lefts, ∃ right ∈ rights, left.intersect right = .ok set := by
  have hproduct : Ends kept (liftM (product node lefts rights) : Walk (List Constraints))
      fun sets => ∀ set ∈ sets,
        ∃ left ∈ lefts, ∃ right ∈ rights, left.intersect right = .ok set :=
    ends_lift fun sets hsets set hset => mem_product hsets hset
  have hcut : Ends kept (modify fun notes => { notes with cuts := notes.cuts + 1 } : Walk Unit)
      fun _ => True :=
    fun notes => ⟨hk.cut notes _, fun _ _ => .inr trivial⟩
  unfold combine
  split
  · exact hcut.andThen fun _ => hproduct
  · exact hproduct

end Steps

/-! ### The parts of a schema -/

section Walks

variable {document : Document} {path : List Pointer} {region : Visit → Prop}
variable {entered broken : Pointer → Prop} {kept : Notes → Prop}
variable {visit : Visit}

/-- Some sets are alternatives of a schema. -/
def AreAlternatives (document : Document) (path : List Pointer) (entered broken : Pointer → Prop)
    (visit : Visit) (sets : List Constraints) : Prop :=
  ∀ set ∈ sets, Alternative document path entered broken visit set

/-- Each of some sets comes from one of those before, intersected with an alternative of each of
some schemas. -/
def Grows (document : Document) (path : List Pointer) (entered broken : Pointer → Prop)
    (admitted : List Visit → Prop) (sets result : List Constraints) : Prop :=
  ∀ set ∈ result, ∃ left ∈ sets, ∃ parts, admitted parts ∧
    Conjoined document path entered broken left parts set

/-- Where nothing applies, the sets stay and no part is added. -/
theorem ends_unchanged (admitted : List Visit → Prop) (h : admitted []) (sets : List Constraints) :
    Ends kept (pure sets : Walk (List Constraints))
      (Grows document path entered broken admitted sets) :=
  ends_pure fun set hset => ⟨set, hset, [], h, .nil⟩

/-- The alternatives of one more schema are combined with those before. -/
theorem ends_combined (hk : Steady document path region entered broken kept) {part : Visit}
    {node : Pointer} {walk : Walk (List Constraints)} (admitted : List Visit → Prop)
    (h : admitted [part])
    (hw : Ends kept walk (AreAlternatives document path entered broken part))
    (sets : List Constraints) :
    Ends kept (do combine node sets (← walk))
      (Grows document path entered broken admitted sets) := by
  refine hw.bind fun found => (ends_combine hk node sets found).mono ?_
  intro result hresult hfound set hset
  obtain ⟨left, hleft, right, hright, hi⟩ := hresult set hset
  exact ⟨left, hleft, [part], h, .singleton (hfound right hright) hi⟩

/-- The demands of a node itself come from that node alone. -/
theorem ends_ownDemands (hk : Steady document path region entered broken kept) (node : Pointer) :
    Ends kept (ownDemands document node) (Owns document node) := by
  have hread : Ends kept (liftM (Constraints.ofSchema document node) : Walk Constraints)
      fun set => Constraints.ofSchema document node = .ok set :=
    ends_lift fun set hset => hset
  unfold ownDemands
  refine hread.bind fun set => ?_
  split
  · rename_i negated hn
    have howns (hset : Constraints.ofSchema document node = .ok set) :
        Owns document node
          { set with excluded := set.excluded ++ listedValues document negated } :=
      ⟨set, hset, by simp [negatedValues, hn]⟩
    unfold applyNot
    dsimp only
    split
    · exact (ends_note hk _ _ _).andThen fun _ => ends_pure howns
    · exact ends_pure howns
  · rename_i hn
    exact ends_pure fun hset => ⟨set, hset, by simp [negatedValues, hn]⟩

/-- Behind a reference each set is met with an alternative of the target, if there is a walk into
it. -/
theorem ends_withReference (hk : Steady document path region entered broken kept)
    {active : List Pointer} {node : Pointer} (hv : region ⟨active, node⟩)
    {walk : (target : Pointer) → target ∈ document.targets → target ∉ active →
      Walk (List Constraints)}
    (hw : ∀ target ht ha, region ⟨target :: active, target⟩ → Ends kept (walk target ht ha)
      (AreAlternatives document path entered broken ⟨target :: active, target⟩))
    (sets : List Constraints) :
    Ends kept (withReference document path active node walk sets)
      (Grows document path entered broken
        (Referenced document path entered broken ⟨active, node⟩) sets) := by
  unfold withReference
  split
  · exact ends_throw
  · rename_i hr
    exact ends_unchanged _ (.none hr) sets
  · rename_i reference hr
    split
    · exact ends_throw
    · rename_i target ht
      split
      · -- A target that is open leaves the sets as they are, and the report says so.
        rename_i hopen
        refine (ends_cycleBroken hk node _).bind fun _ => ?_
        exact ends_pure fun hb set hset => ⟨set, hset, [], .broken hr ht hopen hb, .nil⟩
      · rename_i hclosed
        have henters : Enters document path active node target :=
          ⟨reference, hr, ht, fun h => hclosed (.inl h), fun h => hclosed (.inr h)⟩
        have hregion := hk.closed _ _ hv (.inl (.reference henters))
        refine (ends_enter hk ⟨active, node⟩ hv henters).bind fun _ => ?_
        refine (hw target _ _ hregion).bind fun found => (ends_combine hk node sets found).mono ?_
        intro result hresult hfound hentered set hset
        obtain ⟨left, hleft, right, hright, hi⟩ := hresult set hset
        exact ⟨left, hleft, _, .target henters hentered, .singleton (hfound right hright) hi⟩

/-- Each member of a list is met with what the members before it have left. -/
theorem ends_foldlM (hk : Steady document path region entered broken kept) (node : Pointer)
    {active : List Pointer} {among : List Pointer}
    {walk : (member : Pointer) → member ∈ among → Walk (List Constraints)}
    (hw : ∀ member hm, Ends kept (walk member hm)
      (AreAlternatives document path entered broken ⟨active, member⟩))
    (list : List { member // member ∈ among }) (sets : List Constraints) :
    Ends kept
      (list.foldlM (fun sets member => do combine node sets (← walk member.1 member.2)) sets)
      (Grows document path entered broken (· = list.map fun member => ⟨active, member.1⟩)
        sets) := by
  induction list generalizing sets with
  | nil => exact ends_unchanged (· = []) rfl sets
  | cons first rest ih =>
    rw [List.foldlM_cons]
    refine (ends_combined hk (· = [⟨active, first.1⟩]) rfl
      (hw first.1 first.2) sets).bind fun middle => ?_
    refine (ih middle).mono fun result hresult hmiddle set hset => ?_
    obtain ⟨between, hbetween, parts, rfl, hrest⟩ := hresult set hset
    obtain ⟨left, hleft, parts, rfl, hfirst⟩ := hmiddle between hbetween
    exact ⟨left, hleft, _, rfl, hfirst.append hrest⟩

theorem ends_withMembers (hk : Steady document path region entered broken kept)
    {active : List Pointer} {node : Pointer} (keyword : String)
    {walk : (member : Pointer) → member ∈ document.subschemas node keyword →
      Walk (List Constraints)}
    (hw : ∀ member hm, Ends kept (walk member hm)
      (AreAlternatives document path entered broken ⟨active, member⟩))
    (sets : List Constraints) :
    Ends kept (withMembers document node keyword walk sets)
      (Grows document path entered broken (· = membersOf document keyword ⟨active, node⟩)
        sets) := by
  have hmembers : (document.subschemas node keyword).attach.map
      (fun member => (⟨active, member.1⟩ : Visit)) = membersOf document keyword ⟨active, node⟩ :=
    List.attach_map_val (f := Visit.mk active)
  have hfold := ends_foldlM hk node hw (document.subschemas node keyword).attach sets
  rwa [hmembers] at hfold

theorem ends_withChild (hk : Steady document path region entered broken kept)
    {active : List Pointer} {node : Pointer} (keyword : String)
    {walk : (child : Pointer) → document.subschema? node keyword = some child →
      Walk (List Constraints)}
    (hw : ∀ child hc, Ends kept (walk child hc)
      (AreAlternatives document path entered broken ⟨active, child⟩))
    (sets : List Constraints) :
    Ends kept (withChild document node keyword walk sets)
      (Grows document path entered broken (· = childOf document keyword ⟨active, node⟩) sets) := by
  unfold withChild
  split
  · rename_i child hc
    exact ends_combined hk _ (by simp [childOf, hc]) (hw child hc) sets
  · rename_i hc
    exact ends_unchanged _ (by simp [childOf, hc]) sets

theorem ends_withConsequence (hk : Steady document path region entered broken kept)
    {active : List Pointer} {node : Pointer}
    {walk : (child : Pointer) → document.subschema? node "then" = some child →
      Walk (List Constraints)}
    (hw : ∀ child hc, Ends kept (walk child hc)
      (AreAlternatives document path entered broken ⟨active, child⟩))
    (sets : List Constraints) :
    Ends kept (withConsequence document node walk sets)
      (Grows document path entered broken (· = childOf document "then" ⟨active, node⟩) sets) := by
  have hthen := ends_withChild hk "then" hw sets
  unfold withConsequence
  cases (document.keyword? node "if").isSome with
  | true => exact (ends_note hk _ _ _).andThen fun _ => hthen
  | false => exact hthen

/-- Each set is met with an alternative of one branch. -/
theorem ends_withBranches (hk : Steady document path region entered broken kept)
    {active : List Pointer} {node : Pointer} (keyword : String)
    {walk : (branch : Pointer) → branch ∈ document.subschemas node keyword →
      Walk (List Constraints)}
    (hw : ∀ branch hb, Ends kept (walk branch hb)
      (AreAlternatives document path entered broken ⟨active, branch⟩))
    (sets : List Constraints) :
    Ends kept (withBranches document node keyword walk sets)
      (Grows document path entered broken (Chosen document keyword ⟨active, node⟩) sets) := by
  have hattempts : Ends kept
      ((document.subschemas node keyword).attach.mapM fun branch =>
        attempt (walk branch.1 branch.2)) fun results =>
      ∀ outcome ∈ results, ∀ found, outcome = .ok found →
        ∃ branch ∈ document.subschemas node keyword,
          AreAlternatives document path entered broken ⟨active, branch⟩ found := by
    refine Ends.mapM fun branch => ?_
    refine (ends_attempt (hw branch.1 branch.2)).mono fun outcome h found hf => ?_
    exact ⟨branch.1, branch.2, h found hf⟩
  unfold withBranches
  cases hempty : (document.subschemas node keyword).isEmpty with
  | true => exact ends_unchanged _ (.none (List.isEmpty_iff.mp hempty)) sets
  | false =>
    refine hattempts.bind fun results => ?_
    have hjoin : Ends kept
        (liftM (branchAlternatives node keyword results) : Walk (List Constraints)) fun joined =>
        ∀ set ∈ joined, ∃ found, .ok found ∈ results ∧ set ∈ found :=
      ends_lift fun joined hjoined set hset => mem_branchAlternatives hjoined hset
    refine hjoin.bind fun joined => (ends_combine hk node sets joined).mono ?_
    intro result hresult hmem hfound set hset
    obtain ⟨left, hleft, right, hright, hi⟩ := hresult set hset
    obtain ⟨found, hf, hin⟩ := hmem right hright
    obtain ⟨branch, hb, halternatives⟩ := hfound _ hf found rfl
    exact ⟨left, hleft, _, .branch hb, .singleton (halternatives right hin) hi⟩

end Walks

/-! ### Schemas -/

section Schemas

variable {document : Document} {path : List Pointer} {region : Visit → Prop}
variable {entered broken : Pointer → Prop} {kept : Notes → Prop}

/-- A walk over a schema gives alternatives of it. -/
theorem ends_alternatives (hk : Steady document path region entered broken kept)
    (active : List Pointer) (node : Pointer) (hv : region ⟨active, node⟩) :
    Ends kept (alternatives document path active node)
      (AreAlternatives document path entered broken ⟨active, node⟩) := by
  rw [alternatives]
  split
  · rename_i htrue
    refine ends_pure fun set hset => ?_
    rw [List.mem_singleton.mp hset]
    exact .any htrue
  · exact ends_throw
  · rename_i members hmembers
    have hbranch {keyword : String} {branch : Pointer} (hkeyword : keyword ∈ ["anyOf", "oneOf"])
        (hb : branch ∈ document.subschemas node keyword) : region ⟨active, branch⟩ :=
      hk.closed _ _ hv (.inr ⟨rfl, keyword, hkeyword, hb⟩)
    refine (ends_ownDemands hk node).bind fun own => ?_
    refine (ends_withReference hk hv (fun target _ _ ht =>
      ends_alternatives hk (target :: active) target ht) [own]).bind fun sets₁ => ?_
    refine (ends_withMembers hk "allOf" (fun member hm =>
      ends_alternatives hk active member (hk.closed _ _ hv (.inl (.member hm))))
      sets₁).bind fun sets₂ => ?_
    refine (ends_withConsequence hk (fun child hc =>
      ends_alternatives hk active child (hk.closed _ _ hv (.inl (.consequence hc))))
      sets₂).bind fun sets₃ => ?_
    refine (ends_withBranches hk "anyOf" (fun branch hb =>
      ends_alternatives hk active branch (hbranch (by decide) hb)) sets₃).bind fun sets₄ => ?_
    refine (ends_withBranches hk "oneOf" (fun branch hb =>
      ends_alternatives hk active branch (hbranch (by decide) hb)) sets₄).mono ?_
    -- Each step has kept where a set comes from; read backwards, they give the parts in order.
    intro result h5 h4 h3 h2 h1 hown set hset
    obtain ⟨s4, hs4, ones, hones, c5⟩ := h5 set hset
    obtain ⟨s3, hs3, anys, hanys, c4⟩ := h4 s4 hs4
    obtain ⟨s2, hs2, _, rfl, c3⟩ := h3 s3 hs3
    obtain ⟨s1, hs1, _, rfl, c2⟩ := h2 s2 hs2
    obtain ⟨s0, hs0, references, hreferences, c1⟩ := h1 s1 hs1
    obtain rfl := List.mem_singleton.mp hs0
    exact .object hmembers hown (.mk hreferences hanys hones)
      ((((c1.append c2).append c3).append c4).append c5)
  · exact ends_throw
termination_by (document.unvisited active, sizeOf (document.fragment node))
decreasing_by
  · exact .left _ _ (Document.unvisited_cons_lt ‹_› ‹_›)
  · exact .right _ (Document.sizeOf_fragment_subschemas_lt ‹_›)
  · exact .right _ (Document.sizeOf_fragment_subschema_lt ‹_›)
  · exact .right _ (Document.sizeOf_fragment_subschemas_lt ‹_›)
  · exact .right _ (Document.sizeOf_fragment_subschemas_lt ‹_›)

/-- A settled set of demands is an alternative of a schema. -/
def Settles (document : Document) (path : List Pointer) (entered broken : Pointer → Prop)
    (node : Pointer) (set : Constraints) : Prop :=
  ∃ raw, Alternative document path entered broken ⟨[], node⟩ raw ∧ raw.finalize = .ok set

/-- The settled sets of a node are made of its own demands and those of its parts. -/
theorem ends_settledDemands (hk : Steady document path region entered broken kept) (node : Pointer)
    (hv : region ⟨[], node⟩) :
    Ends kept (settledDemands document path node) fun demands =>
      ∀ set ∈ demands.sets, Settles document path entered broken node set := by
  refine (ends_alternatives hk [] node hv).bind fun sets => ?_
  refine ends_lift fun demands hd hsets set hset => ?_
  obtain ⟨raw, hraw, hfinal⟩ := mem_sets_of_settle hd hset
  exact ⟨raw, hsets raw hraw, hfinal⟩

theorem ends_demandsOn (hk : Steady document path region entered broken kept) (node : Pointer)
    (hv : region ⟨[], node⟩) :
    Ends kept (demandsOn document path node) fun demands =>
      ∀ set ∈ demands.sets, Settles document path entered broken node set := by
  rw [demandsOn_eq]
  split
  · exact ends_throw
  · exact ends_settledDemands hk node hv
  · split
    · exact ends_throw
    · split
      · exact ends_pure fun set hset => absurd hset List.not_mem_nil
      · exact ends_settledDemands hk node hv

end Schemas

/-! ### Normalizing -/

section Normalizing

variable {document : Document} {path : List Pointer} {node : Pointer} {report : Report}

/-- Having noted anything that is not in a list of targets or in a report is final. -/
theorem steady_escapes (targets : List Pointer) (final : Report) :
    Steady document path (fun _ => True) (· ∈ targets)
      (fun node => final.Lists .cycleBroken node.text) fun notes =>
        (∃ target ∈ notes.entered, target ∉ targets) ∨
          ∃ place, notes.report.Lists .cycleBroken place ∧ ¬final.Lists .cycleBroken place where
  closed _ _ _ _ := trivial
  note _ _ _ _ h := h.imp_right fun ⟨place, hlists, hnot⟩ => ⟨place, hlists.record, hnot⟩
  cut _ _ h := h
  enter _ _ _ _ _ h :=
    h.imp_left fun ⟨target, htarget, hnot⟩ => ⟨target, List.mem_append_left _ htarget, hnot⟩
  entered _ target := by
    by_cases h : target ∈ targets
    · exact .inr h
    · exact .inl (.inl ⟨target, List.mem_append_right _ (List.mem_singleton_self target), h⟩)
  broken _ node _ := by
    by_cases h : final.Lists .cycleBroken node.text
    · exact .inr h
    · exact .inl (.inr ⟨node.text, Report.lists_record_self, h⟩)

/-- **What demands are made of.** Each set of demands of a schema is an alternative of it, settled.
The references that it leads through were entered, and for those that it leaves open the report
lists a broken cycle. -/
theorem exists_alternative {normalization : Normalization}
    (h : (normalize document path node report).1 = .ok normalization) :
    ∀ set ∈ normalization.demands.sets,
      Settles document path (· ∈ normalization.entered)
        (fun holder => (normalize document path node report).2.Lists .cycleBroken holder.text)
        node set := by
  unfold normalize at h ⊢
  cases hwalk : demandsOn document path node ⟨[], report, 0⟩ with
  | mk result notes =>
    have hends := (ends_demandsOn (@steady_escapes document path notes.entered notes.report) node
      trivial ⟨[], report, 0⟩).2
    rw [hwalk] at h hends
    cases result with
    | error error => cases h
    | ok demands =>
      cases h
      -- Lists and report are those of this walk itself, so nothing can have been noted beside them.
      refine (hends demands rfl).resolve_left fun hescapes => ?_
      rcases hescapes with ⟨target, htarget, hnot⟩ | ⟨place, hlists, hnot⟩
      · exact hnot htarget
      · exact hnot hlists

end Normalizing

end Normalization

end Specimen
