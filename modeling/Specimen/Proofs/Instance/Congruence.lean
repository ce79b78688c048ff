import Specimen.Proofs.Constraint.Children
import Specimen.Proofs.Instance.Value

/-!
# Specimen.Proofs.Instance.Congruence

Two runs that differ only in their limits and their documents (`Setting.elsewhere`).

Neither the greatest depth nor the budget matters to a generator, and nothing of the document but
which properties it rules out (`optionalNames`): otherwise they only matter to the function that
produces the values for the schemas below. So whatever relates two such functions also relates what
a generator makes of them, if it respects the ways in which parts of a run are put together
(`Congruent`). There is one lemma for each generator, up to `related_ofConstraints`; what a run does
with its limits and its document is left to the relation.
-/

namespace Specimen.Instance

variable {σ α β : Type}

/-- The same setting with other limits. -/
def Setting.withLimits (setting : Setting σ) (maxDepth : Nat) (nodeBudget : Option Nat) :
    Setting σ :=
  { setting with options := { setting.options with maxDepth, nodeBudget } }

/-- The same setting for another document and with other limits. -/
def Setting.elsewhere (setting : Setting σ) (document : Document) (maxDepth : Nat)
    (nodeBudget : Option Nat) : Setting σ :=
  { setting with document, options := { setting.options with maxDepth, nodeBudget } }

theorem Setting.library_elsewhere (setting : Setting σ) (document : Document) (maxDepth : Nat)
    (nodeBudget : Option Nat) :
    (setting.elsewhere document maxDepth nodeBudget).library = setting.library := rfl

/-- A relation between parts of two runs that respects how parts are put together. -/
structure Congruent (related : (α : Type) → Run σ α → Run σ α → Prop) : Prop where
  attempt : ∀ (α : Type) (attempt : Attempt σ α),
    related α (Run.attempt attempt) (Run.attempt attempt)
  record : ∀ (code : IssueCode) (node : Pointer) (message : String),
    related Unit (record code node message) (record code node message)
  bind : ∀ {α β : Type} {part other : Run σ α} {next following : α → Run σ β},
    related α part other → (∀ a, related β (next a) (following a)) →
      related β (part >>= next) (other >>= following)

variable {related : (α : Type) → Run σ α → Run σ α → Prop}

namespace Congruent

/-- A value is related to itself. -/
theorem pure (hr : Congruent related) (a : α) : related α (pure a) (pure a) :=
  hr.attempt α (Pure.pure a)

theorem throw (hr : Congruent related) (error : Failure) :
    related α (MonadExcept.throw error) (MonadExcept.throw error) :=
  hr.attempt α (MonadExcept.throw error)

/-- The same draw is related to itself. -/
theorem draw (hr : Congruent related) (draw : Random.Draw σ α) :
    related α (Run.draw draw) (Run.draw draw) :=
  hr.attempt α (Attempt.draw draw)

/-- A function may be applied to what related parts give. -/
theorem map (hr : Congruent related) {part other : Run σ α} (h : related α part other)
    (f : α → β) : related β (f <$> part) (f <$> other) := by
  rw [map_eq_pure_bind, map_eq_pure_bind]
  exact hr.bind h fun a => hr.pure (f a)

end Congruent

variable {set : Constraints} {setting : Setting σ} {maxDepth : Nat} {nodeBudget : Option Nat}
variable {document : Document}

/-! ### Texts -/

section Texts

variable [Random.Source σ]

omit [Random.Source σ] in
theorem related_patterned (hr : Congruent related) (setting : Setting σ) (set : Constraints)
    (pattern : String) (lo hi : Nat) :
    related _ (patterned setting set pattern lo hi) (patterned setting set pattern lo hi) := by
  unfold patterned
  split
  · exact hr.bind (hr.record _ _ _) fun _ => hr.pure _
  · refine hr.bind (hr.draw _) fun (isFitting, text) => ?_
    dsimp only
    split
    · exact hr.pure _
    · exact hr.bind (hr.record _ _ _) fun _ => hr.pure _

omit [Random.Source σ] in
theorem related_formatted (hr : Congruent related) (setting : Setting σ) (set : Constraints)
    (format : String) (lo hi : Nat) :
    related _ (formatted setting set format lo hi) (formatted setting set format lo hi) := by
  unfold formatted
  split
  · refine hr.bind (hr.draw _) fun text? => ?_
    split
    · exact hr.pure _
    · exact hr.bind (hr.record _ _ _) fun _ => hr.pure _
  · exact hr.bind (hr.record _ _ _) fun _ => hr.pure _

omit [Random.Source σ] in
theorem related_meaningful (hr : Congruent related) (setting : Setting σ) (set : Constraints)
    (property : Option String) (lo hi : Nat) :
    related _ (meaningful setting set property lo hi)
      (meaningful setting set property lo hi) := by
  unfold meaningful
  split
  · exact related_patterned hr _ _ _ _ _
  · exact related_formatted hr _ _ _ _ _
  · split
    · exact hr.draw _
    · exact hr.pure _

/-- Texts do not depend on the document and its limits. -/
theorem related_string (hr : Congruent related) (setting : Setting σ) (set : Constraints)
    (property : Option String) :
    related _ (string setting set property) (string setting set property) := by
  unfold string
  refine hr.bind (hr.attempt _ _) fun (lo, hi) => ?_
  refine hr.bind (related_meaningful hr setting set property lo hi) fun text? => ?_
  split
  · exact hr.pure _
  · exact hr.draw _

end Texts

/-! ### Arrays -/

section Arrays

variable {child other : Pointer → Run σ Json}

/-- An element is that of its schema, if there is one. -/
theorem related_element (hr : Congruent related) {place : Option Pointer}
    (hc : ∀ node, place = some node → related _ (child node) (other node)) :
    related _ (element child place) (element other place) := by
  cases place with
  | none => exact hr.pure _
  | some node => exact hc node rfl

/-- Related draws repeat in the same way. -/
theorem related_distinct (hr : Congruent related) {draw again : Run σ Json}
    (hd : related _ draw again) (known : List String) (item : Json) (attempts : Nat) :
    related _ (distinct known draw item attempts) (distinct known again item attempts) := by
  induction attempts generalizing item with
  | zero => exact hr.pure _
  | succ attempts ih =>
    unfold distinct
    by_cases hknown : known.contains item.text = true
    · rw [if_pos hknown, if_pos hknown]
      exact hr.bind hd fun next => ih next
    · rw [if_neg hknown, if_neg hknown]
      exact hr.pure _

theorem related_itemFrom (hr : Congruent related) {draw again : Run σ Json}
    (hd : related _ draw again) (set : Constraints) (known : List String) :
    related _ (itemFrom setting.options set known draw)
      (itemFrom (setting.elsewhere document maxDepth nodeBudget).options set known again) := by
  unfold itemFrom
  by_cases hunique : set.uniqueItems = true
  · rw [if_pos hunique, if_pos hunique]
    refine hr.bind hd fun first => ?_
    refine hr.bind (related_distinct hr hd known first _) fun item => ?_
    split
    · exact hr.bind (hr.record _ _ _) fun _ => hr.pure _
    · exact hr.pure _
  · rw [if_neg hunique, if_neg hunique]
    exact hd

/-- Lists are related element by element. -/
theorem related_items (hr : Congruent related)
    (hc : ∀ node, set.IsChild node → related _ (child node) (other node))
    (containsAt : Option Nat) (known : List String) (index count : Nat) :
    related _ (items setting.options set child containsAt known index count)
      (items (setting.elsewhere document maxDepth nodeBudget).options set other containsAt known
        index count) := by
  induction count generalizing known index with
  | zero => exact hr.pure _
  | succ count ih =>
    have hdraw : related _ (element child (schemaAt? set containsAt index))
        (element other (schemaAt? set containsAt index)) :=
      related_element hr fun node hn => hc node (isChild_of_schemaAt? hn)
    refine hr.bind (related_itemFrom hr hdraw set known) fun item => ?_
    exact hr.bind (ih _ (index + 1)) fun rest => hr.pure _

variable [Random.Source σ]

theorem related_lengthWithin (hr : Congruent related) (least greatest : Nat) :
    related _ (lengthWithin least greatest) (lengthWithin least greatest) := by
  unfold lengthWithin
  split
  · exact hr.pure _
  · exact hr.draw _

theorem related_containsPosition (hr : Congruent related) (set : Constraints) (length : Nat) :
    related _ (containsPosition set length) (containsPosition set length) := by
  unfold containsPosition
  split
  · exact hr.map (hr.draw _) some
  · exact hr.pure _

/-- Arrays are related if their elements are. -/
theorem related_array (hr : Congruent related)
    (hc : ∀ node, set.IsChild node → related _ (child node) (other node)) :
    related _ (array setting.options set child)
      (array (setting.elsewhere document maxDepth nodeBudget).options set other) := by
  unfold array
  refine hr.bind (hr.attempt _ _) fun (least, greatest) => ?_
  refine hr.bind (related_lengthWithin hr least greatest) fun length => ?_
  refine hr.bind (related_containsPosition hr set length) fun containsAt => ?_
  exact related_items hr hc containsAt [] 0 length

end Arrays

/-! ### Objects -/

section Objects

variable [Random.Source σ] {child other : Pointer → Option String → Run σ Json}

/-- The value of a property is that of its schema, or one that no schema describes. -/
theorem related_propertyValue (hr : Congruent related)
    (hc : ∀ node, set.IsChild node → ∀ property,
      related _ (child node property) (other node property)) (name : String) :
    related _ (propertyValue setting set child name)
      (propertyValue (setting.elsewhere document maxDepth nodeBudget) set other name) := by
  unfold propertyValue
  rw [Setting.library_elsewhere]
  cases hm : memberSchema? setting.library set name with
  | some node => exact hc node (isChild_of_memberSchema? hm) (some name)
  | none =>
    dsimp only
    split
    · exact hr.bind (hr.record _ _ _) fun _ => hr.draw _
    · exact hr.draw _

/-- Properties are related one after the other. -/
theorem related_addProperties (hr : Congruent related)
    (hc : ∀ node, set.IsChild node → ∀ property,
      related _ (child node property) (other node property))
    (names : List String) (members : NameTable Json) :
    related _ (addProperties setting set child names members)
      (addProperties (setting.elsewhere document maxDepth nodeBudget) set other names members) := by
  induction names generalizing members with
  | nil => exact hr.pure _
  | cons name rest ih => exact hr.bind (related_propertyValue hr hc name) fun value => ih _

theorem related_patternedProperty (hr : Congruent related)
    (hc : ∀ node, set.IsChild node → ∀ property,
      related _ (child node property) (other node property)) (members : NameTable Json) :
    related _ (patternedProperty setting set child members)
      (patternedProperty (setting.elsewhere document maxDepth nodeBudget) set other members) := by
  unfold patternedProperty
  refine hr.bind (hr.draw _) fun index => ?_
  cases hentry : set.patternProperties[index]? with
  | none => exact hr.pure _
  | some entry =>
    obtain ⟨pattern, node⟩ := entry
    have hnode : set.IsChild node := .pattern pattern (List.mem_of_getElem? hentry)
    dsimp only [Setting.elsewhere]
    cases setting.library.samples? pattern setting.options.patternMaxRepeat with
    | none => exact hr.bind (hr.record _ _ _) fun _ => hr.pure _
    | some sample =>
      refine hr.bind (hr.draw _) fun name => ?_
      by_cases htaken : isTaken set members name = true
      · rw [if_pos htaken, if_pos htaken]
        exact hr.pure _
      · rw [if_neg htaken, if_neg htaken]
        exact hr.bind (hc node hnode (some name)) fun value => hr.pure _

/-- Names are made up by a schema that is a child, or by the provider. -/
theorem related_madeUpName (hr : Congruent related)
    (hc : ∀ node, set.IsChild node → ∀ property,
      related _ (child node property) (other node property)) :
    related _ (madeUpName setting set child)
      (madeUpName (setting.elsewhere document maxDepth nodeBudget) set other) := by
  unfold madeUpName
  cases hn : set.propertyNames with
  | some node => exact hr.bind (hc node (.propertyName hn) none) fun value => hr.pure _
  | none => exact hr.bind (hr.draw _) fun word => hr.pure _

theorem related_madeUpProperty (hr : Congruent related)
    (hc : ∀ node, set.IsChild node → ∀ property,
      related _ (child node property) (other node property)) (members : NameTable Json) :
    related _ (madeUpProperty setting set child members)
      (madeUpProperty (setting.elsewhere document maxDepth nodeBudget) set other members) := by
  unfold madeUpProperty
  refine hr.bind (related_madeUpName hr hc) fun name => ?_
  rw [Setting.library_elsewhere]
  by_cases hname :
      (name.isEmpty || isTaken set members name ||
        (patternSchema? setting.library set name).isSome) = true
  · rw [if_pos hname, if_pos hname]
    exact hr.pure _
  · rw [if_neg hname, if_neg hname]
    cases hs : set.additionalProperties.schema? with
    | some node =>
      have hnode : set.IsChild node := .additional (Extra.schema?_eq_some.mp hs)
      exact hr.bind (hc node hnode (some name)) fun value => hr.pure _
    | none => exact hr.bind (hr.draw _) fun value => hr.pure _

theorem related_choosesPattern (hr : Congruent related) (set : Constraints) (isNeeded : Bool) :
    related _ (choosesPattern set isNeeded) (choosesPattern set isNeeded) := by
  unfold choosesPattern
  split
  · exact hr.pure _
  · split
    · exact hr.draw _
    · exact hr.pure _

/-- The next attempt is only made where the last one has failed in both runs. -/
theorem related_extraProperty (hr : Congruent related)
    (hc : ∀ node, set.IsChild node → ∀ property,
      related _ (child node property) (other node property))
    (isNeeded : Bool) (members : NameTable Json) (attempts : Nat) :
    related _ (extraProperty setting set child isNeeded members attempts)
      (extraProperty (setting.elsewhere document maxDepth nodeBudget) set other isNeeded members
        attempts) := by
  induction attempts with
  | zero => exact hr.pure _
  | succ attempts ih =>
    unfold extraProperty
    refine hr.bind (related_choosesPattern hr set isNeeded) fun usesPattern => ?_
    have htry : related _ (tryProperty setting set child usesPattern members)
        (tryProperty (setting.elsewhere document maxDepth nodeBudget) set other usesPattern
          members) := by
      cases usesPattern with
      | true => exact related_patternedProperty hr hc members
      | false => exact related_madeUpProperty hr hc members
    by_cases hstuck : (!usesPattern && !permitsMadeUp set isNeeded) = true
    · rw [if_pos hstuck, if_pos hstuck]
      exact hr.pure _
    · rw [if_neg hstuck, if_neg hstuck]
      refine hr.bind htry fun property? => ?_
      cases property? with
      | some property => exact hr.pure _
      | none => exact ih

theorem related_addExtras (hr : Congruent related)
    (hc : ∀ node, set.IsChild node → ∀ property,
      related _ (child node property) (other node property))
    (isNeeded : Bool) (count : Nat) (members : NameTable Json) :
    related _ (addExtras setting set child isNeeded count members)
      (addExtras (setting.elsewhere document maxDepth nodeBudget) set other isNeeded count
        members) := by
  induction count generalizing members with
  | zero => exact hr.pure _
  | succ count ih =>
    refine hr.bind (related_extraProperty hr hc isNeeded members _) fun property? => ?_
    cases property? with
    | some property => exact ih _
    | none => exact hr.pure _

/-- Objects are related if their properties are, for the same names. -/
theorem related_objectWith (hr : Congruent related)
    (hc : ∀ node, set.IsChild node → ∀ property,
      related _ (child node property) (other node property)) (names : NameSet) :
    related _ (objectWith setting set child names)
      (objectWith (setting.elsewhere document maxDepth nodeBudget) set other names) := by
  have hinvited (options : Options) :
      related _ (invitedExtras set options) (invitedExtras set options) := by
    unfold invitedExtras
    split
    · exact hr.draw _
    · exact hr.pure _
  unfold objectWith
  refine hr.bind (related_addProperties hr hc names.toList ∅) fun members => ?_
  refine hr.bind (hinvited setting.options) fun invited => ?_
  refine hr.bind (related_addExtras hr hc _ _ members) fun result => ?_
  dsimp only
  split
  · exact hr.bind (hr.attempt _ _) fun _ => hr.pure _
  · exact hr.pure _

/-- The names that are chosen are the same as well, if the optional ones are. -/
theorem related_object (hr : Congruent related)
    (hnames : optionalNames setting.document set = optionalNames document set)
    (hc : ∀ node, set.IsChild node → ∀ property,
      related _ (child node property) (other node property)) :
    related _ (object setting set child)
      (object (setting.elsewhere document maxDepth nodeBudget) set other) := by
  have hchoose (probability : Double) : (chooseNames setting.document set probability :
      Attempt σ NameSet) = chooseNames document set probability := by
    unfold chooseNames
    rw [hnames]
  unfold object
  rw [hchoose]
  exact hr.bind (hr.attempt _ _) fun names => related_objectWith hr hc names

/-! ### Values for demands -/

/-- Every kind of value is related; only the optional names depend on the document. -/
theorem related_ofKind (hr : Congruent related)
    (hnames : optionalNames setting.document set = optionalNames document set)
    (hc : ∀ node, set.IsChild node → ∀ property,
      related _ (child node property) (other node property))
    (property : Option String) (kind : Kind) :
    related _ (ofKind setting set property child kind)
      (ofKind (setting.elsewhere document maxDepth nodeBudget) set property other kind) := by
  cases kind with
  | null => exact hr.pure _
  | boolean => exact hr.bind (hr.draw _) fun _ => hr.pure _
  | integer => exact hr.bind (hr.attempt _ _) fun _ => hr.pure _
  | number => exact hr.bind (hr.attempt _ _) fun _ => hr.pure _
  | string => exact hr.bind (related_string hr setting set property) fun _ => hr.pure _
  | array =>
    exact hr.bind (related_array hr fun node hn => hc node hn none) fun _ =>
      hr.pure _
  | object => exact hr.bind (related_object hr hnames hc) fun _ => hr.pure _
  | unknown => exact hr.draw _

/-- A pick from the same list is related to itself. -/
theorem related_pick (hr : Congruent related) (items : List α) :
    related _ (pick items) (pick items) := by
  unfold pick
  refine hr.bind (hr.draw _) fun index => ?_
  split
  · exact hr.pure _
  · exact hr.throw _

/-- Draws are repeated until a value is admissible, by the same test in both runs. -/
theorem related_drawAdmissible (hr : Congruent related)
    (hnames : optionalNames setting.document set = optionalNames document set)
    (hc : ∀ node, set.IsChild node → ∀ property,
      related _ (child node property) (other node property))
    (property : Option String) (last : Json) (attempts : Nat) :
    related _ (drawAdmissible setting set property child last attempts)
      (drawAdmissible (setting.elsewhere document maxDepth nodeBudget) set property other last
        attempts) := by
  induction attempts generalizing last with
  | zero => exact hr.bind (hr.record _ _ _) fun _ => hr.pure _
  | succ attempts ih =>
    unfold drawAdmissible
    refine hr.bind (related_pick hr set.kinds.kinds) fun kind => ?_
    refine hr.bind (related_ofKind hr hnames hc property kind) fun value => ?_
    by_cases hexcluded : Json.contains set.excluded value = true
    · rw [if_pos hexcluded, if_pos hexcluded]
      exact ih value
    · rw [if_neg hexcluded, if_neg hexcluded]
      exact hr.pure _

/-- What is made of related values for the schemas below is related. -/
theorem related_ofConstraints (hr : Congruent related)
    (hnames : optionalNames setting.document set = optionalNames document set)
    (hc : ∀ node, set.IsChild node → ∀ property,
      related _ (child node property) (other node property)) (property : Option String) :
    related _ (ofConstraints setting set property child)
      (ofConstraints (setting.elsewhere document maxDepth nodeBudget) set property other) := by
  unfold ofConstraints
  cases set.candidates with
  | some candidates => exact related_pick hr candidates
  | none => exact related_drawAdmissible hr hnames hc property .null _

end Objects

end Specimen.Instance
