import Specimen.Proofs.Normalization.Equations
import Specimen.Proofs.Outcome
import Specimen.Proofs.Report

/-!
# Specimen.Proofs.Normalization.Independence

What the demands of a schema do not depend on.

They do not depend on the way to it, as long as no reference had to be left unconstrained
(`demandsOn_cases`): the path enters a walk in one place only, where a reference leads back to a
target on it, and there the walk records a broken cycle. Nor do they depend on what was recorded
before (`normalize_echoes`): a walk only ever adds to its notes.

`Agrees` states both of two walks: they give the same and note the same, unless in the end the first
one has recorded something, and no part of it takes that back.
-/

namespace Specimen.Normalization

/-! ### Walks that agree -/

section Walks

variable {α β : Type} {walk other : Walk α} {next otherNext : α → Walk β}
variable {kept : Report → Prop} {same : Notes → Notes → Prop}

/-- A property of one report and a relation between the notes of two walks, neither of which is lost
when both walks note the same. -/
structure Lasting (kept : Report → Prop) (same : Notes → Notes → Prop) : Prop where
  keep : ∀ report code path message, kept report → kept (report.record code path message)
  note : ∀ notes other code path message, same notes other →
    same { notes with report := notes.report.record code path message }
      { other with report := other.report.record code path message }
  enter : ∀ notes other target, same notes other →
    same { notes with entered := notes.entered ++ [target] }
      { other with entered := other.entered ++ [target] }
  cut : ∀ notes other cuts otherCuts, same notes other →
    same { notes with cuts := cuts } { other with cuts := otherCuts }

/-- Two walks that start with related notes give the same and end with related notes, unless the
report of the first one has a property in the end; and the first one does not lose that property. -/
def Agrees (kept : Report → Prop) (same : Notes → Notes → Prop) (walk other : Walk α) : Prop :=
  ∀ notes otherNotes,
    (kept notes.report → kept (walk notes).2.report) ∧
    (same notes otherNotes → kept (walk notes).2.report ∨
      ((walk notes).1 = (other otherNotes).1 ∧ same (walk notes).2 (other otherNotes).2))

/-- A result that is there already does not depend on the notes. -/
theorem agrees_lift (result : Except SchemaError α) :
    Agrees kept same (liftM result : Walk α) (liftM result) :=
  fun _ _ => ⟨fun h => h, fun h => .inr ⟨rfl, h⟩⟩

theorem agrees_pure (a : α) : Agrees kept same (pure a) (pure a) :=
  fun _ _ => ⟨fun h => h, fun h => .inr ⟨rfl, h⟩⟩

theorem agrees_throw (error : SchemaError) :
    Agrees kept same (throw error : Walk α) (throw error) :=
  fun _ _ => ⟨fun h => h, fun h => .inr ⟨rfl, h⟩⟩

/-- Both walks note the same issue. -/
theorem agrees_note (hl : Lasting kept same) (code : IssueCode) (node : Pointer)
    (message : String) : Agrees kept same (note code node message) (note code node message) :=
  fun _ _ => ⟨hl.keep _ _ _ _, fun h => .inr ⟨rfl, hl.note _ _ _ _ _ h⟩⟩

theorem agrees_enter (hl : Lasting kept same) (target : Pointer) :
    Agrees kept same (enter target) (enter target) :=
  fun _ _ => ⟨fun h => h, fun h => .inr ⟨rfl, hl.enter _ _ _ h⟩⟩

/-- Where a record of a broken cycle gives the property, it lets a walk agree with every other one.
-/
theorem agrees_of_cycleBroken
    (hb : ∀ report path message, kept (Report.record report .cycleBroken path message))
    (node : Pointer) (message : String) (a : α) :
    Agrees kept same (do note .cycleBroken node message; return a) other :=
  fun _ _ => ⟨fun _ => hb _ _ _, fun _ => .inl (hb _ _ _)⟩

/-- Walks that agree go on to agree, as they have given the same result. -/
theorem Agrees.bind (h : Agrees kept same walk other)
    (hn : ∀ a, Agrees kept same (next a) (otherNext a)) :
    Agrees kept same (walk >>= next) (other >>= otherNext) := by
  intro notes otherNotes
  obtain ⟨hkeep, hsame⟩ := h notes otherNotes
  rw [bind_apply, bind_apply]
  cases hwalk : walk notes with
  | mk result after =>
  cases hother : other otherNotes with
  | mk otherResult otherAfter =>
    rw [hwalk] at hkeep hsame
    rw [hother] at hsame
    cases result with
    | error error =>
      refine ⟨hkeep, fun hs => (hsame hs).imp_right fun ⟨heq, hafter⟩ => ?_⟩
      obtain rfl : Except.error error = otherResult := heq
      exact ⟨rfl, hafter⟩
    | ok a =>
      -- Once the report has the property, the walks need not agree any longer.
      refine ⟨fun hk => (hn a after after).1 (hkeep hk), fun hs => ?_⟩
      rcases hsame hs with hk | ⟨heq, hafter⟩
      · exact .inl ((hn a after after).1 hk)
      · obtain rfl : Except.ok a = otherResult := heq
        exact (hn a after otherAfter).2 hafter

/-- Walks that agree fail for the same reason, so both attempts go on or neither does. -/
theorem Agrees.attempt (h : Agrees kept same walk other) :
    Agrees kept same (attempt walk) (attempt other) :=
  fun notes otherNotes => ⟨(h notes otherNotes).1, fun hs =>
    ((h notes otherNotes).2 hs).imp_right fun ⟨heq, hafter⟩ => ⟨congrArg recover heq, hafter⟩⟩

theorem Agrees.mapM {list : List β} {f g : β → Walk α} (h : ∀ b, Agrees kept same (f b) (g b)) :
    Agrees kept same (list.mapM f) (list.mapM g) := by
  induction list with
  | nil => exact agrees_pure []
  | cons b rest ih =>
    rw [List.mapM_cons, List.mapM_cons]
    exact (h b).bind fun first => ih.bind fun others => agrees_pure (first :: others)

theorem Agrees.foldlM {list : List β} {f g : α → β → Walk α}
    (h : ∀ a b, Agrees kept same (f a b) (g a b)) (a : α) :
    Agrees kept same (list.foldlM f a) (list.foldlM g a) := by
  induction list generalizing a with
  | nil => exact agrees_pure a
  | cons b rest ih =>
    rw [List.foldlM_cons, List.foldlM_cons]
    exact (h a b).bind ih

/-- Sets meet in the same way, whatever has been noted before. -/
theorem agrees_combine (hl : Lasting kept same) (node : Pointer)
    (lefts rights : List Constraints) :
    Agrees kept same (combine node lefts rights) (combine node lefts rights) := by
  unfold combine
  split
  · refine Agrees.bind ?_ fun _ => agrees_lift _
    exact fun _ _ => ⟨fun h => h, fun h => .inr ⟨rfl, hl.cut _ _ _ _ h⟩⟩
  · exact agrees_lift _

end Walks

/-! ### The parts of a schema -/

section Parts

variable {document : Document} {path otherPath active : List Pointer} {node : Pointer}
variable {kept : Report → Prop} {same : Notes → Notes → Prop}

/-- A path and some of its targets, where the others matter at most to what is recorded of broken
cycles. -/
structure Spares (kept : Report → Prop) (path otherPath : List Pointer) : Prop where
  subset : otherPath ⊆ path
  broken : path ⊆ otherPath ∨
    ∀ report place message, kept (Report.record report .cycleBroken place message)

/-- A reference may only be closed by a path where this is kept. -/
theorem agrees_withReference (hl : Lasting kept same) (hp : Spares kept path otherPath)
    {walk other : (target : Pointer) → target ∈ document.targets → target ∉ active →
      Walk (List Constraints)}
    (hw : ∀ target ht ha, Agrees kept same (walk target ht ha) (other target ht ha))
    (sets : List Constraints) :
    Agrees kept same (withReference document path active node walk sets)
      (withReference document otherPath active node other sets) := by
  unfold withReference
  split
  · exact agrees_throw _
  · exact agrees_pure sets
  · rename_i reference hr
    split
    · exact agrees_throw _
    · rename_i target ht
      by_cases hpath : target ∈ path ∨ target ∈ active
      · rw [dif_pos hpath]
        -- Only here the path matters: the target may be open on one of the paths alone.
        rcases hp.broken with hsubset | hb
        · rw [dif_pos (hpath.imp_left fun h => hsubset h)]
          exact (agrees_note hl _ _ _).bind fun _ => agrees_pure sets
        · exact agrees_of_cycleBroken hb _ _ _
      · rw [dif_neg hpath, dif_neg fun h => hpath (h.imp_left fun hother => hp.subset hother)]
        refine (agrees_enter hl target).bind fun _ => ?_
        exact (hw target _ _).bind fun found => agrees_combine hl node sets found

theorem agrees_withMembers (hl : Lasting kept same) (keyword : String)
    {walk other : (member : Pointer) → member ∈ document.subschemas node keyword →
      Walk (List Constraints)}
    (hw : ∀ member hm, Agrees kept same (walk member hm) (other member hm))
    (sets : List Constraints) :
    Agrees kept same (withMembers document node keyword walk sets)
      (withMembers document node keyword other sets) := by
  unfold withMembers
  refine Agrees.foldlM (fun sets member => ?_) sets
  exact (hw member.1 member.2).bind fun found => agrees_combine hl node sets found

theorem agrees_withChild (hl : Lasting kept same) (keyword : String)
    {walk other : (child : Pointer) → document.subschema? node keyword = some child →
      Walk (List Constraints)}
    (hw : ∀ child hc, Agrees kept same (walk child hc) (other child hc)) (sets : List Constraints) :
    Agrees kept same (withChild document node keyword walk sets)
      (withChild document node keyword other sets) := by
  unfold withChild
  split
  · rename_i child hc
    exact (hw child hc).bind fun found => agrees_combine hl node sets found
  · exact agrees_pure sets

theorem agrees_withConsequence (hl : Lasting kept same)
    {walk other : (child : Pointer) → document.subschema? node "then" = some child →
      Walk (List Constraints)}
    (hw : ∀ child hc, Agrees kept same (walk child hc) (other child hc)) (sets : List Constraints) :
    Agrees kept same (withConsequence document node walk sets)
      (withConsequence document node other sets) := by
  have hthen := agrees_withChild hl "then" hw sets
  unfold withConsequence
  cases (document.keyword? node "if").isSome with
  | true => exact (agrees_note hl _ _ _).bind fun _ => hthen
  | false => exact hthen

/-- Walks that agree on each branch agree on all of them. -/
theorem agrees_withBranches (hl : Lasting kept same) (keyword : String)
    {walk other : (branch : Pointer) → branch ∈ document.subschemas node keyword →
      Walk (List Constraints)}
    (hw : ∀ branch hb, Agrees kept same (walk branch hb) (other branch hb))
    (sets : List Constraints) :
    Agrees kept same (withBranches document node keyword walk sets)
      (withBranches document node keyword other sets) := by
  have hattempts : Agrees kept same
      ((document.subschemas node keyword).attach.mapM fun branch =>
        attempt (walk branch.1 branch.2))
      ((document.subschemas node keyword).attach.mapM fun branch =>
        attempt (other branch.1 branch.2)) :=
    Agrees.mapM fun branch => (hw branch.1 branch.2).attempt
  unfold withBranches
  cases (document.subschemas node keyword).isEmpty with
  | true => exact agrees_pure sets
  | false =>
    refine hattempts.bind fun results => ?_
    refine (agrees_lift (branchAlternatives node keyword results)).bind fun found => ?_
    exact agrees_combine hl node sets found

theorem agrees_ownDemands (hl : Lasting kept same) :
    Agrees kept same (ownDemands document node) (ownDemands document node) := by
  unfold ownDemands
  refine (agrees_lift (Constraints.ofSchema document node)).bind fun set => ?_
  split
  · unfold applyNot
    dsimp only
    split
    · exact (agrees_note hl _ _ _).bind fun _ => agrees_pure _
    · exact agrees_pure _
  · exact agrees_pure set

end Parts

/-! ### Schemas -/

section Schemas

variable {document : Document} {path otherPath : List Pointer} {kept : Report → Prop}
variable {same : Notes → Notes → Prop}

/-- A walk over a schema agrees with the walk over it from a path that spares some targets. -/
theorem agrees_alternatives (hl : Lasting kept same) (hp : Spares kept path otherPath)
    (active : List Pointer) (node : Pointer) :
    Agrees kept same (alternatives document path active node)
      (alternatives document otherPath active node) := by
  rw [alternatives, alternatives]
  split
  · exact agrees_pure _
  · exact agrees_throw _
  · refine (agrees_ownDemands hl).bind fun own => ?_
    refine (agrees_withReference hl hp (fun target _ _ =>
      agrees_alternatives hl hp (target :: active) target) [own]).bind fun sets => ?_
    refine (agrees_withMembers hl "allOf" (fun member _ =>
      agrees_alternatives hl hp active member) sets).bind fun sets => ?_
    refine (agrees_withConsequence hl (fun child _ =>
      agrees_alternatives hl hp active child) sets).bind fun sets => ?_
    refine (agrees_withBranches hl "anyOf" (fun branch _ =>
      agrees_alternatives hl hp active branch) sets).bind fun sets => ?_
    exact agrees_withBranches hl "oneOf" (fun branch _ =>
      agrees_alternatives hl hp active branch) sets
  · exact agrees_throw _
termination_by (document.unvisited active, sizeOf (document.fragment node))
decreasing_by
  · exact .left _ _ (Document.unvisited_cons_lt ‹_› ‹_›)
  · exact .right _ (Document.sizeOf_fragment_subschemas_lt ‹_›)
  · exact .right _ (Document.sizeOf_fragment_subschema_lt ‹_›)
  · exact .right _ (Document.sizeOf_fragment_subschemas_lt ‹_›)
  · exact .right _ (Document.sizeOf_fragment_subschemas_lt ‹_›)

theorem agrees_settledDemands (hl : Lasting kept same) (hp : Spares kept path otherPath)
    (node : Pointer) :
    Agrees kept same (settledDemands document path node)
      (settledDemands document otherPath node) :=
  (agrees_alternatives hl hp [] node).bind fun sets => agrees_lift (settle node sets)

/-- Demands are found alike along the same path. -/
theorem agrees_demandsOn (hl : Lasting kept same) (path : List Pointer) (node : Pointer) :
    Agrees kept same (demandsOn document path node) (demandsOn document path node) := by
  have hsettled := @agrees_settledDemands document path path kept same hl
    ⟨List.Subset.refl path, .inl (List.Subset.refl path)⟩ node
  rw [demandsOn_eq]
  split
  · exact agrees_throw _
  · exact hsettled
  · split
    · exact agrees_throw _
    · split
      · exact agrees_pure _
      · exact hsettled

/-- That a walk has stopped short stays noted. -/
theorem lasting_stopsShort : Lasting Report.StopsShort fun _ _ => True where
  keep _ _ _ _ h := h.record
  note _ _ _ _ _ _ := trivial
  enter _ _ _ _ := trivial
  cut _ _ _ _ _ := trivial

theorem spares_stopsShort (path : List Pointer) : Spares Report.StopsShort path [] :=
  ⟨List.nil_subset path, .inr fun _ _ _ => Report.stopsShort_record_cycleBroken⟩

/-- Unless a schema leads back to its own path, or the walk over it had to leave a reference
unconstrained, its demands are those on an empty path. -/
theorem demandsOn_cases (path : List Pointer) (node : Pointer) (notes otherNotes : Notes) :
    (notes.report.StopsShort → (demandsOn document path node notes).2.report.StopsShort) ∧
    ((demandsOn document path node notes).2.report.StopsShort ∨
      (∃ target, (demandsOn document path node notes).1 = .ok (.cycle target)) ∨
      (demandsOn document path node notes).1 = (demandsOn document [] node otherNotes).1) := by
  obtain ⟨hkeep, hsame⟩ := @agrees_settledDemands document path [] _ _ lasting_stopsShort
    (spares_stopsShort path) node notes otherNotes
  have hsettled := (hsame trivial).imp_right And.left
  rw [demandsOn_eq, demandsOn_eq]
  split
  · exact ⟨fun h => h, .inr (.inr rfl)⟩
  · exact ⟨hkeep, hsettled.imp_right .inr⟩
  · split
    · exact ⟨fun h => h, .inr (.inr rfl)⟩
    · rename_i target _
      rw [if_neg (List.not_mem_nil : target ∉ [])]
      split
      · exact ⟨fun h => h, .inr (.inl ⟨target, rfl⟩)⟩
      · exact ⟨hkeep, hsettled.imp_right .inr⟩

end Schemas

/-! ### Normalizing -/

/-- Two walks that have entered the same targets, the second one with fewer issues. -/
structure Notes.Echoes (notes other : Notes) : Prop where
  entered : other.entered = notes.entered
  report : notes.report.Echoes other.report

/-- Notes that echo each other still do so when the same is noted in both. -/
theorem lasting_echoes : Lasting (fun _ => False) Notes.Echoes where
  keep _ _ _ _ h := h
  note _ _ _ _ _ h := ⟨h.entered, h.report.record⟩
  enter _ _ target h := ⟨congrArg (· ++ [target]) h.entered, h.report⟩
  cut _ _ _ _ h := ⟨h.entered, h.report⟩

/-- What was recorded before does not matter to the demands of a schema, nor to what is recorded of
them. -/
theorem normalize_echoes {report other : Report} (h : report.Echoes other) (document : Document)
    (path : List Pointer) (node : Pointer) :
    (normalize document path node report).1 = (normalize document path node other).1 ∧
      (normalize document path node report).2.Echoes (normalize document path node other).2 := by
  have hagree : Agrees (fun _ => False) Notes.Echoes (demandsOn document path node)
      (demandsOn document path node) := agrees_demandsOn lasting_echoes path node
  obtain ⟨hresult, hnotes⟩ :=
    ((hagree ⟨[], report, 0⟩ ⟨[], other, 0⟩).2 ⟨rfl, h⟩).resolve_left fun hf => hf
  have hnormalize (report : Report) : (normalize document path node report).1 =
      (demandsOn document path node ⟨[], report, 0⟩).1.map
        (⟨·, (demandsOn document path node ⟨[], report, 0⟩).2.entered⟩) := rfl
  refine ⟨?_, hnotes.report⟩
  rw [hnormalize, hnormalize, hresult, hnotes.entered]

end Specimen.Normalization
