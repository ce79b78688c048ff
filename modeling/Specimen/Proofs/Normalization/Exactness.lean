import Specimen.Proofs.Normalization.Combination
import Specimen.Proofs.Normalization.Descent
import Specimen.Proofs.Outcome

/-!
# Specimen.Proofs.Normalization.Exactness

The alternatives of a schema admit exactly the values that satisfy it
(`Normalization.alternatives_exact`), as long as no combination is left out for want of room; and
even then they admit no other values.

The proof is compositional. `Finds walk demand` says that a walk finds alternatives for a demand:
what they admit meets the demand, and what meets the demand is admitted unless the walk left
combinations out. Walks in sequence find the conjunction (`Finds.bind`), because combining two lists
of alternatives does (`finds_combine`); walks over branches find the disjunction
(`finds_withBranches`). The recursion over schemas then only follows the definition of a walk.
-/

namespace Specimen.Normalization

/-- A value meets one of some sets of demands. -/
def AdmitsSome (sets : List Constraints) (value : Json) : Prop := ∃ set ∈ sets, set.Admits value

/-! ### Combining two lists -/

section Product

variable {lefts rights : List Constraints} {room : Nat} {value : Json}

/-- Combinations admit what both lists admit. -/
theorem admitsSome_of_intersections (hl : ∀ set ∈ lefts, set.Ordered)
    (hr : ∀ set ∈ rights, set.Ordered)
    (h : AdmitsSome (intersections room (pairs lefts rights)).1 value) :
    AdmitsSome lefts value ∧ AdmitsSome rights value := by
  obtain ⟨set, hset, hv⟩ := h
  obtain ⟨⟨left, right⟩, hp, hi⟩ := mem_intersections hset
  obtain ⟨hleft, hright⟩ := mem_pairs.mp hp
  rw [Constraints.admits_intersect (hl left hleft) (hr right hright) hi] at hv
  exact ⟨⟨left, hleft, hv.1⟩, right, hright, hv.2⟩

/-- What both lists admit is admitted by a combination, unless some are left out. -/
theorem admitsSome_intersections (hl : ∀ set ∈ lefts, set.Ordered)
    (hr : ∀ set ∈ rights, set.Ordered) (hroom : leavesOut room (pairs lefts rights) = false)
    (hleft : AdmitsSome lefts value) (hright : AdmitsSome rights value) :
    AdmitsSome (intersections room (pairs lefts rights)).1 value := by
  obtain ⟨left, hleft, hlv⟩ := hleft
  obtain ⟨right, hright, hrv⟩ := hright
  cases hi : left.intersect right with
  | error error => exact absurd ⟨hlv, hrv⟩ (Constraints.not_admits_of_intersect_eq_error hi)
  | ok set =>
    refine ⟨set, ?_, ?_⟩
    · exact mem_intersections_of_not_leavesOut hroom (mem_pairs.mpr ⟨hleft, hright⟩) hi
    · exact (Constraints.admits_intersect (hl left hleft) (hr right hright) hi).mpr ⟨hlv, hrv⟩

/-- Ends of ranges stay ordered when sets meet. -/
theorem ordered_intersections (hl : ∀ set ∈ lefts, set.Ordered)
    (hr : ∀ set ∈ rights, set.Ordered) :
    ∀ set ∈ (intersections room (pairs lefts rights)).1, set.Ordered := by
  intro set hset
  obtain ⟨⟨left, right⟩, hp, hi⟩ := mem_intersections hset
  obtain ⟨hleft, hright⟩ := mem_pairs.mp hp
  exact (hl left hleft).intersect (hr right hright) hi

end Product

/-! ### Walks that find the alternatives for a demand -/

section Walks

variable {α β : Type} {walk : Walk (List Constraints)}
variable {demand other : Json → Prop} {notes after : Notes}

/-- How a walk that looks for the values of a demand may end: with alternatives that admit those
values, with a reason why there are none, or with a fault of the schema. If combinations were left
out, there may be more values than the walk has found. -/
structure Exact (demand : Json → Prop) (notes : Notes)
    (outcome : Except SchemaError (List Constraints) × Notes) : Prop where
  cuts_le : notes.cuts ≤ outcome.2.cuts
  ordered : ∀ sets, outcome.1 = .ok sets → ∀ set ∈ sets, set.Ordered
  sound : ∀ sets, outcome.1 = .ok sets → ∀ value, AdmitsSome sets value → demand value
  complete : ∀ sets, outcome.1 = .ok sets → outcome.2.cuts = notes.cuts →
    ∀ value, demand value → AdmitsSome sets value
  unsatisfiable : ∀ error, outcome.1 = .error error → error.Unsatisfiable →
    outcome.2.cuts = notes.cuts → ∀ value, ¬demand value

/-- A walk finds the alternatives for a demand, whatever was noted before. -/
def Finds (walk : Walk (List Constraints)) (demand : Json → Prop) : Prop :=
  ∀ notes, Exact demand notes (walk notes)

/-- A walk from some alternatives finds those for one more demand. -/
def Narrows (next : List Constraints → Walk (List Constraints)) (demand : Json → Prop) : Prop :=
  ∀ sets, (∀ set ∈ sets, set.Ordered) → Finds (next sets) fun value =>
    AdmitsSome sets value ∧ demand value

/-- What a walk finds may be said in other words. -/
theorem Finds.congr (h : Finds walk demand) (hd : ∀ value, demand value ↔ other value) :
    Finds walk other := by
  rwa [show other = demand from funext fun value => propext (hd value).symm]

/-- A walk that ends well is exact if its sets are sound, and complete where nothing has been cut.
-/
theorem Exact.of_ok {sets : List Constraints} (hcuts : notes.cuts ≤ after.cuts)
    (hordered : ∀ set ∈ sets, set.Ordered)
    (hsound : ∀ value, AdmitsSome sets value → demand value)
    (hcomplete : after.cuts = notes.cuts → ∀ value, demand value → AdmitsSome sets value) :
    Exact demand notes (.ok sets, after) where
  cuts_le := hcuts
  ordered := by
    intro _ h
    cases h
    exact hordered
  sound := by
    intro _ h
    cases h
    exact hsound
  complete := by
    intro _ h
    cases h
    exact hcomplete
  unsatisfiable := by intro _ h; cases h

/-- A walk that fails is exact if there is nothing to be found. -/
theorem Exact.of_error {error : SchemaError} (hcuts : notes.cuts ≤ after.cuts)
    (hnone : error.Unsatisfiable → after.cuts = notes.cuts → ∀ value, ¬demand value) :
    Exact demand notes (.error error, after) where
  cuts_le := hcuts
  ordered := by intro _ h; cases h
  sound := by intro _ h; cases h
  complete := by intro _ h; cases h
  unsatisfiable := by
    intro _ h
    cases h
    exact hnone

/-- Alternatives at hand are those for the demand to meet one of them. -/
theorem finds_pure {sets : List Constraints} (hordered : ∀ set ∈ sets, set.Ordered) :
    Finds (pure sets) (AdmitsSome sets) := fun _ =>
  .of_ok (Nat.le_refl _) hordered (fun _ h => h) (fun _ _ h => h)

/-- A fault of the schema says nothing about values. -/
theorem finds_throw {error : SchemaError} (h : ¬error.Unsatisfiable) :
    Finds (throw error) demand := fun _ =>
  .of_error (Nat.le_refl _) fun hu => absurd hu h

/-- Walks one after the other find the conjunction of their demands. -/
theorem Finds.bind {next : List Constraints → Walk (List Constraints)} (hw : Finds walk demand)
    (hn : Narrows next other) :
    Finds (walk >>= next) fun value => demand value ∧ other value := by
  intro notes
  have first := hw notes
  rw [bind_apply]
  cases hwalk : walk notes with
  | mk result middle =>
    rw [hwalk] at first
    cases result with
    | error error =>
      refine .of_error first.cuts_le fun hu hcuts value hv => ?_
      exact first.unsatisfiable error rfl hu hcuts value hv.1
    | ok sets =>
      have second := hn sets (first.ordered sets rfl) middle
      have hle : notes.cuts ≤ middle.cuts := first.cuts_le
      have hle' := second.cuts_le
      show Exact _ notes (next sets middle)
      -- Nothing is left out on the whole way only if nothing is left out on either part.
      refine ⟨by omega, second.ordered, ?_, ?_, ?_⟩
      · intro found hfound value hv
        obtain ⟨hsets, ho⟩ := second.sound found hfound value hv
        exact ⟨first.sound sets rfl value hsets, ho⟩
      · intro found hfound hcuts value hv
        have hm : middle.cuts = notes.cuts := by omega
        exact second.complete found hfound (by omega) value
          ⟨first.complete sets rfl hm value hv.1, hv.2⟩
      · intro error herror hu hcuts value hv
        have hm : middle.cuts = notes.cuts := by omega
        exact second.unsatisfiable error herror hu (by omega) value
          ⟨first.complete sets rfl hm value hv.1, hv.2⟩

/-- Steps in a row find what satisfies the demands of both. -/
theorem Narrows.bind {first next : List Constraints → Walk (List Constraints)}
    (hf : Narrows first demand) (hn : Narrows next other) :
    Narrows (fun sets => first sets >>= next) fun value => demand value ∧ other value :=
  fun sets hordered => ((hf sets hordered).bind hn).congr fun _ => and_assoc

/-- Only the number of cuts matters to what came before. -/
theorem Exact.of_cuts_eq {outcome : Except SchemaError (List Constraints) × Notes}
    (hcuts : after.cuts = notes.cuts) (h : Exact demand after outcome) :
    Exact demand notes outcome :=
  ⟨hcuts ▸ h.cuts_le, h.ordered, h.sound, hcuts ▸ h.complete, hcuts ▸ h.unsatisfiable⟩

/-- A step that only notes something other than a combination left out. -/
def Silent (step : Walk Unit) : Prop :=
  ∀ notes, ∃ after, step notes = (.ok (), after) ∧ after.cuts = notes.cuts

theorem silent_note (code : IssueCode) (node : Pointer) (message : String) :
    Silent (note code node message) := fun notes =>
  ⟨{ notes with report := notes.report.record code node.text message }, rfl, rfl⟩

theorem silent_enter (target : Pointer) : Silent (enter target) := fun notes =>
  ⟨{ notes with entered := notes.entered ++ [target] }, rfl, rfl⟩

/-- A step that cuts nothing can come before. -/
theorem Finds.silently {step : Walk Unit} (hs : Silent step) (hw : Finds walk demand) :
    Finds (step >>= fun _ => walk) demand := by
  intro notes
  obtain ⟨after, hstep, hcuts⟩ := hs notes
  rw [bind_apply, hstep]
  exact (hw after).of_cuts_eq hcuts

/-- Two lists of sets meet exactly, unless there are more pairs than room. -/
theorem exact_product (node : Pointer) {lefts rights : List Constraints}
    (hl : ∀ set ∈ lefts, set.Ordered) (hr : ∀ set ∈ rights, set.Ordered)
    (hcuts : notes.cuts ≤ after.cuts)
    (hroom : after.cuts = notes.cuts → leavesOut maxAlternatives (pairs lefts rights) = false) :
    Exact (fun value => AdmitsSome lefts value ∧ AdmitsSome rights value) notes
      (product node lefts rights, after) := by
  rcases product_cases node lefts rights with hok | ⟨hnil, error, herror, -⟩
  · rw [hok]
    refine .of_ok hcuts (ordered_intersections hl hr) ?_ ?_
    · exact fun value hv => admitsSome_of_intersections hl hr hv
    · exact fun h value hv => admitsSome_intersections hl hr (hroom h) hv.1 hv.2
  · rw [herror]
    refine .of_error hcuts fun _ h value hv => ?_
    obtain ⟨set, hset, -⟩ := admitsSome_intersections hl hr (hroom h) hv.1 hv.2
    rw [hnil] at hset
    cases hset

/-- Combining two lists of alternatives finds the conjunction of what they are for. -/
theorem finds_combine (node : Pointer) {lefts rights : List Constraints}
    (hl : ∀ set ∈ lefts, set.Ordered) (hr : ∀ set ∈ rights, set.Ordered) :
    Finds (combine node lefts rights) fun value =>
      AdmitsSome lefts value ∧ AdmitsSome rights value := by
  intro notes
  unfold combine
  cases hroom : leavesOut maxAlternatives (pairs lefts rights) with
  | false => exact exact_product node hl hr (Nat.le_refl _) fun _ => hroom
  | true =>
    show Exact _ notes (product node lefts rights, { notes with cuts := notes.cuts + 1 })
    refine exact_product node hl hr ?_ ?_
    · exact Nat.le_succ _
    · intro h
      exact absurd h (Nat.succ_ne_self _)

/-- Combining with what a walk finds adds the demand of the walk. -/
theorem narrows_combine (node : Pointer) (hw : Finds walk demand) :
    Narrows (fun sets => do combine node sets (← walk)) demand := by
  intro sets hordered
  have hn : Narrows (fun found => combine node sets found) (AdmitsSome sets) :=
    fun found hfound => (finds_combine node hordered hfound).congr fun _ => and_comm
  exact (hw.bind hn).congr fun _ => and_comm

/-- A demand that every value meets needs no walk. -/
theorem narrows_pure (hd : ∀ value, demand value) : Narrows pure demand :=
  fun _ hordered => (finds_pure hordered).congr fun value => (and_iff_left (hd value)).symm

theorem Narrows.congr {next : List Constraints → Walk (List Constraints)}
    (h : Narrows next demand) (hd : ∀ value, demand value ↔ other value) : Narrows next other :=
  fun sets hordered => (h sets hordered).congr fun value => and_congr_right fun _ => hd value

end Walks

/-! ### The parts of a schema -/

section Parts

variable {document : Document} {path active : List Pointer} {node : Pointer}
variable {demand : Pointer → Json → Prop}

/-- A reference that cannot be read is not a lack of values. -/
theorem not_unsatisfiable_of_referenceOf {error : SchemaError}
    (h : document.referenceOf node = .error error) : ¬error.Unsatisfiable := by
  intro hu
  obtain ⟨_, _, rfl⟩ := hu
  unfold Document.referenceOf at h
  split at h <;> cases h

/-- A reference that leads nowhere is not a lack of values. -/
theorem not_unsatisfiable_of_resolveReference {error : SchemaError} {reference : String}
    (h : document.resolveReference reference node = .error error) : ¬error.Unsatisfiable := by
  intro hu
  obtain ⟨_, _, rfl⟩ := hu
  unfold Document.resolveReference at h
  split at h
  · cases h
  · split at h <;> cases h

/-- Behind a reference the demands of its target apply, if the walk enters it. -/
theorem narrows_withReference
    {walk : (target : Pointer) → target ∈ document.targets → target ∉ active →
      Walk (List Constraints)}
    (hw : ∀ target ht ha, Finds (walk target ht ha) (demand target)) :
    Narrows (withReference document path active node walk) fun value =>
      ∀ target, Enters document path active node target → demand target value := by
  unfold withReference
  split
  · rename_i error hr
    exact fun sets _ => finds_throw (not_unsatisfiable_of_referenceOf hr)
  · rename_i hr
    refine narrows_pure fun value target he => ?_
    obtain ⟨reference, hr', -⟩ := he
    cases hr.symm.trans hr'
  · rename_i reference hr
    split
    · rename_i error ht
      exact fun sets _ => finds_throw (not_unsatisfiable_of_resolveReference ht)
    · rename_i target ht
      -- The only target that the schema can enter is this one.
      have honly (t : Pointer) (he : Enters document path active node t) : t = target := by
        obtain ⟨reference', hr', ht', -⟩ := he
        cases hr.symm.trans hr'
        exact Except.ok.inj (ht'.symm.trans ht)
      split
      · rename_i ho
        intro sets hordered
        refine Finds.silently (silent_note _ _ _) (narrows_pure (fun value t he => ?_) sets hordered)
        obtain rfl := honly t he
        obtain ⟨_, _, _, hp, ha⟩ := he
        exact absurd ho (not_or.mpr ⟨hp, ha⟩)
      · rename_i ho
        intro sets hordered
        refine Finds.silently (silent_enter target) ?_
        refine ((narrows_combine node (hw target _ _)).congr fun value => ?_) sets hordered
        constructor
        · intro hv t he
          exact honly t he ▸ hv
        · intro hv
          exact hv target ⟨reference, hr, ht, fun h => ho (.inl h), fun h => ho (.inr h)⟩

/-- The demands of all members apply. -/
theorem narrows_withMembers (keyword : String)
    {walk : (member : Pointer) → member ∈ document.subschemas node keyword →
      Walk (List Constraints)}
    (hw : ∀ member hm, Finds (walk member hm) (demand member)) :
    Narrows (withMembers document node keyword walk) fun value =>
      ∀ member ∈ document.subschemas node keyword, demand member value := by
  have hfold (list : List { member // member ∈ document.subschemas node keyword }) :
      Narrows (fun sets =>
          list.foldlM (fun sets member => do combine node sets (← walk member.1 member.2)) sets)
        fun value => ∀ member ∈ list, demand member.1 value := by
    induction list with
    | nil => exact narrows_pure fun _ _ h => absurd h List.not_mem_nil
    | cons first rest ih =>
      simp only [List.foldlM_cons, List.forall_mem_cons]
      exact (narrows_combine node (hw first.1 first.2)).bind ih
  exact (hfold _).congr fun value => by simp

theorem narrows_withChild (keyword : String)
    {walk : (child : Pointer) → document.subschema? node keyword = some child →
      Walk (List Constraints)}
    (hw : ∀ child hc, Finds (walk child hc) (demand child)) :
    Narrows (withChild document node keyword walk) fun value =>
      ∀ child, document.subschema? node keyword = some child → demand child value := by
  unfold withChild
  split
  · rename_i child hc
    refine (narrows_combine node (hw child hc)).congr fun value => ?_
    simp [hc]
  · rename_i hc
    exact narrows_pure fun value child h => by simp [hc] at h

/-- The demands of the consequence apply. -/
theorem narrows_withConsequence
    {walk : (child : Pointer) → document.subschema? node "then" = some child →
      Walk (List Constraints)}
    (hw : ∀ child hc, Finds (walk child hc) (demand child)) :
    Narrows (withConsequence document node walk) fun value =>
      ∀ child, document.subschema? node "then" = some child → demand child value := by
  intro sets hordered
  have hthen := narrows_withChild "then" hw sets hordered
  unfold withConsequence
  cases (document.keyword? node "if").isSome with
  | true => exact Finds.silently (silent_note _ _ _) hthen
  | false => exact hthen

/-! ### Branches -/

/-- An attempt succeeds, or finds a lack of values and goes on, or fails. -/
theorem attempt_cases {α : Type} (walk : Walk α) (notes : Notes) :
    (∃ a after, walk notes = (.ok a, after) ∧ attempt walk notes = (.ok (.ok a), after)) ∨
    (∃ error after, walk notes = (.error error, after) ∧ error.Unsatisfiable ∧
      attempt walk notes = (.ok (.error error), after)) ∨
    (∃ error after, walk notes = (.error error, after) ∧ ¬error.Unsatisfiable ∧
      attempt walk notes = (.error error, after)) := by
  have happly : attempt walk notes = (recover (walk notes).1, (walk notes).2) := rfl
  rw [happly]
  cases walk notes with
  | mk result after =>
    cases result with
    | ok a => exact .inl ⟨a, after, rfl, rfl⟩
    | error error =>
      cases error with
      | unsatisfiable node reason => exact .inr (.inl ⟨_, after, rfl, ⟨node, reason, rfl⟩, rfl⟩)
      | unresolvedReference | unsupportedReference | budgetExceeded | invalidSchema =>
        exact .inr (.inr ⟨_, after, rfl, by rintro ⟨_, _, ⟨⟩⟩, rfl⟩)

/-- How walking over a list of branches may end: with the results of all of them, of which the
failures are for want of a value, or with another failure. -/
structure Tried (demand : Json → Prop) (notes : Notes)
    (outcome : Except SchemaError (List (Except SchemaError (List Constraints))) × Notes) :
    Prop where
  cuts_le : notes.cuts ≤ outcome.2.cuts
  ordered : ∀ results, outcome.1 = .ok results → ∀ sets, .ok sets ∈ results →
    ∀ set ∈ sets, set.Ordered
  unsatisfiable : ∀ results, outcome.1 = .ok results → ∀ error, .error error ∈ results →
    error.Unsatisfiable
  sound : ∀ results, outcome.1 = .ok results → ∀ value sets, .ok sets ∈ results →
    AdmitsSome sets value → demand value
  complete : ∀ results, outcome.1 = .ok results → outcome.2.cuts = notes.cuts →
    ∀ value, demand value → ∃ sets, .ok sets ∈ results ∧ AdmitsSome sets value
  failed : ∀ error, outcome.1 = .error error → ¬error.Unsatisfiable

/-- One more branch, walked over before the others. -/
theorem Tried.cons {head others : Json → Prop} {notes middle after : Notes}
    {result : Except SchemaError (List Constraints)}
    {results : List (Except SchemaError (List Constraints))}
    (first : Exact head notes (result, middle))
    (hresult : ∀ error, result = .error error → error.Unsatisfiable)
    (rest : Tried others middle (.ok results, after)) :
    Tried (fun value => head value ∨ others value) notes (.ok (result :: results), after) := by
  have hle : notes.cuts ≤ middle.cuts := first.cuts_le
  have hle' : middle.cuts ≤ after.cuts := rest.cuts_le
  refine ⟨Nat.le_trans hle hle', ?_, ?_, ?_, ?_, ?_⟩
  · intro _ h sets hsets
    cases h
    rcases List.mem_cons.mp hsets with heq | hsets
    · exact first.ordered sets heq.symm
    · exact rest.ordered results rfl sets hsets
  · intro _ h error herror
    cases h
    rcases List.mem_cons.mp herror with heq | herror
    · exact hresult error heq.symm
    · exact rest.unsatisfiable results rfl error herror
  · intro _ h value sets hsets hv
    cases h
    rcases List.mem_cons.mp hsets with heq | hsets
    · exact .inl (first.sound sets heq.symm value hv)
    · exact .inr (rest.sound results rfl value sets hsets hv)
  · intro _ h hcuts value hv
    cases h
    change after.cuts = notes.cuts at hcuts
    have hm : middle.cuts = notes.cuts := by omega
    rcases hv with hv | hv
    · cases hr : result with
      | error error =>
        exact absurd hv (first.unsatisfiable error hr (hresult error hr) hm value)
      | ok sets =>
        exact ⟨sets, List.mem_cons_self, first.complete sets hr hm value hv⟩
    · obtain ⟨sets, hsets, hadmits⟩ := rest.complete results rfl (hcuts.trans hm.symm) value hv
      exact ⟨sets, List.mem_cons_of_mem _ hsets, hadmits⟩
  · intro _ h
    cases h

theorem Tried.of_error {notes after : Notes} {demand : Json → Prop} {error : SchemaError}
    (hcuts : notes.cuts ≤ after.cuts) (hu : ¬error.Unsatisfiable) :
    Tried demand notes (.error error, after) where
  cuts_le := hcuts
  ordered := by intro _ h; cases h
  unsatisfiable := by intro _ h; cases h
  sound := by intro _ h; cases h
  complete := by intro _ h; cases h
  failed := by
    intro _ h
    cases h
    exact hu

/-- Of some branches, attempts find what satisfies one of them. -/
theorem tried_attempts {α : Type} {walk : α → Walk (List Constraints)} {demand : α → Json → Prop}
    (hw : ∀ branch, Finds (walk branch) (demand branch)) (list : List α) (notes : Notes) :
    Tried (fun value => ∃ branch ∈ list, demand branch value) notes
      ((list.mapM fun branch => attempt (walk branch)) notes) := by
  induction list generalizing notes with
  | nil =>
    exact {
      cuts_le := Nat.le_refl _
      ordered := by intro _ h _ hsets; cases h; cases hsets
      unsatisfiable := by intro _ h _ herror; cases h; cases herror
      sound := by intro _ h _ _ hsets; cases h; cases hsets
      complete := by
        intro _ _ _ _ hv
        obtain ⟨branch, hbranch, -⟩ := hv
        cases hbranch
      failed := by intro _ h; cases h }
  | cons first rest ih =>
    -- Once the first branch has a result, the others follow from where it left off.
    have hcons (result : Except SchemaError (List Constraints)) (middle : Notes)
        (hfirst : Exact (demand first) notes (result, middle))
        (hresult : ∀ error, result = .error error → error.Unsatisfiable)
        (ha : attempt (walk first) notes = (.ok result, middle)) :
        Tried (fun value => ∃ branch ∈ first :: rest, demand branch value) notes
          (((first :: rest).mapM fun branch => attempt (walk branch)) notes) := by
      rw [List.mapM_cons, bind_apply, ha]
      dsimp only
      rw [bind_apply]
      have htail := ih middle
      cases hrest : (rest.mapM fun branch => attempt (walk branch)) middle with
      | mk results after =>
        rw [hrest] at htail
        cases results with
        | error error =>
          exact .of_error (Nat.le_trans hfirst.cuts_le htail.cuts_le) (htail.failed error rfl)
        | ok results =>
          simp only [List.mem_cons, exists_eq_or_imp]
          exact .cons hfirst hresult htail
    have hfirst := hw first notes
    rcases attempt_cases (walk first) notes with
      ⟨sets, middle, hwalk, ha⟩ | ⟨error, middle, hwalk, hu, ha⟩ | ⟨error, middle, hwalk, hu, ha⟩
    · rw [hwalk] at hfirst
      exact hcons _ _ hfirst (by intro _ h; cases h) ha
    · rw [hwalk] at hfirst
      exact hcons _ _ hfirst (by intro _ h; cases h; exact hu) ha
    · rw [hwalk] at hfirst
      rw [List.mapM_cons, bind_apply, ha]
      exact .of_error hfirst.cuts_le hu

/-- Walking over a list of branches finds the disjunction of their demands. -/
theorem finds_branches {α : Type} (node : Pointer) (keyword : String)
    {walk : α → Walk (List Constraints)} {demand : α → Json → Prop}
    (hw : ∀ branch, Finds (walk branch) (demand branch)) (list : List α) :
    Finds
      (do
        let results ← list.mapM fun branch => attempt (walk branch)
        branchAlternatives node keyword results)
      fun value => ∃ branch ∈ list, demand branch value := by
  intro notes
  have tried := tried_attempts hw list notes
  rw [bind_apply]
  cases hres : (list.mapM fun branch => attempt (walk branch)) notes with
  | mk result after =>
    rw [hres] at tried
    cases result with
    | error error => exact .of_error tried.cuts_le fun hu => absurd hu (tried.failed error rfl)
    | ok results =>
      show Exact _ notes (branchAlternatives node keyword results, after)
      have hcomplete (hcuts : after.cuts = notes.cuts) (value : Json)
          (hv : ∃ branch ∈ list, demand branch value) :
          AdmitsSome (results.filterMap Except.toOption).flatten value := by
        obtain ⟨sets, hsets, set, hset, hadmits⟩ := tried.complete results rfl hcuts value hv
        exact ⟨set, mem_flatten_filterMap_toOption.mpr ⟨sets, hsets, hset⟩, hadmits⟩
      rcases branchAlternatives_cases node keyword (tried.unsatisfiable results rfl) with
        hok | ⟨hnil, error, herror, -⟩
      · rw [hok]
        refine .of_ok tried.cuts_le ?_ ?_ hcomplete
        · intro set hset
          obtain ⟨sets, hsets, hset⟩ := mem_flatten_filterMap_toOption.mp hset
          exact tried.ordered results rfl sets hsets set hset
        · intro value hv
          obtain ⟨set, hset, hadmits⟩ := hv
          obtain ⟨sets, hsets, hset⟩ := mem_flatten_filterMap_toOption.mp hset
          exact tried.sound results rfl value sets hsets ⟨set, hset, hadmits⟩
      · rw [herror]
        refine .of_error tried.cuts_le fun _ hcuts value hv => ?_
        obtain ⟨set, hset, -⟩ := hcomplete hcuts value hv
        rw [hnil] at hset
        cases hset

/-- The demands of one branch apply, if there is a branch. -/
theorem narrows_withBranches (keyword : String)
    {walk : (branch : Pointer) → branch ∈ document.subschemas node keyword →
      Walk (List Constraints)}
    (hw : ∀ branch hb, Finds (walk branch hb) (demand branch)) :
    Narrows (withBranches document node keyword walk) fun value =>
      document.subschemas node keyword ≠ [] →
        ∃ branch ∈ document.subschemas node keyword, demand branch value := by
  have hfind : Finds
      (do
        let results ← (document.subschemas node keyword).attach.mapM fun branch =>
          attempt (walk branch.1 branch.2)
        branchAlternatives node keyword results)
      fun value => ∃ branch ∈ document.subschemas node keyword, demand branch value := by
    have hall := finds_branches node keyword
      (fun branch : { branch // branch ∈ document.subschemas node keyword } =>
        hw branch.1 branch.2) (document.subschemas node keyword).attach
    exact hall.congr fun value => by simp
  intro sets hordered
  unfold withBranches
  cases hempty : (document.subschemas node keyword).isEmpty with
  | true =>
    refine narrows_pure (fun value hne => ?_) sets hordered
    exact absurd (List.isEmpty_iff.mp hempty) hne
  | false =>
    have hne : document.subschemas node keyword ≠ [] := by
      intro h
      simp [h] at hempty
    have := ((narrows_combine node hfind) sets hordered).congr fun value =>
      and_congr_right fun _ => ⟨fun h _ => h, fun h => h hne⟩
    simpa only [bind_assoc, Bool.false_eq_true, if_false] using this

end Parts

/-! ### Schemas -/

section Schemas

variable {document : Document} {node : Pointer} {set : Constraints} {value : Json}

/-- Excluding more values rules out these values and no others. -/
theorem admits_excluded_append {listed : List Json} :
    { set with excluded := set.excluded ++ listed }.Admits value ↔
      set.Admits value ∧ Json.contains listed value = false := by
  have hexcluded : Json.contains (set.excluded ++ listed) value = false ↔
      Json.contains set.excluded value = false ∧ Json.contains listed value = false := by
    rw [Json.contains_append, Bool.or_eq_false_iff]
  constructor
  · intro h
    obtain ⟨hset, hlisted⟩ := hexcluded.mp h.excluded
    exact ⟨{ h with excluded := hset }, hlisted⟩
  · intro hv
    obtain ⟨h, hlisted⟩ := hv
    exact { h with excluded := hexcluded.mpr ⟨h.excluded, hlisted⟩ }

/-- A negated schema only adds to the excluded values. -/
theorem applyNot_eq (document : Document) (set : Constraints) (negated : Pointer) (notes : Notes) :
    ∃ after, applyNot document set negated notes =
      (.ok { set with excluded := set.excluded ++ listedValues document negated }, after) ∧
      after.cuts = notes.cuts := by
  unfold applyNot
  dsimp only
  split
  · exact ⟨_, rfl, rfl⟩
  · exact ⟨_, rfl, rfl⟩

/-- Without demands of its own, a schema lists `const` among the values of `enum` or has no
value. -/
theorem not_satisfiesOwn_of_ofSchema_eq_error {error : SchemaError} (hu : error.Unsatisfiable)
    (h : Constraints.ofSchema document node = .error error) : ¬SatisfiesOwn document node value := by
  intro hv
  obtain ⟨values, constant, henum, hconst, hnot⟩ :=
    Constraints.exists_const_of_ofSchema_eq_error document node hu h
  obtain ⟨other, hother, heq⟩ := Json.contains_iff.mp (hv.enumerated values henum)
  have hc : (value == constant) = true := by
    rw [Json.beq_comm]
    exact hv.constant constant hconst
  have : Json.contains values constant = true :=
    Json.contains_iff.mpr ⟨other, hother, Json.beq_trans heq hc⟩
  rw [hnot] at this
  cases this

/-- What the demands of a schema admit is what its keywords admit, apart from its `not`. -/
theorem satisfiesOwn_iff (h : Constraints.ofSchema document node = .ok set) :
    SatisfiesOwn document node value ↔ set.Admits value ∧
      ∀ negated, document.subschema? node "not" = some negated →
        Json.contains (listedValues document negated) value = false := by
  constructor
  · intro hv
    exact ⟨hv.admitted set h, hv.negated⟩
  · intro h
    obtain ⟨hv, hnot⟩ := h
    have hread := Constraints.isReading_of_ofSchema_eq_ok h
    obtain ⟨henum, hconst⟩ := Constraints.listed_of_readCandidates hread.candidates hv.candidates
    refine ⟨henum, hconst, fun other hother => ?_, hnot⟩
    cases h.symm.trans hother
    exact hv

/-- The own demands of a schema are those of its keywords, with the values that its `not` lists
among the excluded ones. -/
theorem ownDemands_cases (document : Document) (node : Pointer) (notes : Notes) :
    (∃ error, Constraints.ofSchema document node = .error error ∧
      ownDemands document node notes = (.error error, notes)) ∨
    (∃ set listed after, Constraints.ofSchema document node = .ok set ∧
      ownDemands document node notes =
        (.ok { set with excluded := set.excluded ++ listed }, after) ∧
      after.cuts = notes.cuts ∧
      ∀ value, Json.contains listed value = false ↔
        ∀ negated, document.subschema? node "not" = some negated →
          Json.contains (listedValues document negated) value = false) := by
  unfold ownDemands
  cases ho : Constraints.ofSchema document node with
  | error error => exact .inl ⟨error, rfl, rfl⟩
  | ok set =>
    refine .inr ?_
    cases hn : document.subschema? node "not" with
    | none =>
      refine ⟨set, [], notes, rfl, ?_, rfl, fun value => ?_⟩
      · rw [List.append_nil]
        rfl
      · simp [Json.contains]
    | some negated =>
      obtain ⟨after, happly, hcuts⟩ := applyNot_eq document set negated notes
      exact ⟨set, _, after, rfl, happly, hcuts, fun value => by simp⟩

/-- The own demands of a node are found exactly in a document whose numbers are finite. -/
theorem finds_ownDemands (finite : document.Finite) (node : Pointer) :
    Finds (do return [← ownDemands document node]) (SatisfiesOwn document node) := by
  intro notes
  rw [bind_apply]
  rcases ownDemands_cases document node notes with
    ⟨error, ho, howns⟩ | ⟨set, listed, after, ho, howns, hcuts, hlisted⟩
  · rw [howns]
    exact .of_error (Nat.le_refl _) fun hu _ _ => not_satisfiesOwn_of_ofSchema_eq_error hu ho
  · have hread := (Constraints.isReading_of_ofSchema_eq_ok ho).ordered finite
    have hadmits (value : Json) :
        AdmitsSome [{ set with excluded := set.excluded ++ listed }] value ↔
          SatisfiesOwn document node value := by
      rw [satisfiesOwn_iff ho, ← hlisted, ← admits_excluded_append]
      simp [AdmitsSome]
    rw [howns]
    refine .of_ok (Nat.le_of_eq hcuts.symm) ?_ ?_ ?_
    · intro own hown
      rw [List.mem_singleton.mp hown]
      exact ⟨hread.minimum, hread.maximum⟩
    · exact fun value => (hadmits value).mp
    · exact fun _ value => (hadmits value).mpr

/-- The set without demands admits every value. -/
theorem admits_any (node : Pointer) (value : Json) : (Constraints.any node).Admits value where
  kinds := KindSet.accepts_of_isUnknown rfl
  minimum := by intro _ _ _ h; cases h
  maximum := by intro _ _ _ h; cases h
  minLength := by intro _ _ _ h; cases h
  maxLength := by intro _ _ _ h; cases h
  minItems := by intro _ _ _ h; cases h
  maxItems := by intro _ _ _ h; cases h
  uniqueItems := by intro _ _ h; cases h
  required := by intro _ _ _ h; cases h
  dependentRequired := by intro _ _ _ _ _ h; cases h
  minProperties := by intro _ _ _ h; cases h
  maxProperties := by intro _ _ _ h; cases h
  candidates := by intro _ h; cases h
  excluded := rfl

theorem ordered_any (node : Pointer) : (Constraints.any node).Ordered where
  minimum := by intro _ h; cases h
  maximum := by intro _ h; cases h

/-- What it means to satisfy an object, in the order in which its keywords are read. -/
theorem satisfies_iff_of_obj {path active : List Pointer} {members : List (String × Json)}
    (hf : document.fragment node = .obj members) :
    Satisfies document path active node value ↔
      ((((SatisfiesOwn document node value ∧
        ∀ target, Enters document path active node target →
          Satisfies document path (target :: active) target value) ∧
        ∀ member ∈ document.subschemas node "allOf", Satisfies document path active member value) ∧
        ∀ child, document.subschema? node "then" = some child →
          Satisfies document path active child value) ∧
        (document.subschemas node "anyOf" ≠ [] →
          ∃ branch ∈ document.subschemas node "anyOf",
            Satisfies document path active branch value)) ∧
        (document.subschemas node "oneOf" ≠ [] →
          ∃ branch ∈ document.subschemas node "oneOf",
            Satisfies document path active branch value) := by
  rw [Satisfies, hf]
  simp only [and_assoc, exists_prop]

/-- The walk over a schema finds the values that satisfy it. -/
theorem finds_alternatives (finite : document.Finite) (path active : List Pointer)
    (node : Pointer) :
    Finds (alternatives document path active node) (Satisfies document path active node) := by
  rw [alternatives]
  split
  · rename_i hf
    have hordered : ∀ set ∈ [Constraints.any node], set.Ordered := by
      intro set hset
      rw [List.mem_singleton.mp hset]
      exact ordered_any node
    refine (finds_pure hordered).congr fun value => ?_
    rw [Satisfies, hf]
    exact iff_of_true ⟨_, List.mem_singleton_self _, admits_any node value⟩ rfl
  · rename_i hf
    intro notes
    refine .of_error (Nat.le_refl _) fun _ _ value hv => ?_
    rw [Satisfies, hf] at hv
    cases hv
  · rename_i members hf
    have hreference := @narrows_withReference document path active node _ _ fun target _ _ =>
      finds_alternatives finite path (target :: active) target
    have hall := @narrows_withMembers document node _ "allOf" _ fun member _ =>
      finds_alternatives finite path active member
    have hthen := @narrows_withConsequence document node _ _ fun child _ =>
      finds_alternatives finite path active child
    have hany := @narrows_withBranches document node _ "anyOf" _ fun branch _ =>
      finds_alternatives finite path active branch
    have hone := @narrows_withBranches document node _ "oneOf" _ fun branch _ =>
      finds_alternatives finite path active branch
    have hparts := (((((finds_ownDemands finite node).bind hreference).bind hall).bind hthen).bind
      hany).bind hone
    refine Finds.congr ?_ fun value => (satisfies_iff_of_obj hf).symm
    simpa only [bind_assoc, pure_bind] using hparts
  · exact finds_throw (by rintro ⟨_, _, ⟨⟩⟩)
termination_by (document.unvisited active, sizeOf (document.fragment node))
decreasing_by
  · exact .left _ _ (Document.unvisited_cons_lt ‹_› ‹_›)
  · exact .right _ (Document.sizeOf_fragment_subschemas_lt ‹_›)
  · exact .right _ (Document.sizeOf_fragment_subschema_lt ‹_›)
  · exact .right _ (Document.sizeOf_fragment_subschemas_lt ‹_›)
  · exact .right _ (Document.sizeOf_fragment_subschemas_lt ‹_›)

/-- **The alternatives of a schema are exact.** What they admit satisfies the schema. When no
combination was left out on the way, what satisfies the schema is admitted by one of them, and a
walk that fails for want of a value fails because no value satisfies the schema. The document is one
that a text writes, as far as its doubles go (`Document.finite_ofJson`): no bound is without order. -/
theorem alternatives_exact (finite : document.Finite) (path active : List Pointer)
    (node : Pointer) (notes : Notes) :
    (∀ sets, (alternatives document path active node notes).1 = .ok sets →
      ∀ value, (∃ set ∈ sets, set.Admits value) → Satisfies document path active node value) ∧
    ((alternatives document path active node notes).2.cuts = notes.cuts →
      (∀ sets, (alternatives document path active node notes).1 = .ok sets →
        ∀ value, Satisfies document path active node value → ∃ set ∈ sets, set.Admits value) ∧
      (∀ schema reason,
        (alternatives document path active node notes).1 = .error (.unsatisfiable schema reason) →
        ∀ value, ¬Satisfies document path active node value)) := by
  have h := finds_alternatives finite path active node notes
  refine ⟨h.sound, fun hcuts => ⟨fun sets hsets => h.complete sets hsets hcuts, ?_⟩⟩
  intro schema reason herror
  exact h.unsatisfiable _ herror ⟨schema, reason, rfl⟩ hcuts

/-- A number of at least three that is at most nine, or else at least twenty. -/
def fromThree : Document := .ofJson (.object
  [("allOf", .arr [.object [("minimum", .int 3)]]),
    ("anyOf", .arr [.object [("maximum", .int 9)], .object [("minimum", .int 20)]])])

theorem alternatives_exact_fromThree :
    fromThree.Finite ∧
      (alternatives fromThree [] [] .root ⟨[], .start 0, 0⟩).2.cuts = 0 ∧
      ∃ sets, (alternatives fromThree [] [] .root ⟨[], .start 0, 0⟩).1 = .ok sets ∧
        sets.length = 2 ∧
        ∀ value, (∃ set ∈ sets, set.Admits value) ↔ Satisfies fromThree [] [] .root value := by
  have finite : fromThree.Finite := by decide +kernel
  have hlevels : fromThree.descent [] .root < 4 := by
    have hbound := fromThree.descent_lt [] .root
    have htargets : fromThree.resolvedTargets.length = 0 := by decide +kernel
    have hheight : fromThree.root.height = 3 := by decide +kernel
    rwa [htargets, hheight] at hbound
  have hwalk : (descend fromThree [] 4 .root ⟨[], ⟨[], .start 0, 0⟩⟩).map (fun (result, stack) =>
      (result.toOption.map List.length, stack.notes.cuts)) = some (some 2, 0) := by
    decide +kernel
  rw [@mirrors_descend fromThree [] [] 4 .root hlevels ⟨[], .start 0, 0⟩] at hwalk
  obtain ⟨hlength, hcuts⟩ := Prod.mk.inj (Option.some.inj hwalk)
  obtain ⟨sets, hsets, hlength⟩ := exists_eq_ok_of_map_toOption hlength
  have ⟨hsound, hcomplete⟩ := alternatives_exact finite [] [] .root ⟨[], .start 0, 0⟩
  exact ⟨finite, hcuts, sets, hsets, hlength,
    fun value => ⟨hsound sets hsets value, (hcomplete hcuts).1 sets hsets value⟩⟩

end Schemas

end Specimen.Normalization
