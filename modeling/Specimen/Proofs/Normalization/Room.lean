import Mathlib.Algebra.GroupWithZero.Nat
import Mathlib.Algebra.Order.BigOperators.Group.List
import Mathlib.Algebra.Order.Group.Nat
import Specimen.Proofs.Normalization.Descent
import Specimen.Proofs.Normalization.Exactness

/-!
# Specimen.Proofs.Normalization.Room

When the alternatives of a schema have room.

Of the combinations of two lists of alternatives only the first `maxAlternatives` are followed, and
what is left out is missing in the combinations that come later. A schema can therefore seem to have
no value although it has one (`unsatisfiable_crowded`). That takes a combination left out, and none
is left out as long as the combinators of a schema multiply to no more than `maxAlternatives`
(`alternatives_ne_unsatisfiable`).

`GivesAtMost walk count` is a bound on the alternatives that a walk gives. It holds under the
condition that so many have room, under which a walk leaves nothing out; the bounds of walks in
sequence multiply (`GivesAtMost.bind`), those of branches add up (`givesAtMost_branches`).
-/

namespace Specimen.Normalization

/-! ### Combining two lists -/

section Product

variable {lefts rights sets : List Constraints} {list : List (Constraints × Constraints)}
variable {room : Nat}

/-- Each set of the one list meets each of the other. -/
theorem length_pairs (lefts rights : List Constraints) :
    (pairs lefts rights).length = lefts.length * rights.length := by
  simp [pairs, List.length_flatMap]

/-- A pair gives one set at most. -/
theorem length_intersections_le (room : Nat) (list : List (Constraints × Constraints)) :
    (intersections room list).1.length ≤ list.length := by
  fun_induction intersections room list with
  | case1 => exact Nat.zero_le _
  | case2 => exact Nat.le_refl _
  | case3 room left right rest set hok sets error hrest ih =>
    rw [hrest] at ih
    exact Nat.succ_le_succ ih
  | case4 room left right rest error herror ih => exact Nat.le_succ_of_le ih

/-- Where there is room for every pair, none is left out. -/
theorem leavesOut_of_length_le (h : list.length ≤ room) : leavesOut room list = false := by
  fun_induction leavesOut room list with
  | case1 => rfl
  | case2 => cases h
  | case3 room left right rest set hok ih => exact ih (Nat.le_of_succ_le_succ h)
  | case4 room left right rest error herror ih => exact ih (Nat.le_of_succ_le h)

/-- There are at most as many sets as pairs. -/
theorem length_product_le {node : Pointer} (h : product node lefts rights = .ok sets) :
    sets.length ≤ lefts.length * rights.length := by
  rcases product_cases node lefts rights with hok | ⟨-, error, herror, -⟩
  · cases h.symm.trans hok
    rw [← length_pairs]
    exact length_intersections_le _ _
  · cases h.symm.trans herror

end Product

/-! ### Walks that leave nothing out -/

section Uncut

variable {α β : Type} {walk : Walk α} {next : α → Walk β} {first : α → Prop} {second : β → Prop}

/-- A walk leaves no combination out, and what it gives is as described. -/
def Uncut (walk : Walk α) (result : α → Prop) : Prop :=
  ∀ notes, (walk notes).2.cuts = notes.cuts ∧ ∀ a, (walk notes).1 = .ok a → result a

theorem uncut_pure {a : α} (h : first a) : Uncut (pure a) first := by
  refine fun notes => ⟨rfl, fun b hb => ?_⟩
  cases hb
  exact h

/-- A walk that fails has nothing to cut off. -/
theorem uncut_throw (error : SchemaError) : Uncut (throw error) first := by
  refine fun notes => ⟨rfl, fun b hb => ?_⟩
  cases hb

/-- Two walks in a row cut nothing off if each cuts nothing off after what the one before can give.
-/
theorem Uncut.bind (h : Uncut walk first) (hn : ∀ a, first a → Uncut (next a) second) :
    Uncut (walk >>= next) second := by
  intro notes
  obtain ⟨hcuts, hvalue⟩ := h notes
  rw [bind_apply]
  cases hwalk : walk notes with
  | mk result middle =>
    rw [hwalk] at hcuts hvalue
    cases result with
    | error error => exact ⟨hcuts, by intro _ hb; cases hb⟩
    | ok a =>
      obtain ⟨hafter, hresult⟩ := hn a (hvalue a rfl) middle
      exact ⟨hafter.trans hcuts, hresult⟩

/-- A step that records nothing does not record a cut. -/
theorem uncut_of_silent {step : Walk Unit} (h : Silent step) : Uncut step fun _ => True := by
  intro notes
  obtain ⟨after, hstep, hcuts⟩ := h notes
  rw [hstep]
  exact ⟨hcuts, fun _ _ => trivial⟩

/-- An attempt records what its walk does. -/
theorem Uncut.attempt (h : Uncut walk first) :
    Uncut (attempt walk) fun result => ∀ a, result = .ok a → first a := by
  intro notes
  obtain ⟨hcuts, hvalue⟩ := h notes
  rcases attempt_cases walk notes with
    ⟨a, after, hwalk, ha⟩ | ⟨error, after, hwalk, -, ha⟩ | ⟨error, after, hwalk, -, ha⟩
  all_goals
    rw [hwalk] at hcuts hvalue
    rw [ha]
    refine ⟨hcuts, fun result hresult b hb => ?_⟩
    cases hresult
  · exact hvalue b hb
  · cases hb

/-- The alternatives of some branches are together no more than their bounds add up to. -/
theorem uncut_attempts {branch : α → Walk (List Constraints)} {size : α → Nat} {list : List α}
    (h : ∀ a ∈ list, Uncut (branch a) (·.length ≤ size a)) :
    Uncut (list.mapM fun a => attempt (branch a)) fun results =>
      (results.filterMap Except.toOption).flatten.length ≤ (list.map size).sum := by
  induction list with
  | nil => exact uncut_pure (Nat.le_refl _)
  | cons a rest ih =>
    rw [List.mapM_cons]
    refine (h a List.mem_cons_self).attempt.bind fun result hresult => ?_
    have hrest := ih fun b hb => h b (List.mem_cons_of_mem _ hb)
    refine hrest.bind fun others hothers => uncut_pure ?_
    rw [List.map_cons, List.sum_cons]
    cases result with
    | error error => exact Nat.le_trans hothers (Nat.le_add_left _ _)
    | ok sets =>
      have hflatten : ((.ok sets :: others).filterMap Except.toOption).flatten =
          sets ++ (others.filterMap Except.toOption).flatten := rfl
      rw [hflatten, List.length_append]
      exact Nat.add_le_add (hresult sets rfl) hothers

end Uncut

/-! ### Bounds on the alternatives -/

section Bounds

variable {α : Type} {walk : Walk (List Constraints)}
variable {before next : List Constraints → Walk (List Constraints)}
variable {lefts rights sets : List Constraints} {count factor other : Nat}

/-- If there is room for `count` alternatives, a walk leaves nothing out and gives no more than
these. -/
structure GivesAtMost (walk : Walk (List Constraints)) (count : Nat) : Prop where
  positive : 0 < count
  uncut : count ≤ maxAlternatives → Uncut walk (·.length ≤ count)

/-- A walk from some alternatives gives at most so many times as many. -/
def Multiplies (next : List Constraints → Walk (List Constraints)) (factor : Nat) : Prop :=
  ∀ sets count, 0 < count → sets.length ≤ count → GivesAtMost (next sets) (count * factor)

theorem givesAtMost_pure (hpos : 0 < count) (hlength : sets.length ≤ count) :
    GivesAtMost (pure sets) count :=
  ⟨hpos, fun _ => uncut_pure hlength⟩

theorem givesAtMost_throw {error : SchemaError} (hpos : 0 < count) :
    GivesAtMost (throw error) count :=
  ⟨hpos, fun _ => uncut_throw error⟩

/-- The factor is never zero: a walk that gives nothing has failed. -/
theorem Multiplies.positive (h : Multiplies next factor) : 0 < factor := by
  have := (h [] 1 Nat.one_pos (Nat.zero_le _)).positive
  rwa [Nat.one_mul] at this

/-- The bounds of walks one after the other multiply. -/
theorem GivesAtMost.bind (hw : GivesAtMost walk count) (hn : Multiplies next factor) :
    GivesAtMost (walk >>= next) (count * factor) := by
  refine ⟨Nat.mul_pos hw.positive hn.positive, fun hroom => ?_⟩
  have hcount : count ≤ maxAlternatives :=
    Nat.le_trans (Nat.le_mul_of_pos_right _ hn.positive) hroom
  exact (hw.uncut hcount).bind fun sets hsets => (hn sets count hw.positive hsets).uncut hroom

theorem GivesAtMost.silently {step : Walk Unit} (hs : Silent step) (hw : GivesAtMost walk count) :
    GivesAtMost (step >>= fun _ => walk) count :=
  ⟨hw.positive, fun hroom => (uncut_of_silent hs).bind fun _ _ => hw.uncut hroom⟩

/-- Factors of steps in a row multiply. -/
theorem Multiplies.bind (hf : Multiplies before factor) (hn : Multiplies next other) :
    Multiplies (fun sets => before sets >>= next) (factor * other) := by
  intro sets count hpos hlength
  rw [← Nat.mul_assoc]
  exact (hf sets count hpos hlength).bind hn

theorem multiplies_pure : Multiplies pure 1 := by
  intro sets count hpos hlength
  rw [Nat.mul_one]
  exact givesAtMost_pure hpos hlength

theorem multiplies_throw {error : SchemaError} : Multiplies (fun _ => throw error) 1 := by
  intro sets count hpos hlength
  rw [Nat.mul_one]
  exact givesAtMost_throw hpos

/-- Meeting two lists gives at most the product of their lengths. -/
theorem givesAtMost_combine (node : Pointer) (hcount : 0 < count) (hfactor : 0 < factor)
    (hl : lefts.length ≤ count) (hr : rights.length ≤ factor) :
    GivesAtMost (combine node lefts rights) (count * factor) := by
  have hlength : lefts.length * rights.length ≤ count * factor := Nat.mul_le_mul hl hr
  refine ⟨Nat.mul_pos hcount hfactor, fun hroom notes => ?_⟩
  have hkept : leavesOut maxAlternatives (pairs lefts rights) = false := by
    apply leavesOut_of_length_le
    rw [length_pairs]
    exact Nat.le_trans hlength hroom
  unfold combine
  rw [hkept]
  exact ⟨rfl, fun sets h => Nat.le_trans (length_product_le h) hlength⟩

/-- Meeting what a walk gives multiplies by the number of sets it gives. -/
theorem multiplies_combine (node : Pointer) (hw : GivesAtMost walk factor) :
    Multiplies (fun sets => do combine node sets (← walk)) factor := by
  intro sets count hpos hlength
  rw [Nat.mul_comm]
  refine hw.bind fun found bound hbound hfound => ?_
  rw [Nat.mul_comm]
  exact givesAtMost_combine node hpos hbound hlength hfound

/-- The bounds of branches add up. -/
theorem givesAtMost_branches (node : Pointer) (keyword : String)
    {branch : α → Walk (List Constraints)} {size : α → Nat} {list : List α}
    (hw : ∀ a ∈ list, GivesAtMost (branch a) (size a)) :
    GivesAtMost
      (do
        let results ← list.mapM fun a => attempt (branch a)
        branchAlternatives node keyword results)
      (max 1 (list.map size).sum) := by
  refine ⟨Nat.le_max_left _ _, fun hroom => ?_⟩
  have hsum : (list.map size).sum ≤ maxAlternatives := Nat.le_trans (Nat.le_max_right _ _) hroom
  have hbranch (a : α) (ha : a ∈ list) : Uncut (branch a) (·.length ≤ size a) :=
    (hw a ha).uncut (Nat.le_trans (List.le_sum_of_mem (List.mem_map_of_mem ha)) hsum)
  refine (uncut_attempts hbranch).bind fun results hresults notes => ⟨rfl, fun sets h => ?_⟩
  rw [eq_flatten_of_branchAlternatives h]
  exact Nat.le_trans hresults (Nat.le_max_right _ _)

end Bounds

/-! ### The parts of a schema -/

section Parts

variable (document : Document)

/-- The target that a walk goes on to from the reference of a schema, unless it is open. -/
def entered? (path active : List Pointer) (node : Pointer) : Option Pointer :=
  match document.referenceOf node with
  | .ok (some reference) =>
    match document.resolveReference reference node with
    | .ok target => if target ∈ path ∨ target ∈ active then none else some target
    | .error _ => none
  | _ => none

variable {document} {path active : List Pointer} {node : Pointer} {size : Pointer → Nat}

/-- The place where the walk goes on behind a reference is one that the walk enters. -/
theorem enters_of_entered? {target : Pointer}
    (h : entered? document path active node = some target) :
    Enters document path active node target := by
  unfold entered? at h
  split at h
  · rename_i reference hr
    split at h
    · rename_i found ht
      obtain ⟨hopen, heq⟩ := Option.ite_none_left_eq_some.mp h
      cases heq
      exact ⟨reference, hr, ht, not_or.mp hopen⟩
    · cases h
  · cases h

/-- A reference multiplies by the number for its target, if it leads to one that is not open
already. -/
theorem multiplies_withReference {walk : Pointer → Walk (List Constraints)}
    (hw : ∀ target ∈ document.targets, target ∉ active →
      GivesAtMost (walk target) (size target)) :
    Multiplies (withReference document path active node fun target _ _ => walk target)
      ((entered? document path active node).toList.map size).prod := by
  intro sets count hpos hlength
  rw [withReference_eq]
  unfold entered?
  cases hr : document.referenceOf node with
  | error error => exact multiplies_throw sets count hpos hlength
  | ok reference? =>
    cases reference? with
    | none => exact multiplies_pure sets count hpos hlength
    | some reference =>
      dsimp only
      cases ht : document.resolveReference reference node with
      | error error => exact multiplies_throw sets count hpos hlength
      | ok target =>
        dsimp only
        by_cases hopen : target ∈ path ∨ target ∈ active
        · rw [if_pos hopen, if_pos hopen]
          exact (multiplies_pure sets count hpos hlength).silently (silent_note _ _ _)
        · rw [if_neg hopen, if_neg hopen]
          have htarget := hw target (Document.mem_targets_of_resolveReference hr ht)
            fun h => hopen (.inr h)
          have hsize : ((some target).toList.map size).prod = size target := Nat.mul_one _
          rw [hsize]
          exact (multiplies_combine node htarget sets count hpos hlength).silently
            (silent_enter target)

/-- The members of `allOf` multiply one after the other. -/
theorem multiplies_members {walk : Pointer → Walk (List Constraints)} {members : List Pointer}
    (hw : ∀ member ∈ members, GivesAtMost (walk member) (size member)) :
    Multiplies
      (fun sets => members.foldlM (fun sets member => do combine node sets (← walk member)) sets)
      (members.map size).prod := by
  induction members with
  | nil => exact multiplies_pure
  | cons member rest ih =>
    simp only [List.foldlM_cons, List.map_cons, List.prod_cons]
    exact (multiplies_combine node (hw member List.mem_cons_self)).bind
      (ih fun other ho => hw other (List.mem_cons_of_mem _ ho))

/-- A consequence multiplies by its own number. -/
theorem multiplies_withConsequence {walk : Pointer → Walk (List Constraints)}
    (hw : ∀ child, document.subschema? node "then" = some child →
      GivesAtMost (walk child) (size child)) :
    Multiplies (withConsequence document node fun child _ => walk child)
      ((document.subschema? node "then").toList.map size).prod := by
  intro sets count hpos hlength
  have hthen : GivesAtMost (withChild document node "then" (fun child _ => walk child) sets)
      (count * ((document.subschema? node "then").toList.map size).prod) := by
    rw [withChild_eq_foldlM]
    exact multiplies_members (fun child hc => hw child (Option.mem_toList.mp hc)) sets count hpos
      hlength
  unfold withConsequence
  cases (document.keyword? node "if").isSome with
  | true => exact hthen.silently (silent_note _ _ _)
  | false => exact hthen

/-- Branches multiply by the sum of their numbers, as each set is met with one branch at a time. -/
theorem multiplies_withBranches (keyword : String) {walk : Pointer → Walk (List Constraints)}
    (hw : ∀ branch ∈ document.subschemas node keyword,
      GivesAtMost (walk branch) (size branch)) :
    Multiplies (withBranches document node keyword fun branch _ => walk branch)
      (max 1 ((document.subschemas node keyword).map size).sum) := by
  intro sets count hpos hlength
  have hfind := givesAtMost_branches node keyword hw
  rw [withBranches_eq_mapM]
  cases (document.subschemas node keyword).isEmpty with
  | true =>
    refine givesAtMost_pure (Nat.mul_pos hpos (Nat.le_max_left _ _)) ?_
    exact Nat.le_trans hlength (Nat.le_mul_of_pos_right _ (Nat.le_max_left _ _))
  | false =>
    have := multiplies_combine node hfind sets count hpos hlength
    simpa only [bind_assoc, Bool.false_eq_true, if_false] using this

end Parts

/-! ### Schemas -/

section Schemas

variable {document : Document} {path active : List Pointer} {node : Pointer}

variable (document) in
/-- How many alternatives the combinators of a schema multiply to: those of the target of its
reference, of the members of its `allOf` and of its `then`, times those of all branches of its
`anyOf` and of its `oneOf`. -/
def combinations (path active : List Pointer) (node : Pointer) : Nat :=
  match document.fragment node with
  | .obj _ =>
    ((entered? document path active node).toList.attach.map fun target =>
        combinations path (target.1 :: active) target.1).prod *
      ((document.subschemas node "allOf").attach.map fun member =>
        combinations path active member.1).prod *
      ((document.subschema? node "then").toList.attach.map fun child =>
        combinations path active child.1).prod *
      max 1 ((document.subschemas node "anyOf").attach.map fun branch =>
        combinations path active branch.1).sum *
      max 1 ((document.subschemas node "oneOf").attach.map fun branch =>
        combinations path active branch.1).sum
  | _ => 1
termination_by (document.unvisited active, sizeOf (document.fragment node))
decreasing_by
  · exact .left _ _ (enters_of_entered? (Option.mem_toList.mp target.2)).unvisited_lt
  · exact .right _ (Document.sizeOf_fragment_subschemas_lt member.2)
  · exact .right _ (Document.sizeOf_fragment_subschema_lt (Option.mem_toList.mp child.2))
  · exact .right _ (Document.sizeOf_fragment_subschemas_lt branch.2)
  · exact .right _ (Document.sizeOf_fragment_subschemas_lt branch.2)

/-- The number of combinations of a node, keyword by keyword. -/
theorem combinations_of_obj {members : List (String × Json)}
    (h : document.fragment node = .obj members) :
    combinations document path active node =
      ((entered? document path active node).toList.map fun target =>
          combinations document path (target :: active) target).prod *
        ((document.subschemas node "allOf").map (combinations document path active)).prod *
        ((document.subschema? node "then").toList.map (combinations document path active)).prod *
        max 1 ((document.subschemas node "anyOf").map (combinations document path active)).sum *
        max 1 ((document.subschemas node "oneOf").map (combinations document path active)).sum := by
  have htarget : ((entered? document path active node).toList.attach.map fun target =>
      combinations document path (target.1 :: active) target.1) =
        (entered? document path active node).toList.map fun target =>
          combinations document path (target :: active) target :=
    List.attach_map_val (f := fun target => combinations document path (target :: active) target)
  rw [combinations, h]
  dsimp only
  rw [htarget]
  simp only [List.attach_map_val]

/-- The demands of a node itself are one set. -/
theorem givesAtMost_ownDemands (document : Document) (node : Pointer) :
    GivesAtMost (do return [← ownDemands document node]) 1 := by
  refine ⟨Nat.one_pos, fun _ notes => ?_⟩
  rw [bind_apply]
  rcases ownDemands_cases document node notes with
    ⟨error, -, howns⟩ | ⟨set, listed, after, -, howns, hcuts, -⟩
  · rw [howns]
    exact ⟨rfl, by intro _ h; cases h⟩
  · rw [howns]
    refine ⟨hcuts, fun sets h => ?_⟩
    cases h
    exact Nat.le_refl _

/-- The walk over a schema gives no more alternatives than its combinators multiply to. -/
theorem givesAtMost_alternatives (path active : List Pointer) (node : Pointer) :
    GivesAtMost (alternatives document path active node)
      (combinations document path active node) := by
  cases hf : document.fragment node with
  | obj members =>
    have hown := givesAtMost_ownDemands document node
    have hreference := @multiplies_withReference document path active node _ _
      fun target _ _ => givesAtMost_alternatives path (target :: active) target
    have hall := @multiplies_members node _ _ (document.subschemas node "allOf")
      fun member _ => givesAtMost_alternatives path active member
    have hthen := @multiplies_withConsequence document node _ _
      fun child _ => givesAtMost_alternatives path active child
    have hany := @multiplies_withBranches document node _ "anyOf" _
      fun branch _ => givesAtMost_alternatives path active branch
    have hone := @multiplies_withBranches document node _ "oneOf" _
      fun branch _ => givesAtMost_alternatives path active branch
    have hparts := ((((hown.bind hreference).bind hall).bind hthen).bind hany).bind hone
    rw [Nat.one_mul] at hparts
    rw [alternatives_of_obj members hf, combinations_of_obj hf]
    simpa only [bind_assoc, pure_bind] using hparts
  | bool flag =>
    rw [alternatives, combinations, hf]
    cases flag with
    | true => exact givesAtMost_pure Nat.one_pos (Nat.le_refl _)
    | false => exact givesAtMost_throw Nat.one_pos
  | null | num | str | arr =>
    rw [alternatives, combinations, hf]
    exact givesAtMost_throw Nat.one_pos
termination_by (document.unvisited active, sizeOf (document.fragment node))
decreasing_by
  · exact .left _ _ (Document.unvisited_cons_lt ‹_› ‹_›)
  · exact .right _ (Document.sizeOf_fragment_subschemas_lt ‹_›)
  · exact .right _ (Document.sizeOf_fragment_subschema_lt ‹_›)
  · exact .right _ (Document.sizeOf_fragment_subschemas_lt ‹_›)
  · exact .right _ (Document.sizeOf_fragment_subschemas_lt ‹_›)

/-- **A schema that a value satisfies has alternatives, unless combinations are left out.** No
combination is left out as long as the combinators of the schema multiply to at most
`maxAlternatives`. Where none is left out, the walk does not fail for want of a value if there is
one, and if it gives alternatives, one of them admits the value. The document is one that a text
writes, as far as its doubles go (`Document.finite_ofJson`). -/
theorem alternatives_ne_unsatisfiable (finite : document.Finite) (path active : List Pointer)
    (node : Pointer) (notes : Notes) :
    (combinations document path active node ≤ maxAlternatives →
      (alternatives document path active node notes).2.cuts = notes.cuts) ∧
    ((alternatives document path active node notes).2.cuts = notes.cuts →
      ∀ value, Satisfies document path active node value →
        (∀ schema reason, (alternatives document path active node notes).1 ≠
          .error (.unsatisfiable schema reason)) ∧
        ∀ sets, (alternatives document path active node notes).1 = .ok sets →
          ∃ set ∈ sets, set.Admits value) := by
  have hexact := finds_alternatives finite path active node notes
  refine ⟨fun hroom => ((givesAtMost_alternatives path active node).uncut hroom notes).1,
    fun hcuts value hv => ⟨fun schema reason herror => ?_, fun sets hsets => ?_⟩⟩
  · exact hexact.unsatisfiable _ herror ⟨schema, reason, rfl⟩ hcuts value hv
  · exact hexact.complete sets hsets hcuts value hv

end Schemas

/-! ### A schema without room -/

section Crowded

/-- A schema is an object without some keywords. -/
def IsWithout (document : Document) (node : Pointer) (keywords : List String) : Prop :=
  (document.fragment node).members?.isSome = true ∧
    ∀ keyword ∈ keywords, document.keyword? node keyword = none

instance (document : Document) (node : Pointer) (keywords : List String) :
    Decidable (IsWithout document node keywords) := inferInstanceAs (Decidable (_ ∧ _))

/-- A number is admitted by the keywords of a schema itself, which are at most `const` and keywords
that bring in other schemas. -/
def AdmitsNumber (document : Document) (node : Pointer) (number : Number) : Prop :=
  (∀ keyword ∈ ["enum", "not"], document.keyword? node keyword = none) ∧
    (document.keyword? node "const").all (· == .num number) = true ∧
    (Constraints.ofSchema document node).toOption.all (fun set =>
      set.kinds.isUnknown && set.minimum.isNone && set.maximum.isNone &&
        set.candidates.all (Json.contains · (.num number))) = true

instance (document : Document) (node : Pointer) (number : Number) :
    Decidable (AdmitsNumber document node number) := inferInstanceAs (Decidable (_ ∧ _))

variable {document : Document} {path active : List Pointer} {node : Pointer} {value : Json}

/-- Only an object has members. -/
theorem exists_members (h : (document.fragment node).members?.isSome = true) :
    ∃ members, document.fragment node = .obj members := by
  cases hf : document.fragment node with
  | obj members => exact ⟨members, rfl⟩
  | null | bool | num | str | arr =>
    rw [hf] at h
    cases h

/-- The demands of a node itself are met by a number that they admit. -/
theorem satisfiesOwn_of_admitsNumber {number : Number}
    (h : AdmitsNumber document node number) : SatisfiesOwn document node (.num number) := by
  obtain ⟨habsent, hconst, hset⟩ := h
  refine ⟨?_, ?_, ?_, ?_⟩
  · intro values henum
    rw [habsent "enum" (by decide)] at henum
    cases henum
  · intro constant hc
    rw [hc] at hconst
    exact hconst
  · intro set hread
    rw [hread] at hset
    have hexcluded := (Constraints.isReading_of_ofSchema_eq_ok hread).excluded
    simp only [Except.toOption, Option.all_some, Bool.and_eq_true, Option.isNone_iff_eq_none]
      at hset
    obtain ⟨⟨⟨hkinds, hmin⟩, hmax⟩, hcandidates⟩ := hset
    exact {
      kinds := KindSet.accepts_of_isUnknown hkinds
      minimum := by intro _ _ bound hbound; rw [hmin] at hbound; cases hbound
      maximum := by intro _ _ bound hbound; rw [hmax] at hbound; cases hbound
      minLength := by intro _ h; cases h
      maxLength := by intro _ h; cases h
      minItems := by intro _ h; cases h
      maxItems := by intro _ h; cases h
      uniqueItems := by intro _ h; cases h
      required := by intro _ h; cases h
      dependentRequired := by intro _ h; cases h
      minProperties := by intro _ h; cases h
      maxProperties := by intro _ h; cases h
      candidates := by
        intro candidates hc
        rw [hc] at hcandidates
        exact hcandidates
      excluded := by
        rw [hexcluded]
        rfl }
  · intro negated hnot
    unfold Document.subschema? at hnot
    rw [habsent "not" (by decide)] at hnot
    cases hnot

/-- Without the keyword there is no reference. -/
theorem referenceOf_of_isWithout (h : IsWithout document node ["$ref", "then"]) :
    document.referenceOf node = .ok none := by
  unfold Document.referenceOf
  rw [h.2 "$ref" (by decide)]

theorem entered?_of_isWithout (h : IsWithout document node ["$ref", "then"]) :
    entered? document path active node = none := by
  unfold entered?
  rw [referenceOf_of_isWithout h]

theorem subschema?_of_isWithout (h : IsWithout document node ["$ref", "then"]) :
    document.subschema? node "then" = none := by
  unfold Document.subschema?
  rw [h.2 "then" (by decide)]

/-- Without a reference and a consequence, a value satisfies a node by its own demands and its
combinators. -/
theorem satisfies_of_isWithout (h : IsWithout document node ["$ref", "then"])
    (hown : SatisfiesOwn document node value)
    (hall : ∀ member ∈ document.subschemas node "allOf",
      Satisfies document path active member value)
    (hany : document.subschemas node "anyOf" ≠ [] →
      ∃ branch ∈ document.subschemas node "anyOf", Satisfies document path active branch value)
    (hone : document.subschemas node "oneOf" ≠ [] →
      ∃ branch ∈ document.subschemas node "oneOf", Satisfies document path active branch value) :
    Satisfies document path active node value := by
  obtain ⟨members, hf⟩ := exists_members h.1
  refine (satisfies_iff_of_obj hf).mpr ⟨⟨⟨⟨⟨hown, fun target he => ?_⟩, hall⟩, ?_⟩, hany⟩, hone⟩
  · obtain ⟨reference, hr, -⟩ := he
    cases (referenceOf_of_isWithout h).symm.trans hr
  · intro child hc
    rw [subschema?_of_isWithout h] at hc
    cases hc

theorem satisfies_of_bool? (h : (document.fragment node).bool? = some true) :
    Satisfies document path active node value := by
  rw [Satisfies]
  cases hf : document.fragment node with
  | bool flag =>
    rw [hf] at h
    exact Option.some.inj h
  | null | num | str | arr | obj =>
    rw [hf] at h
    cases h

/-- Without a reference and a consequence, only the combinators count. -/
theorem combinations_of_isWithout (h : IsWithout document node ["$ref", "then"]) :
    combinations document path active node =
      ((document.subschemas node "allOf").map (combinations document path active)).prod *
        max 1 ((document.subschemas node "anyOf").map (combinations document path active)).sum *
        max 1 ((document.subschemas node "oneOf").map (combinations document path active)).sum := by
  obtain ⟨members, hf⟩ := exists_members h.1
  rw [combinations_of_obj hf, entered?_of_isWithout h, subschema?_of_isWithout h]
  simp

/-- A Boolean schema is one combination. -/
theorem combinations_of_bool? {flag : Bool} (h : (document.fragment node).bool? = some flag) :
    combinations document path active node = 1 := by
  rw [combinations]
  split
  · rename_i members hf
    rw [hf] at h
    cases h
  · rfl

/-- A schema with two alternatives, neither of which demands anything. -/
def twice : Json := .object [("anyOf", .arr [.bool true, .bool true])]

/-- The first branch of this schema has 256 alternatives, and zero is all that they admit. What the
second branch admits is left out, and that is all that the other list of branches admits. -/
def crowded : Document := .ofJson (.object
  [("anyOf", .arr
    [.object [("const", .int 0), ("allOf", .arr (List.replicate 8 twice))],
      .object [("const", .int 1)]]),
    ("oneOf", .arr [.object [("const", .int 1)]])])

/-- A branch. -/
def crowdedBranch (keyword : String) (index : Nat) : Pointer :=
  (Pointer.root.push keyword).pushIndex index

/-- The schemas that double the alternatives of the first branch. -/
def crowdedMembers : List Pointer :=
  (List.range 8).map ((crowdedBranch "anyOf" 0).push "allOf").pushIndex

-- What the proofs below read off the document.

/-- Where the branches of the crowded document are. -/
theorem subschemas_crowded :
    crowded.subschemas .root "anyOf" = [crowdedBranch "anyOf" 0, crowdedBranch "anyOf" 1] ∧
      crowded.subschemas .root "oneOf" = [crowdedBranch "oneOf" 0] ∧
      crowded.subschemas (crowdedBranch "anyOf" 0) "allOf" = crowdedMembers := by
  decide +kernel

/-- The short branches admit one and have no combinators. -/
theorem keywords_crowdedBranch :
    ∀ branch ∈ [crowdedBranch "anyOf" 1, crowdedBranch "oneOf" 0],
      IsWithout crowded branch ["$ref", "then"] ∧ AdmitsNumber crowded branch (.int 1) ∧
        ∀ keyword ∈ ["allOf", "anyOf", "oneOf"], crowded.subschemas branch keyword = [] := by
  decide +kernel

/-- Each member of the long branch admits zero and doubles the number of combinations. -/
theorem keywords_crowdedMember :
    ∀ member ∈ crowdedMembers,
      IsWithout crowded member ["$ref", "then"] ∧ AdmitsNumber crowded member (.int 0) ∧
        (∀ keyword ∈ ["allOf", "oneOf"], crowded.subschemas member keyword = []) ∧
        crowded.subschemas member "anyOf" =
          [(member.push "anyOf").pushIndex 0, (member.push "anyOf").pushIndex 1] ∧
        ∀ branch ∈ crowded.subschemas member "anyOf",
          (crowded.fragment branch).bool? = some true := by
  decide +kernel

theorem keywords_crowded :
    IsWithout crowded .root ["$ref", "then"] ∧
      IsWithout crowded (crowdedBranch "anyOf" 0) ["$ref", "then"] ∧
      crowded.subschemas .root "allOf" = [] ∧
      ∀ keyword ∈ ["anyOf", "oneOf"],
        crowded.subschemas (crowdedBranch "anyOf" 0) keyword = [] := by
  decide +kernel

theorem satisfies_crowdedBranch :
    ∀ branch ∈ [crowdedBranch "anyOf" 1, crowdedBranch "oneOf" 0],
      Satisfies crowded [] [] branch (.int 1) := by
  intro branch hb
  obtain ⟨hwithout, hown, hnone⟩ := keywords_crowdedBranch branch hb
  refine satisfies_of_isWithout hwithout (satisfiesOwn_of_admitsNumber hown) ?_ ?_ ?_
  · rw [hnone "allOf" (by decide)]
    exact fun _ hm => absurd hm List.not_mem_nil
  · exact fun hne => absurd (hnone "anyOf" (by decide)) hne
  · exact fun hne => absurd (hnone "oneOf" (by decide)) hne

/-- One satisfies the document by its short branches. -/
theorem satisfies_crowded : Satisfies crowded [] [] .root (.int 1) := by
  obtain ⟨hany, hone, -⟩ := subschemas_crowded
  have hown : AdmitsNumber crowded .root (.int 1) := by decide +kernel
  refine satisfies_of_isWithout keywords_crowded.1 (satisfiesOwn_of_admitsNumber hown) ?_ ?_ ?_
  · rw [keywords_crowded.2.2.1]
    exact fun _ hm => absurd hm List.not_mem_nil
  · rw [hany]
    exact fun _ => ⟨crowdedBranch "anyOf" 1, by simp, satisfies_crowdedBranch _ (by simp)⟩
  · rw [hone]
    exact fun _ => ⟨crowdedBranch "oneOf" 0, by simp, satisfies_crowdedBranch _ (by simp)⟩

/-- A member has two combinations, so eight of them have as many as there is room for. -/
theorem combinations_crowdedMember :
    ∀ member ∈ crowdedMembers, combinations crowded [] [] member = 2 := by
  intro member hm
  obtain ⟨hwithout, -, hnone, hany, htrue⟩ := keywords_crowdedMember member hm
  have hbranch (branch : Pointer) (hb : branch ∈ crowded.subschemas member "anyOf") :
      combinations crowded [] [] branch = 1 := combinations_of_bool? (htrue branch hb)
  rw [combinations_of_isWithout hwithout, hnone "allOf" (by decide), hnone "oneOf" (by decide),
    List.map_congr_left hbranch, hany]
  rfl

/-- The first branch takes all the room, and there is one more. -/
theorem combinations_crowded :
    combinations crowded [] [] (crowdedBranch "anyOf" 0) = maxAlternatives ∧
      combinations crowded [] [] .root = maxAlternatives + 1 := by
  obtain ⟨hroot, hfirst, hall, hnone⟩ := keywords_crowded
  obtain ⟨hany, hone, hmembers⟩ := subschemas_crowded
  have hbranch (branch : Pointer)
      (hb : branch ∈ [crowdedBranch "anyOf" 1, crowdedBranch "oneOf" 0]) :
      combinations crowded [] [] branch = 1 := by
    obtain ⟨hwithout, -, hnone⟩ := keywords_crowdedBranch branch hb
    rw [combinations_of_isWithout hwithout, hnone "allOf" (by decide), hnone "anyOf" (by decide),
      hnone "oneOf" (by decide)]
    rfl
  have hfull : combinations crowded [] [] (crowdedBranch "anyOf" 0) = maxAlternatives := by
    rw [combinations_of_isWithout hfirst, hmembers, List.map_congr_left combinations_crowdedMember,
      hnone "anyOf" (by decide), hnone "oneOf" (by decide)]
    rfl
  refine ⟨hfull, ?_⟩
  rw [combinations_of_isWithout hroot, hall, hany, hone, List.map_cons, hfull]
  simp [hbranch]

/-- Zero satisfies each member of the long branch. -/
theorem satisfies_crowdedMember :
    ∀ member ∈ crowdedMembers, Satisfies crowded [] [] member (.int 0) := by
  intro member hm
  obtain ⟨hwithout, hown, hnone, hany, htrue⟩ := keywords_crowdedMember member hm
  refine satisfies_of_isWithout hwithout (satisfiesOwn_of_admitsNumber hown) ?_ ?_ ?_
  · rw [hnone "allOf" (by decide)]
    exact fun _ hm => absurd hm List.not_mem_nil
  · intro _
    have hb : (member.push "anyOf").pushIndex 0 ∈ crowded.subschemas member "anyOf" := by
      rw [hany]
      exact List.mem_cons_self
    exact ⟨_, hb, satisfies_of_bool? (htrue _ hb)⟩
  · exact fun hne => absurd (hnone "oneOf" (by decide)) hne

/-- The first branch has as many alternatives as there is room for. -/
theorem alternatives_ne_unsatisfiable_crowded :
    crowded.Finite ∧ combinations crowded [] [] (crowdedBranch "anyOf" 0) = maxAlternatives ∧
      Satisfies crowded [] [] (crowdedBranch "anyOf" 0) (.int 0) ∧
      (alternatives crowded [] [] (crowdedBranch "anyOf" 0) ⟨[], .start 0, 0⟩).2.cuts = 0 ∧
      (∀ schema reason, (alternatives crowded [] [] (crowdedBranch "anyOf" 0)
        ⟨[], .start 0, 0⟩).1 ≠ .error (.unsatisfiable schema reason)) ∧
      ∀ sets, (alternatives crowded [] [] (crowdedBranch "anyOf" 0)
        ⟨[], .start 0, 0⟩).1 = .ok sets → ∃ set ∈ sets, set.Admits (.int 0) := by
  obtain ⟨-, hfirst, -, hnone⟩ := keywords_crowded
  obtain ⟨-, -, hmembers⟩ := subschemas_crowded
  have finite : crowded.Finite := by decide +kernel
  have hown : AdmitsNumber crowded (crowdedBranch "anyOf" 0) (.int 0) := by decide +kernel
  have hv : Satisfies crowded [] [] (crowdedBranch "anyOf" 0) (.int 0) := by
    refine satisfies_of_isWithout hfirst (satisfiesOwn_of_admitsNumber hown) ?_ ?_ ?_
    · rw [hmembers]
      exact satisfies_crowdedMember
    · exact fun hne => absurd (hnone "anyOf" (by decide)) hne
    · exact fun hne => absurd (hnone "oneOf" (by decide)) hne
  have hroom := combinations_crowded.1
  obtain ⟨huncut, hexact⟩ := alternatives_ne_unsatisfiable finite [] []
    (crowdedBranch "anyOf" 0) ⟨[], .start 0, 0⟩
  have hcuts := huncut (Nat.le_of_eq hroom)
  exact ⟨finite, hroom, hv, hcuts, hexact hcuts _ hv⟩

/-- The failure of a computation, if it has failed. -/
def failure? {α : Type} : Except SchemaError α → Option SchemaError
  | .error error => some error
  | .ok _ => none

theorem eq_error_of_failure? {α : Type} {outcome : Except SchemaError α} {error : SchemaError}
    (h : failure? outcome = some error) : outcome = .error error := by
  cases outcome with
  | error other =>
    cases h
    rfl
  | ok a => cases h

/-- A schema that a value satisfies, and that is taken for one without values. Its combinators
multiply to one alternative more than there is room for. -/
theorem unsatisfiable_crowded :
    crowded.Finite ∧ Satisfies crowded [] [] .root (.int 1) ∧
      combinations crowded [] [] .root = maxAlternatives + 1 ∧
      (alternatives crowded [] [] .root ⟨[], .start 0, 0⟩).1 =
        .error (.unsatisfiable .root "enum/const lists share no value with #/oneOf/0") := by
  have hlevels : crowded.descent [] .root < 7 := by
    have hbound := crowded.descent_lt [] .root
    have htargets : crowded.resolvedTargets.length = 0 := by decide +kernel
    have hheight : crowded.root.height = 6 := by decide +kernel
    rwa [htargets, hheight] at hbound
  have hwalk := @mirrors_descend crowded [] [] 7 .root hlevels ⟨[], .start 0, 0⟩
  have hfailure : (descend crowded [] 7 .root ⟨[], ⟨[], .start 0, 0⟩⟩).map (failure? ·.1) =
      some (some (.unsatisfiable .root "enum/const lists share no value with #/oneOf/0")) := by
    decide +kernel
  rw [hwalk] at hfailure
  refine ⟨by decide +kernel, satisfies_crowded, combinations_crowded.2, ?_⟩
  exact eq_error_of_failure? (Option.some.inj hfailure)

end Crowded

end Specimen.Normalization
