import Mathlib.Logic.Relation
import Specimen.Proofs.Normalization.Origin
import Specimen.Proofs.Normalization.Plain

/-!
# Specimen.Proofs.Normalization.Opening

What a normalization has to do with the reference targets that it counts as entered
(`included_of_mem_entered`).

A target that the schema leads to in any case has an alternative in every set of demands. A target
that only a branch of an `anyOf` or `oneOf` leads to is entered as soon as the walk comes to it, and
stays entered when the branch turns out to admit no value: then no set has anything to do with it,
but below the schema every reference to it is taken for a cycle
(`included_of_mem_entered_detour`).
-/

namespace Specimen.Normalization

variable (document : Document) (path : List Pointer)

/-! ### Ways to a target -/

/-- A target that a schema leads to in any case. -/
def Opens (visit : Visit) (target : Pointer) : Prop :=
  ∃ holder, Relation.ReflTransGen (Conjunct document path) visit holder ∧
    Enters document path holder.active holder.node target

/-- A target that a schema may lead to. -/
def MayOpen (visit : Visit) (target : Pointer) : Prop :=
  ∃ holder, Relation.ReflTransGen
      (fun visit part => Conjunct document path visit part ∨ IsBranch document visit part)
      visit holder ∧
    Enters document path holder.active holder.node target

/-- A target that a branch of a schema may lead to. -/
def MayOpenInBranch (visit : Visit) (target : Pointer) : Prop :=
  ∃ holder branch, Relation.ReflTransGen (Conjunct document path) visit holder ∧
    IsBranch document holder branch ∧ MayOpen document path branch target

/-- A set of demands was made of an alternative of a target, among others. -/
def Includes (target : Pointer) (set : Constraints) : Prop :=
  ∃ entered broken active part,
    Alternative document path entered broken ⟨active, target⟩ part ∧ part.GoesInto set

variable {document path} {visit : Visit} {target node : Pointer} {report : Report}

theorem opens_or_mayOpenInBranch (h : MayOpen document path visit target) :
    Opens document path visit target ∨ MayOpenInBranch document path visit target := by
  obtain ⟨holder, hway, henters⟩ := h
  induction hway using Relation.ReflTransGen.head_induction_on with
  | refl => exact .inl ⟨holder, .refl, henters⟩
  | @head visit part hstep hrest ih =>
    -- The first step into a branch decides; before it all steps lead to conjuncts.
    rcases hstep with hconjunct | hbranch
    · refine ih.imp ?_ ?_
      · exact fun ⟨other, hother, ht⟩ => ⟨other, .head hconjunct hother, ht⟩
      · exact fun ⟨other, branch, hother, hb⟩ => ⟨other, branch, .head hconjunct hother, hb⟩
    · exact .inr ⟨visit, part, .refl, hbranch, holder, hrest, henters⟩

/-! ### Targets that are led to -/

theorem exists_of_conjuncts {entered broken : Pointer → Prop} {part : Visit} {set : Constraints}
    (hway : Relation.ReflTransGen (Conjunct document path) visit part)
    (h : Alternative document path entered broken visit set) :
    ∃ right, Alternative document path entered broken part right ∧ right.GoesInto set := by
  induction hway with
  | refl => exact ⟨set, h, .self⟩
  | tail _ hstep ih =>
    obtain ⟨middle, hmiddle, hinto⟩ := ih
    obtain ⟨right, hright, hright'⟩ := hmiddle.exists_of_conjunct hstep
    exact ⟨right, hright, hright'.trans hinto⟩

/-- A target that a schema leads to in any case is part of each of its alternatives. -/
theorem Opens.includes {entered broken : Pointer → Prop} {set : Constraints}
    (h : Opens document path ⟨[], node⟩ target)
    (hs : Settles document path entered broken node set) : Includes document path target set := by
  obtain ⟨holder, hway, henters⟩ := h
  obtain ⟨raw, hraw, hfinal⟩ := hs
  obtain ⟨part, hpart, hinto⟩ := exists_of_conjuncts (hway.tail (.reference henters)) hraw
  exact ⟨entered, broken, _, part, hpart, .settled hinto hfinal⟩

/-! ### Targets that are entered -/

/-- Where nothing leads to a target, it is not entered. -/
theorem steady_unopened (target : Pointer) :
    Steady document path (fun visit => ¬MayOpen document path visit target) (fun _ => True)
      (fun _ => True) fun notes => target ∉ notes.entered where
  closed _ _ hv hstep := fun ⟨holder, hway, henters⟩ => hv ⟨holder, .head hstep hway, henters⟩
  note _ _ _ _ h := h
  cut _ _ h := h
  enter notes visit other hv henters h := by
    intro hmem
    rcases List.mem_append.mp hmem with hmem | hmem
    · exact h hmem
    · obtain rfl := List.mem_singleton.mp hmem
      exact hv ⟨visit, .refl, henters⟩
  entered _ _ := .inr trivial
  broken _ _ _ := .inr trivial

/-- The schema may lead to every target that is entered. -/
theorem mayOpen_of_mem_entered {normalization : Normalization}
    (h : (normalize document path node report).1 = .ok normalization)
    (ht : target ∈ normalization.entered) : MayOpen document path ⟨[], node⟩ target := by
  rw [← (demandsOn_of_normalize h).2] at ht
  -- A region without a way to the target is closed under the steps of the walk.
  refine Classical.byContradiction fun hnot => ?_
  have hends := ends_demandsOn (@steady_unopened document path target) node hnot ⟨[], report, 0⟩
  exact hends.1 List.not_mem_nil ht

/-- A schema without demands is a cycle, and nothing is entered for it. -/
theorem sets_ne_nil_or_entered_eq_nil (document : Document) (path : List Pointer) (node : Pointer)
    (notes : Notes) :
    (∀ demands, (demandsOn document path node notes).1 = .ok demands → demands.sets ≠ []) ∨
      (demandsOn document path node notes).2.entered = notes.entered := by
  have hsettled : Yields (settledDemands document path node) fun demands => demands.sets ≠ [] :=
    (yields_any (alternatives document path [] node)).andThen fun sets =>
      ends_lift fun demands hdemands => sets_ne_nil_of_settle hdemands
  have hfound (demands : Demands)
      (hd : (settledDemands document path node notes).1 = .ok demands) : demands.sets ≠ [] :=
    ((hsettled notes).2 demands hd).resolve_left fun hf => hf
  rw [demandsOn_eq]
  split
  · exact .inr rfl
  · exact .inl hfound
  · split
    · exact .inr rfl
    · split
      · exact .inr rfl
      · exact .inl hfound

theorem sets_ne_nil_of_mem_entered {normalization : Normalization}
    (h : (normalize document path node report).1 = .ok normalization)
    (ht : target ∈ normalization.entered) : normalization.demands.sets ≠ [] := by
  have hcases := sets_ne_nil_or_entered_eq_nil document path node ⟨[], report, 0⟩
  rw [← (demandsOn_of_normalize h).2] at ht
  rcases hcases with hsets | hentered
  · exact hsets _ (demandsOn_of_normalize h).1
  · rw [hentered] at ht
    cases ht

/-- **Entered targets and the demands.** Each target that counts as entered was closed before, and
there are demands. An alternative of the target is part of every set of them, unless the way to it
leads through a branch of an `anyOf` or `oneOf`. -/
theorem included_of_mem_entered {normalization : Normalization}
    (h : (normalize document path node report).1 = .ok normalization)
    (ht : target ∈ normalization.entered) :
    target ∈ document.resolvedTargets ∧ target ∉ path ∧ normalization.demands.sets ≠ [] ∧
      ((∀ set ∈ normalization.demands.sets, Includes document path target set) ∨
        MayOpenInBranch document path ⟨[], node⟩ target) := by
  obtain ⟨hresolved, hclosed⟩ := (normalize_origin h).entered target ht
  refine ⟨hresolved, hclosed, sets_ne_nil_of_mem_entered h ht, ?_⟩
  refine (opens_or_mayOpenInBranch (mayOpen_of_mem_entered h ht)).imp_left fun hopens => ?_
  exact fun set hset => hopens.includes (exists_alternative h set hset)

/-! ### A target that is entered in vain -/

section Detour

/-- Of the two branches of this schema the first one leads to `a` and admits no value; the second
one has a property for which `a` is the schema. -/
def detour : Document := .ofJson (.object
  [("anyOf", .arr
    [.object [("$ref", .str "#/$defs/a"), ("allOf", .arr [.bool false])],
      .object [("properties", .object [("x", .object [("$ref", .str "#/$defs/a")])])]]),
    ("$defs", .object [("a", .object [("required", .arr [.str "k"])])])])

/-- The target of the references. -/
def detourTarget : Pointer := (Pointer.root.push "$defs").push "a"

/-- A branch. -/
def detourBranch (index : Nat) : Pointer := (Pointer.root.push "anyOf").pushIndex index

/-- The property of the second branch. -/
def detourProperty : Pointer := ((detourBranch 1).push "properties").push "x"

theorem alternatives_detourTarget (active : List Pointer) :
    alternatives detour [.root] active detourTarget =
      do return [← liftM (Constraints.ofSchema detour detourTarget)] :=
  alternatives_of_isPlain ⟨⟨_, rfl⟩, by decide +kernel⟩

/-- The first branch enters the target before it fails. -/
theorem alternatives_detourBranch :
    alternatives detour [.root] [] (detourBranch 0) = fun notes =>
      (.error (.unsatisfiable (((detourBranch 0).push "allOf").pushIndex 0)
          "schema `false` admits no value"),
        { notes with entered := notes.entered ++ [detourTarget] }) := by
  have hr : detour.referenceOf (detourBranch 0) = .ok (some "#/$defs/a") :=
    eq_ok_of_toOption (by decide +kernel)
  have ht : detour.resolveReference "#/$defs/a" (detourBranch 0) = .ok detourTarget :=
    eq_ok_of_toOption (by decide +kernel)
  have hreference (sets : List Constraints) :=
    withReference_of_enters hr ht (by decide : ¬(detourTarget ∈ [Pointer.root] ∨ detourTarget ∈ []))
      (fun target => alternatives detour [.root] [target] target) sets
  have hmembers : detour.subschemas (detourBranch 0) "allOf" =
      [((detourBranch 0).push "allOf").pushIndex 0] := by decide +kernel
  have hfalse : detour.fragment (((detourBranch 0).push "allOf").pushIndex 0) = .bool false := rfl
  rw [alternatives_of_obj _ rfl]
  simp only [hreference, alternatives_detourTarget, hmembers, List.foldlM_cons,
    alternatives_of_false hfalse]
  rfl

/-- The target counts as entered, and nothing of what it requires is demanded. -/
theorem normalize_detour :
    (normalize detour [.root] .root (.start 0)).1.toOption.map (fun normalization =>
      (normalization.entered, normalization.demands.sets.map (·.required.toList))) =
        some ([detourTarget], [[]]) := by
  have hplain : alternatives detour [.root] [] (detourBranch 1) =
      do return [← liftM (Constraints.ofSchema detour (detourBranch 1))] :=
    alternatives_of_isPlain ⟨⟨_, rfl⟩, by decide +kernel⟩
  have hbranches : detour.subschemas .root "anyOf" = [detourBranch 0, detourBranch 1] := by
    decide +kernel
  have hreference : detour.referenceOf .root = .ok none := eq_ok_of_toOption (by decide +kernel)
  unfold normalize
  rw [demandsOn_eq, hreference]
  dsimp only
  unfold settledDemands
  rw [alternatives_of_obj _ rfl]
  simp only [withBranches_eq_mapM, hbranches, List.mapM_cons, List.mapM_nil,
    alternatives_detourBranch, hplain]
  decide +kernel

/-- Below the second branch, the reference to the target is taken for a cycle. -/
theorem normalize_detourProperty :
    (normalize detour [.root, detourTarget] detourProperty (.start 0)).1 =
      .ok ⟨.cycle detourTarget, []⟩ := by
  have hr : detour.referenceOf detourProperty = .ok (some "#/$defs/a") :=
    eq_ok_of_toOption (by decide +kernel)
  have ht : detour.resolveReference "#/$defs/a" detourProperty = .ok detourTarget :=
    eq_ok_of_toOption (by decide +kernel)
  unfold normalize
  rw [demandsOn_eq, hr]
  dsimp only
  rw [ht]
  rfl

theorem mem_required_of_includes_detour {set : Constraints}
    (h : Includes detour [.root] detourTarget set) : "k" ∈ set.required := by
  obtain ⟨entered, broken, active, part, hpart, hinto⟩ := h
  have hread : (Constraints.ofSchema detour detourTarget).toOption.map (·.required.toList) =
      some ["k"] := by decide +kernel
  refine hinto.mem_required ?_
  cases hpart with
  | any htrue => cases htrue
  | object _ howns _ hconjoined =>
    obtain ⟨own, hown, rfl⟩ := howns
    refine hconjoined.goesInto.mem_required ?_
    rw [hown] at hread
    have hrequired : own.required.toList = ["k"] := Option.some.inj hread
    exact NameSet.mem_toList.mp (hrequired ▸ List.mem_singleton_self "k")

theorem included_of_mem_entered_detour :
    ∃ normalization, (normalize detour [.root] .root (.start 0)).1 = .ok normalization ∧
      detourTarget ∈ normalization.entered ∧
      (detourTarget ∈ detour.resolvedTargets ∧ detourTarget ∉ [Pointer.root] ∧
        normalization.demands.sets ≠ [] ∧
        ((∀ set ∈ normalization.demands.sets, Includes detour [.root] detourTarget set) ∨
          MayOpenInBranch detour [.root] ⟨[], .root⟩ detourTarget)) ∧
      (∀ set ∈ normalization.demands.sets, ¬Includes detour [.root] detourTarget set) ∧
      (normalize detour ([.root] ++ normalization.entered) detourProperty (.start 0)).1 =
        .ok ⟨.cycle detourTarget, []⟩ := by
  obtain ⟨normalization, hnormalization, hfound⟩ := Option.map_eq_some_iff.mp normalize_detour
  obtain ⟨hentered, hrequired⟩ := Prod.mk.inj hfound
  have hok := eq_ok_of_toOption hnormalization
  have hmem : detourTarget ∈ normalization.entered := by
    rw [hentered]
    exact List.mem_singleton_self _
  refine ⟨normalization, hok, hmem, included_of_mem_entered hok hmem, ?_, ?_⟩
  · intro set hset hincludes
    have hnone : set.required.toList ∈ [([] : List String)] :=
      hrequired ▸ List.mem_map_of_mem hset
    have hk : "k" ∈ set.required.toList := mem_required_of_includes_detour hincludes
    rw [List.mem_singleton.mp hnone] at hk
    cases hk
  · rw [hentered]
    exact normalize_detourProperty

end Detour

end Specimen.Normalization
