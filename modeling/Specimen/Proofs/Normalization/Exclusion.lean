import Mathlib.Logic.Relation
import Specimen.Proofs.Normalization.Composition

/-!
# Specimen.Proofs.Normalization.Exclusion

What becomes of the values that a `not` lists (`excludes_of_normalize`).

A schema is merged into another one as the target of its reference, as a member of its `allOf` or as
its `then`, and so on from there. Whatever its `not` lists is excluded by every set of demands of
the other schema, since no intersection and no settling takes an excluded value back
(`Constraints.GoesInto.mem_excluded`). Only a reference that is left open on the way keeps it out,
and then the report lists a broken cycle (`LeavesOpen`).
-/

namespace Specimen

theorem Constraints.GoesInto.mem_excluded {part set : Constraints} {value : Json}
    (h : part.GoesInto set) (hv : value ∈ part.excluded) : value ∈ set.excluded := by
  induction h with
  | self => exact hv
  | left _ hi ih =>
    obtain ⟨kinds, candidates, -, -, rfl⟩ := exists_mergeWith_of_intersect hi
    exact List.mem_append_left _ ih
  | right _ hi ih =>
    obtain ⟨kinds, candidates, -, -, rfl⟩ := exists_mergeWith_of_intersect hi
    exact List.mem_append_right _ ih
  | settled _ hf ih =>
    rw [(settlesTo_of_finalize hf).same]
    exact ih

namespace Normalization

/-! ### Schemas that are merged -/

section Relation

variable (document : Document)

/-- On the way from a schema to one that is merged into it there is a reference with a property. -/
def LeavesOpen (broken : Pointer → Prop) (node part : Pointer) : Prop :=
  ∃ holder target, Relation.ReflTransGen (Merges document) node holder ∧
    RefersTo document holder target ∧ Relation.ReflTransGen (Merges document) target part ∧
    broken holder

end Relation

variable {document : Document} {path : List Pointer} {entered broken other : Pointer → Prop}
variable {visit : Visit} {node part : Pointer} {set : Constraints} {value : Json}

theorem LeavesOpen.mono (h : LeavesOpen document broken node part)
    (hb : ∀ holder, broken holder → other holder) : LeavesOpen document other node part := by
  obtain ⟨holder, target, hway, hrefers, hrest, hholder⟩ := h
  exact ⟨holder, target, hway, hrefers, hrest, hb holder hholder⟩

theorem LeavesOpen.head {middle : Pointer} (hm : Merges document node middle)
    (h : LeavesOpen document broken middle part) : LeavesOpen document broken node part := by
  obtain ⟨holder, target, hway, hrest⟩ := h
  exact ⟨holder, target, .head hm hway, hrest⟩

/-- **Nothing that is merged is lost.** A schema that is merged into another one has an alternative
in each alternative of that schema, unless a reference on the way was left open. -/
theorem exists_of_merges {active : List Pointer}
    (hway : Relation.ReflTransGen (Merges document) node part)
    (h : Alternative document path entered broken ⟨active, node⟩ set) :
    LeavesOpen document broken node part ∨ ∃ active right,
      Alternative document path entered broken ⟨active, part⟩ right ∧ right.GoesInto set := by
  -- From the schema down to the part, since the parts of an alternative are below it; a reference
  -- changes the targets that are active, so these are general.
  induction hway using Relation.ReflTransGen.head_induction_on generalizing active set with
  | refl => exact .inr ⟨active, set, h, .self⟩
  | @head node middle hstep hrest ih =>
    cases h with
    | any htrue => exact absurd hstep (not_merges_of_bool htrue)
    | object _ _ hparts hconj =>
      rcases hparts.mem_of_merges hstep with ⟨hrefers, hb⟩ | ⟨inner, hmem⟩
      · exact .inl ⟨node, middle, .refl, hrefers, hrest, hb⟩
      · obtain ⟨right, hright, hinto⟩ := hconj.exists_of_mem hmem
        refine (ih hright).imp (fun hopen => hopen.head hstep) fun hfound => ?_
        obtain ⟨active, deep, hdeep, hdeeper⟩ := hfound
        exact ⟨active, deep, hdeep, hdeeper.trans hinto⟩

/-! ### Excluded values -/

theorem mem_excluded_of_alternative {active : List Pointer}
    (h : Alternative document path entered broken ⟨active, node⟩ set)
    (hv : value ∈ negatedValues document node) : value ∈ set.excluded := by
  cases h with
  | any htrue =>
    simp [negatedValues, Document.subschema?, Document.keyword?_of_bool htrue] at hv
  | object _ howns _ hconj =>
    obtain ⟨own, -, rfl⟩ := howns
    exact hconj.goesInto.mem_excluded (List.mem_append_right _ hv)

theorem pointer_of_conjoined {left : Constraints} {parts : List Visit}
    (h : Conjoined document path entered broken left parts set) : set.pointer = left.pointer := by
  induction parts generalizing left with
  | nil =>
    cases h
    rfl
  | cons part parts ih =>
    obtain ⟨⟩ | ⟨-, hi, hc⟩ := h
    obtain ⟨kinds, candidates, -, -, rfl⟩ := Constraints.exists_mergeWith_of_intersect hi
    exact (ih hc).trans rfl

/-- The demands of a schema are reported under its own name. -/
theorem pointer_of_alternative {active : List Pointer}
    (h : Alternative document path entered broken ⟨active, node⟩ set) : set.pointer = node := by
  cases h with
  | any => rfl
  | object _ howns _ hconj =>
    obtain ⟨own, hown, rfl⟩ := howns
    exact (pointer_of_conjoined hconj).trans (Constraints.isReading_of_ofSchema_eq_ok hown).pointer

/-- A set of demands of a schema excludes a value, and has done so with its candidates. -/
structure Excludes (node : Pointer) (value : Json) (set : Constraints) : Prop where
  pointer : set.pointer = node
  excluded : value ∈ set.excluded
  candidates : ∀ candidates ∈ set.candidates, ∀ candidate ∈ candidates,
    Json.contains set.excluded candidate = false

theorem excludes_of_settles (hway : Relation.ReflTransGen (Merges document) node part)
    (hv : value ∈ negatedValues document part)
    (h : Settles document path entered broken node set) :
    LeavesOpen document broken node part ∨ Excludes node value set := by
  obtain ⟨raw, hraw, hfinal⟩ := h
  refine (exists_of_merges hway hraw).imp_right fun hfound => ?_
  obtain ⟨active, right, hright, hinto⟩ := hfound
  have hsettles := Constraints.settlesTo_of_finalize hfinal
  have hpointer : set.pointer = raw.pointer := by rw [hsettles.same]
  have hexcluded : set.excluded = raw.excluded := by rw [hsettles.same]
  constructor
  · exact hpointer.trans (pointer_of_alternative hraw)
  · rw [hexcluded]
    exact hinto.mem_excluded (mem_excluded_of_alternative hright hv)
  · rw [hexcluded]
    exact fun candidates hc => (hsettles.listed candidates hc).2

/-- Each set of demands excludes what the `not` of a schema lists that is merged, unless the report
lists a reference on the way that was left open. -/
theorem excludes_of_normalize {report : Report} {normalization : Normalization}
    (hway : Relation.ReflTransGen (Merges document) node part)
    (hv : value ∈ negatedValues document part)
    (h : (normalize document path node report).1 = .ok normalization) :
    LeavesOpen document (fun holder =>
        (normalize document path node report).2.Lists .cycleBroken holder.text) node part ∨
      ∀ set ∈ normalization.demands.sets, Excludes node value set := by
  refine Classical.or_iff_not_imp_left.mpr fun hopen set hset => ?_
  exact (excludes_of_settles hway hv (exists_alternative h set hset)).resolve_left hopen

end Normalization

end Specimen
