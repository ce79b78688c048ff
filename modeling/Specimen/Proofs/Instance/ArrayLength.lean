import Specimen.Instance.Array
import Specimen.Proofs.Constraint.Settled
import Specimen.Proofs.Options

/-!
# Specimen.Proofs.Instance.ArrayLength

Which lengths there are to choose from for an array (`arrayBounds_verdict`).

Whether demands leave room for an array at all is settled from the demands alone
(`Constraints.arrayConflict?`), while the lengths to choose from also depend on the options and on the
first items. Both agree except in one case (`Constraints.LacksItem`): the item for `contains` counts
for the least length, but the greatest length that the options give is not raised for it.
-/

namespace Specimen

namespace Constraints

variable {set : Constraints} {least greatest : Nat} {fallback : Nat × Nat}

/-- The ends of a range of lengths that an array for the demands may have. The first items are filled
in as far as the greatest length allows. -/
structure IsLengthRange (set : Constraints) (least greatest : Nat) : Prop where
  ordered : least ≤ greatest
  minItems : ∀ limit ∈ set.minItems, limit ≤ least
  maxItems : ∀ limit ∈ set.maxItems, greatest ≤ limit
  closed : set.items = .forbidden → greatest ≤ set.prefixItems.length
  contains : set.contains.isSome = true → 1 ≤ least
  filled : min set.prefixItems.length greatest ≤ least

/-- There has to be an item for `contains`, but the schema gives no length, and by the options an
array without a given length has no items. -/
structure LacksItem (set : Constraints) (fallback : Nat × Nat) : Prop where
  contains : set.contains.isSome = true
  minItems : set.minItems.getD 0 = 0
  maxItems : set.maxItems = none
  fallback : fallback.2 = 0

theorem permits_eq_false_iff {extra : Extra} : extra.permits = false ↔ extra = .forbidden := by
  cases extra <;> simp [Extra.permits]

theorem maxItemCount_eq : set.maxItemCount =
    if set.items = .forbidden then min (set.maxItems.getD maxCount) set.prefixItems.length
    else set.maxItems.getD maxCount := by
  unfold maxItemCount
  by_cases hforbidden : set.items = .forbidden
  · simp [hforbidden, Extra.permits]
  · have hpermits : set.items.permits = true := by
      rwa [← Bool.not_eq_false, permits_eq_false_iff]
    simp [hforbidden, hpermits]

theorem arrayConflict?_eq_none_iff : set.arrayConflict? = none ↔
    (set.contains.isSome = true → set.maxItemCount ≠ 0) ∧
      set.minItems.getD 0 ≤ set.maxItemCount := by
  unfold arrayConflict?
  dsimp only
  split
  · simp_all
  · split
    · simp_all
    · simp_all

/-- The greatest length to choose meets the demands, and it is zero in spite of `contains` only where
the options make it so. -/
theorem IsSettledFor.greatestLength (h : set.IsSettledFor .array) (fallback : Nat × Nat)
    (hgreatest : greatest =
      let limit := set.maxItems.getD (max fallback.2 (set.minItems.getD 0))
      if set.items = .forbidden then min limit set.prefixItems.length else limit) :
    set.minItems.getD 0 ≤ greatest ∧ (∀ limit ∈ set.maxItems, greatest ≤ limit) ∧
      (set.items = .forbidden → greatest ≤ set.prefixItems.length) ∧
      (set.contains.isSome = true → greatest = 0 → set.LacksItem fallback) := by
  obtain ⟨hitem, hroom⟩ := arrayConflict?_eq_none_iff.mp h.conflict?_eq_none
  have hcount : maxCount ≠ 0 := by decide
  rw [maxItemCount_eq] at hitem hroom
  dsimp only at hgreatest
  by_cases hforbidden : set.items = .forbidden
  · rw [if_pos hforbidden] at hgreatest hitem hroom
    cases hmax : set.maxItems with
    | none =>
      rw [hmax, Option.getD_none] at hgreatest hitem hroom
      refine ⟨by omega, by simp, fun _ => by omega, fun hcontains hzero => ?_⟩
      have := hitem hcontains
      exact ⟨hcontains, by omega, hmax, by omega⟩
    | some limit =>
      rw [hmax, Option.getD_some] at hgreatest hitem hroom
      refine ⟨by omega, by simp; omega, fun _ => by omega, fun hcontains hzero => ?_⟩
      exact absurd (hgreatest ▸ hzero) (hitem hcontains)
  · rw [if_neg hforbidden] at hgreatest hitem hroom
    cases hmax : set.maxItems with
    | none =>
      rw [hmax, Option.getD_none] at hgreatest
      refine ⟨by omega, by simp, fun hf => absurd hf hforbidden, fun hcontains hzero => ?_⟩
      exact ⟨hcontains, by omega, hmax, by omega⟩
    | some limit =>
      rw [hmax, Option.getD_some] at hgreatest hitem hroom
      refine ⟨by omega, by simp; omega, fun hf => absurd hf hforbidden, fun hcontains hzero => ?_⟩
      exact absurd (hgreatest ▸ hzero) (hitem hcontains)

/-- At least as many items as are asked for, and the first ones as far as there is room. -/
theorem filledLength_spec {first filled : Nat} (hmin : set.minItems.getD 0 ≤ greatest)
    (hfilled : filled = max (set.minItems.getD (min first greatest))
      (min set.prefixItems.length greatest)) :
    (∀ limit ∈ set.minItems, limit ≤ filled) ∧ min set.prefixItems.length greatest ≤ filled ∧
      filled ≤ greatest := by
  cases hitems : set.minItems with
  | none =>
    rw [hitems, Option.getD_none] at hfilled
    exact ⟨by simp, by omega, by omega⟩
  | some limit =>
    rw [hitems, Option.getD_some] at hfilled hmin
    exact ⟨by simp; omega, by omega, by omega⟩

/-- One more item for `contains` leaves the length in the range. -/
theorem isLengthRange_of_filled {filled : Nat} (hmin : ∀ limit ∈ set.minItems, limit ≤ filled)
    (hfirst : min set.prefixItems.length greatest ≤ filled) (hle : filled ≤ greatest)
    (hmax : ∀ limit ∈ set.maxItems, greatest ≤ limit)
    (hclosed : set.items = .forbidden → greatest ≤ set.prefixItems.length)
    (hitem : set.contains.isSome = true → greatest ≠ 0) :
    set.IsLengthRange (if set.contains.isSome then max filled 1 else filled) greatest := by
  split
  · rename_i hcontains
    have hpos := hitem hcontains
    exact ⟨by omega, fun limit hlimit => Nat.le_trans (hmin limit hlimit) (Nat.le_max_left _ _),
      hmax, hclosed, fun _ => Nat.le_max_right _ _, Nat.le_trans hfirst (Nat.le_max_left _ _)⟩
  · rename_i hcontains
    exact ⟨hle, hmin, hmax, hclosed, fun hsome => absurd hsome hcontains, hfirst⟩

/-- Without an item for `contains` by the options, one item would still be a length that the demands
admit. -/
theorem LacksItem.isLengthRange_one (hlacks : set.LacksItem fallback)
    (h : set.IsSettledFor .array) : set.IsLengthRange 1 1 := by
  obtain ⟨hitem, -⟩ := arrayConflict?_eq_none_iff.mp h.conflict?_eq_none
  have hroom := hitem hlacks.contains
  rw [maxItemCount_eq] at hroom
  refine ⟨Nat.le_refl 1, fun limit hlimit => ?_, fun limit hlimit => ?_, fun hforbidden => ?_,
    fun _ => Nat.le_refl 1, Nat.min_le_right _ _⟩
  · have hzero := hlacks.minItems
    rw [Option.mem_def.mp hlimit, Option.getD_some] at hzero
    omega
  · rw [hlacks.maxItems] at hlimit
    cases hlimit
  · rw [if_pos hforbidden] at hroom
    omega

end Constraints

namespace Instance

open Constraints

variable {set : Constraints}

/-- **The lengths of an array.** For settled demands there are lengths to choose from, as the demands
and the first items ask for, whatever the options are. Only the item for `contains` may lack: where
the schema gives no length and the options give none but zero, one item would be admitted, but the
demands are taken for unsatisfiable. -/
theorem arrayBounds_verdict (h : set.IsSettledFor .array) (fallback : Nat × Nat) :
    (¬set.LacksItem fallback → ∃ least greatest,
      arrayBounds set fallback = .ok (least, greatest) ∧ set.IsLengthRange least greatest) ∧
    (set.LacksItem fallback → set.IsLengthRange 1 1 ∧
      ∃ reason, arrayBounds set fallback = .error (.unsatisfiable set.pointer reason)) := by
  unfold arrayBounds
  dsimp only
  generalize hgreatest : (if set.items = .forbidden then _ else _) = greatest
  obtain ⟨hmin, hmax, hclosed, hlacks⟩ := h.greatestLength fallback hgreatest.symm
  generalize hfilled : max (set.minItems.getD _) (min _ greatest) = filled
  obtain ⟨hleast, hfirst, hle⟩ := filledLength_spec hmin hfilled.symm
  constructor
  · intro hitem
    have hrange := isLengthRange_of_filled hleast hfirst hle hmax hclosed
      fun hcontains hzero => hitem (hlacks hcontains hzero)
    exact ⟨_, greatest, if_neg (Nat.not_lt.mpr hrange.ordered), hrange⟩
  · intro hitem
    have hzero : greatest = 0 := by
      rw [← hgreatest, hitem.maxItems, Option.getD_none, hitem.minItems, hitem.fallback]
      split <;> simp
    refine ⟨hitem.isLengthRange_one h, _, if_pos ?_⟩
    rw [if_pos hitem.contains, hzero]
    exact Nat.lt_of_lt_of_le Nat.zero_lt_one (Nat.le_max_right _ _)

/-- One item, which has to be the one for `contains`. -/
def tupleOfOne : Constraints :=
  { Constraints.any .root with
    kinds := .of [.array]
    prefixItems := [Pointer.root.push "first"]
    items := .forbidden
    contains := some (Pointer.root.push "contains") }

/-- With options that are accepted, there are no lengths to choose from, although the demands admit an
array of one item; there are when the options ask for more. -/
theorem arrayBounds_tupleOfOne :
    tupleOfOne.IsSettledFor .array ∧ tupleOfOne.LacksItem (0, 0) ∧
      ({ Options.default with arrayLength := (0, 0) } : Options).IsValid ∧
      tupleOfOne.IsLengthRange 1 1 ∧
      (∃ reason, arrayBounds tupleOfOne (0, 0) = .error (.unsatisfiable .root reason)) ∧
      ¬tupleOfOne.LacksItem (0, 5) ∧
      ∃ least greatest, arrayBounds tupleOfOne (0, 5) = .ok (least, greatest) ∧
        tupleOfOne.IsLengthRange least greatest := by
  have hsettled : tupleOfOne.IsSettledFor .array :=
    isSettledFor_of_single .array (by decide) rfl rfl (by decide +kernel)
  have hlacks : tupleOfOne.LacksItem (0, 0) := ⟨rfl, rfl, rfl, rfl⟩
  have hroom : ¬tupleOfOne.LacksItem (0, 5) := fun h => by cases h.fallback
  have hvalid : ({ Options.default with arrayLength := (0, 0) } : Options).IsValid :=
    Options.isValid_default.withArrayLength (Nat.le_refl 0)
  obtain ⟨hone, hreason⟩ := (arrayBounds_verdict hsettled (0, 0)).2 hlacks
  exact ⟨hsettled, hlacks, hvalid, hone, hreason, hroom,
    (arrayBounds_verdict hsettled (0, 5)).1 hroom⟩

end Instance

end Specimen
