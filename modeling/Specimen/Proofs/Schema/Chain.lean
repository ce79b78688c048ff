import Mathlib.Data.Finset.Card
import Specimen.Schema.Reference

/-!
# Specimen.Proofs.Schema.Chain

Where the references of a schema lead in the end (`resolve_eq_iff`).

A schema with a reference leads to the next one (`Document.hop`). The chain of these hops either ends
at a schema without a reference, or a hop of it fails, or it comes back to a position and goes round
from there on; there are only so many targets of references, so one of these is seen before long
(`exists_le_targets`). At most one of them happens, because a chain that comes back goes on for ever
(`exists_after_of_returns`), and `Document.resolve` tells which.
-/

namespace Specimen.Document

variable {document : Document} {node source other target : Pointer} {reference : String}
variable {error : SchemaError} {count earlier later : Nat}

/-! ### Hops -/

/-- Where the reference of a schema leads, if it has one. -/
def hop (document : Document) (node : Pointer) : Except SchemaError (Option Pointer) := do
  match ← document.referenceOf node with
  | none => return none
  | some reference => return some (← document.resolveReference reference node)

/-- The position behind a number of hops. There is none where the chain ends, or a hop fails,
before. -/
def after (document : Document) (node : Pointer) : Nat → Option Pointer
  | 0 => some node
  | count + 1 => (document.after node count).bind fun last => (document.hop last).toOption.join

/-- The error for a chain that goes round. -/
def looping (start : Pointer) (reference : String) : SchemaError :=
  .invalidSchema start s!"reference '{reference}' loops without reaching a schema"

/-- With a number of hops the chain comes back to a position for the first time. -/
structure Returns (document : Document) (node : Pointer) (count : Nat) (target : Pointer) :
    Prop where
  back : document.after node count = some target
  visited : ∃ earlier < count, document.after node earlier = some target
  first : ∀ earlier later, earlier < later → later < count →
    document.after node earlier ≠ document.after node later

/-- A hop goes where the reference leads. -/
theorem hop_of_referenceOf (h : document.referenceOf node = .ok (some reference)) :
    document.hop node = (document.resolveReference reference node).map some := by
  unfold hop
  rw [h]
  show (document.resolveReference reference node >>= _) = _
  cases document.resolveReference reference node <;> rfl

theorem hop_of_referenceOf_none (h : document.referenceOf node = .ok none) :
    document.hop node = .ok none := by
  unfold hop
  rw [h]
  rfl

/-- A reference that cannot be read stops the chain with its error. -/
theorem hop_of_referenceOf_error (h : document.referenceOf node = .error error) :
    document.hop node = .error error := by
  unfold hop
  rw [h]
  rfl

/-- There is no reference exactly if the keyword is missing. -/
theorem referenceOf_eq_none_iff :
    document.referenceOf node = .ok none ↔ document.keyword? node "$ref" = none := by
  unfold referenceOf
  split <;> simp_all

theorem exists_reference_of_hop (h : document.hop node = .ok (some target)) :
    ∃ reference, document.referenceOf node = .ok (some reference) ∧
      document.resolveReference reference node = .ok target := by
  cases hr : document.referenceOf node with
  | error error => cases (hop_of_referenceOf_error hr).symm.trans h
  | ok found =>
    cases found with
    | none => cases (hop_of_referenceOf_none hr).symm.trans h
    | some reference =>
      rw [hop_of_referenceOf hr] at h
      cases ht : document.resolveReference reference node with
      | error error => rw [ht] at h; cases h
      | ok found =>
        rw [ht] at h
        cases h
        exact ⟨reference, rfl, ht⟩

/-- A hop leads to a target of the document. -/
theorem mem_targets_of_hop (h : document.hop node = .ok (some target)) :
    target ∈ document.targets := by
  obtain ⟨reference, hr, ht⟩ := exists_reference_of_hop h
  exact mem_targets_of_resolveReference hr ht

theorem toList_looping (reference : String) :
    s!"reference '{reference}' loops without reaching a schema".toList =
      "reference '".toList ++ (reference.toList ++ "' loops without reaching a schema".toList) := by
  rw [← List.append_assoc, ← String.toList_append, ← String.toList_append]
  rfl

/-- No hop fails as a chain that goes round does. -/
theorem hop_ne_looping (start : Pointer) (reference : String) :
    document.hop node ≠ .error (looping start reference) := by
  intro h
  cases hr : document.referenceOf node with
  | error error =>
    rw [hop_of_referenceOf_error hr] at h
    cases h
    unfold referenceOf at hr
    split at hr
    · cases hr
    · cases hr
    · have htext := congrArg String.toList
        (SchemaError.invalidSchema.inj (Except.error.inj hr)).2
      rw [toList_looping] at htext
      exact absurd (List.head_eq_of_cons_eq htext) (by decide)
  | ok found =>
    cases found with
    | none => cases (hop_of_referenceOf_none hr).symm.trans h
    | some found =>
      rw [hop_of_referenceOf hr] at h
      unfold resolveReference at h
      split at h
      · cases h
      · split at h <;> cases h

/-! ### Chains -/

/-- One more hop. -/
theorem after_succ_of_hop (h : document.after node count = some source)
    (hhop : document.hop source = .ok (some target)) :
    document.after node (count + 1) = some target := by
  rw [after, h, Option.bind_some, hhop]
  rfl

/-- A chain of several hops ends with one. -/
theorem exists_hop_of_after (h : document.after node (count + 1) = some target) :
    ∃ source, document.after node count = some source ∧
      document.hop source = .ok (some target) := by
  obtain ⟨source, hsource, htarget⟩ := Option.bind_eq_some_iff.mp h
  refine ⟨source, hsource, ?_⟩
  cases hhop : document.hop source with
  | error error => rw [hhop] at htarget; cases htarget
  | ok found => rw [hhop] at htarget; exact congrArg Except.ok htarget

/-- Hops in two stretches. -/
theorem after_add (node : Pointer) (count more : Nat) :
    document.after node (count + more) =
      (document.after node count).bind fun last => document.after last more := by
  induction more with
  | zero => simp [after]
  | succ more ih =>
    rw [← Nat.add_assoc, after, ih, Option.bind_assoc]
    rfl

/-- Where there is a position, there is one behind fewer hops. -/
theorem exists_after_of_le (h : document.after node later = some target) (hle : earlier ≤ later) :
    ∃ source, document.after node earlier = some source := by
  obtain ⟨more, rfl⟩ := Nat.exists_eq_add_of_le hle
  rw [after_add] at h
  obtain ⟨source, hsource, -⟩ := Option.bind_eq_some_iff.mp h
  exact ⟨source, hsource⟩

/-- A chain that comes back goes on for ever. -/
theorem exists_after_of_returns (hlt : earlier < later)
    (hearlier : document.after node earlier = some target)
    (hlater : document.after node later = some target) (count : Nat) :
    ∃ source, document.after node count = some source := by
  induction count using Nat.strongRecOn with
  | ind count ih =>
    rcases Nat.lt_or_ge count later with hcount | hcount
    · exact exists_after_of_le hlater (Nat.le_of_lt hcount)
    · -- Behind the second visit, the chain is where it was behind the first one.
      obtain ⟨more, rfl⟩ := Nat.exists_eq_add_of_le hcount
      obtain ⟨source, hsource⟩ := ih (earlier + more) (by omega)
      rw [after_add, hearlier] at hsource
      rw [after_add, hlater]
      exact ⟨source, hsource⟩

/-- Behind its end a chain has no nodes. -/
theorem after_succ_of_stops (h : document.after node count = some source)
    (hstops : ∀ target, document.hop source ≠ .ok (some target)) :
    document.after node (count + 1) = none := by
  rw [after, h, Option.bind_some]
  cases hhop : document.hop source with
  | error error => rfl
  | ok target =>
    cases target with
    | none => rfl
    | some target => exact absurd hhop (hstops target)

/-- A chain stops at one position only. -/
theorem eq_of_stops (h : document.after node count = some source)
    (hstops : ∀ target, document.hop source ≠ .ok (some target))
    (ho : document.after node later = some other)
    (hostops : ∀ target, document.hop other ≠ .ok (some target)) : source = other := by
  have hle {count later : Nat} {source other : Pointer}
      (h : document.after node count = some source)
      (hstops : ∀ target, document.hop source ≠ .ok (some target))
      (ho : document.after node later = some other) : later ≤ count := by
    refine Nat.le_of_not_lt fun hlt => ?_
    obtain ⟨beyond, hbeyond⟩ := exists_after_of_le ho hlt
    cases (after_succ_of_stops h hstops).symm.trans hbeyond
  have hcount : count = later := Nat.le_antisymm (hle ho hostops h) (hle h hstops ho)
  rw [hcount] at h
  exact Option.some.inj (h.symm.trans ho)

/-- A chain comes back for the first time at one position only. -/
theorem Returns.eq (h : document.Returns node count source)
    (ho : document.Returns node later target) : source = target := by
  have hle {count later : Nat} {source target : Pointer} (h : document.Returns node count source)
      (ho : document.Returns node later target) : later ≤ count := by
    obtain ⟨earlier, hearlier, hvisited⟩ := h.visited
    exact Nat.le_of_not_lt fun hlt =>
      ho.first earlier count hearlier hlt (hvisited.trans h.back.symm)
  have hcount : count = later := Nat.le_antisymm (hle ho h) (hle h ho)
  have hback := h.back
  rw [hcount] at hback
  exact Option.some.inj (hback.symm.trans ho.back)

/-- A chain that stops does not come back. -/
theorem not_returns_of_stops (h : document.after node count = some source)
    (hstops : ∀ target, document.hop source ≠ .ok (some target)) :
    ¬document.Returns node later target := by
  intro hreturns
  obtain ⟨earlier, hlt, hearlier⟩ := hreturns.visited
  obtain ⟨beyond, hbeyond⟩ := exists_after_of_returns hlt hearlier hreturns.back (count + 1)
  cases (after_succ_of_stops h hstops).symm.trans hbeyond

/-- A chain that comes back does so for a first time. -/
theorem exists_returns (hlt : earlier < later)
    (hearlier : document.after node earlier = some target)
    (hlater : document.after node later = some target) :
    ∃ count target, document.Returns node count target := by
  induction later using Nat.strongRecOn generalizing earlier target with
  | ind later ih =>
    by_cases hfirst : ∀ earlier other, earlier < other → other < later →
        document.after node earlier ≠ document.after node other
    · exact ⟨later, target, hlater, ⟨earlier, hlt, hearlier⟩, hfirst⟩
    · push Not at hfirst
      obtain ⟨earlier, other, hlt, hother, heq⟩ := hfirst
      obtain ⟨source, hsource⟩ := exists_after_of_le hlater (Nat.le_of_lt hother)
      exact ih other hother hlt (heq.trans hsource) hsource

/-- Before long a chain has stopped or come back: all positions behind its hops are targets. -/
theorem exists_le_targets (document : Document) (node : Pointer) :
    ∃ count ≤ document.targets.length + 1, document.after node count = none ∨
      ∃ earlier < count, document.after node earlier = document.after node count := by
  by_cases hstops : ∃ count ≤ document.targets.length + 1, document.after node count = none
  · obtain ⟨count, hle, hnone⟩ := hstops
    exact ⟨count, hle, .inl hnone⟩
  · push Not at hstops
    have htargets : ∀ count ∈ Finset.range (document.targets.length + 1),
        document.after node (count + 1) ∈ (document.targets.map some).toFinset := by
      intro count hcount
      have hnext := hstops (count + 1) (Finset.mem_range.mp hcount)
      obtain ⟨target, htarget⟩ := Option.ne_none_iff_exists'.mp hnext
      rw [htarget, List.mem_toFinset]
      obtain ⟨source, -, hhop⟩ := exists_hop_of_after htarget
      exact List.mem_map_of_mem (mem_targets_of_hop hhop)
    have hcard : (document.targets.map some).toFinset.card <
        (Finset.range (document.targets.length + 1)).card := by
      have hle := List.toFinset_card_le (document.targets.map some)
      rw [List.length_map] at hle
      rw [Finset.card_range]
      omega
    obtain ⟨first, hfirst, second, hsecond, hne, heq⟩ :=
      Finset.exists_ne_map_eq_of_card_lt_of_maps_to hcard htargets
    rw [Finset.mem_range] at hfirst hsecond
    rcases Nat.lt_or_gt_of_ne hne with hlt | hlt
    · exact ⟨second + 1, hsecond, .inr ⟨first + 1, Nat.succ_lt_succ hlt, heq⟩⟩
    · exact ⟨first + 1, hfirst, .inr ⟨second + 1, Nat.succ_lt_succ hlt, heq.symm⟩⟩

/-! ### What is found -/

/-- An outcome is what the chain of hops from a position comes to. -/
def Explains (document : Document) (node : Pointer) : Except SchemaError Pointer → Prop
  | .ok target => ∃ count, document.after node count = some target ∧
      document.referenceOf target = .ok none
  | .error error =>
    (∃ count source, document.after node count = some source ∧
      document.hop source = .error error) ∨
    ∃ count target reference, document.Returns node count target ∧
      document.referenceOf target = .ok (some reference) ∧ error = looping node reference

/-- Where a walk along the chain is: it has visited what lies behind fewer hops, each position
once. -/
structure Trail (document : Document) (start : Pointer) (visited : List Pointer) (count : Nat)
    (node : Pointer) : Prop where
  here : document.after start count = some node
  visited_iff : ∀ other, other ∈ visited ↔
    ∃ earlier < count, document.after start earlier = some other
  first : ∀ earlier later, earlier < later → later < count →
    document.after start earlier ≠ document.after start later

variable {start : Pointer} {visited : List Pointer}

/-- Nothing has been seen before the first hop. -/
theorem Trail.begin (document : Document) (start : Pointer) :
    Trail document start [] 0 start where
  here := rfl
  visited_iff := by simp
  first := fun _ _ _ h => absurd h (Nat.not_lt_zero _)

/-- A hop to a node that has not been seen goes on with the trail. -/
theorem Trail.step (h : Trail document start visited count node) (hnew : node ∉ visited)
    (hhop : document.hop node = .ok (some target)) :
    Trail document start (node :: visited) (count + 1) target where
  here := after_succ_of_hop h.here hhop
  visited_iff := by
    intro other
    rw [List.mem_cons, h.visited_iff]
    constructor
    · rintro (rfl | ⟨earlier, hlt, hearlier⟩)
      · exact ⟨count, Nat.lt_succ_self count, h.here⟩
      · exact ⟨earlier, Nat.lt_succ_of_lt hlt, hearlier⟩
    · rintro ⟨earlier, hlt, hearlier⟩
      rcases Nat.lt_or_eq_of_le (Nat.le_of_lt_succ hlt) with hlt | rfl
      · exact .inr ⟨earlier, hlt, hearlier⟩
      · exact .inl (Option.some.inj (hearlier.symm.trans h.here))
  first := by
    intro earlier later hlt hlater heq
    rcases Nat.lt_or_eq_of_le (Nat.le_of_lt_succ hlater) with hlater | rfl
    · exact h.first earlier later hlt hlater heq
    · exact hnew ((h.visited_iff node).mpr ⟨earlier, hlt, heq.trans h.here⟩)

theorem hop_eq_error (hr : document.referenceOf node = .ok (some reference))
    (ht : document.resolveReference reference node = .error error) :
    document.hop node = .error error := by
  rw [hop_of_referenceOf hr, ht]
  rfl

theorem hop_eq_some (hr : document.referenceOf node = .ok (some reference))
    (ht : document.resolveReference reference node = .ok target) :
    document.hop node = .ok (some target) := by
  rw [hop_of_referenceOf hr, ht]
  rfl

/-- What the chase answers is explained by its trail, by induction on the targets not seen yet. -/
theorem explains_chase (hn : node ∈ document.targets)
    (h : Trail document start visited count node) :
    document.Explains start (document.chase start visited node hn) := by
  fun_induction document.chase start visited node hn generalizing count with
  | case1 visited node hn error hr =>
    exact .inl ⟨count, node, h.here, hop_of_referenceOf_error hr⟩
  | case2 visited node hn hr => exact ⟨count, h.here, hr⟩
  | case3 visited node hn reference hr hvisited =>
    have hback := (h.visited_iff node).mp hvisited
    exact .inr ⟨count, node, reference, ⟨h.here, hback, h.first⟩, hr, rfl⟩
  | case4 visited node hn reference hr hnew error ht =>
    exact .inl ⟨count, node, h.here, hop_eq_error hr ht⟩
  | case5 visited node hn reference hr hnew target ht ih =>
    exact ih (h.step hnew (hop_eq_some hr ht))

/-- What `resolve` answers is explained by the chain of hops. -/
theorem explains_resolve (document : Document) (node : Pointer) :
    document.Explains node (document.resolve node) := by
  fun_cases document.resolve node with
  | case1 error hr => exact .inl ⟨0, node, rfl, hop_of_referenceOf_error hr⟩
  | case2 hr => exact ⟨0, rfl, hr⟩
  | case3 reference hr error ht => exact .inl ⟨0, node, rfl, hop_eq_error hr ht⟩
  | case4 reference hr target ht =>
    exact explains_chase _ ((Trail.begin document node).step List.not_mem_nil (hop_eq_some hr ht))

theorem hop_ne_some_of_none (h : document.referenceOf node = .ok none) (target : Pointer) :
    document.hop node ≠ .ok (some target) := by
  rw [hop_of_referenceOf_none h]
  nofun

theorem hop_ne_some_of_error (h : document.hop node = .error error) (target : Pointer) :
    document.hop node ≠ .ok (some target) := by
  rw [h]
  nofun

/-- A chain comes to one outcome only. -/
theorem Explains.eq {first second : Except SchemaError Pointer}
    (h : document.Explains node first) (ho : document.Explains node second) : first = second := by
  have hends {target : Pointer} {error : SchemaError} (h : document.Explains node (.ok target))
      (ho : document.Explains node (.error error)) : False := by
    obtain ⟨count, htarget, hnone⟩ := h
    rcases ho with ⟨later, source, hsource, hfails⟩ | ⟨later, source, -, hreturns, -⟩
    · obtain rfl := eq_of_stops htarget (hop_ne_some_of_none hnone) hsource
        (hop_ne_some_of_error hfails)
      cases (hop_of_referenceOf_none hnone).symm.trans hfails
    · exact not_returns_of_stops htarget (hop_ne_some_of_none hnone) hreturns
  cases first with
  | ok target =>
    cases second with
    | ok other =>
      obtain ⟨count, htarget, hnone⟩ := h
      obtain ⟨later, hother, hnone'⟩ := ho
      rw [eq_of_stops htarget (hop_ne_some_of_none hnone) hother (hop_ne_some_of_none hnone')]
    | error error => exact (hends h ho).elim
  | error error =>
    cases second with
    | ok target => exact (hends ho h).elim
    | error other =>
      rcases h with ⟨count, source, hsource, hfails⟩ | ⟨count, target, reference, hreturns, hr, rfl⟩
      · rcases ho with ⟨later, other, hother, hfails'⟩ | ⟨later, other, -, hreturns, -⟩
        · obtain rfl := eq_of_stops hsource (hop_ne_some_of_error hfails) hother
            (hop_ne_some_of_error hfails')
          cases hfails.symm.trans hfails'
          rfl
        · exact (not_returns_of_stops hsource (hop_ne_some_of_error hfails) hreturns).elim
      · rcases ho with ⟨later, other, hother, hfails⟩ | ⟨later, other, another, hreturns', hr', rfl⟩
        · exact (not_returns_of_stops hother (hop_ne_some_of_error hfails) hreturns).elim
        · obtain rfl := hreturns.eq hreturns'
          cases hr.symm.trans hr'
          rfl

/-- The explanation decides the answer, since only one can be explained. -/
theorem resolve_eq_iff_explains {outcome : Except SchemaError Pointer} :
    document.resolve node = outcome ↔ document.Explains node outcome := by
  constructor
  · rintro rfl
    exact explains_resolve document node
  · exact fun h => (explains_resolve document node).eq h

/-- A chain that goes round is found out exactly if it comes back. -/
theorem resolve_eq_looping_iff :
    (∃ reference, document.resolve node = .error (looping node reference)) ↔
      ∃ earlier later target, earlier < later ∧ document.after node earlier = some target ∧
        document.after node later = some target := by
  constructor
  · rintro ⟨reference, h⟩
    rcases resolve_eq_iff_explains.mp h with ⟨count, source, -, hfails⟩ | ⟨count, target, -, h, -⟩
    · exact absurd hfails (hop_ne_looping node reference)
    · obtain ⟨earlier, hlt, hearlier⟩ := h.visited
      exact ⟨earlier, count, target, hlt, hearlier, h.back⟩
  · rintro ⟨earlier, later, target, hlt, hearlier, hlater⟩
    obtain ⟨count, target, hreturns⟩ := exists_returns hlt hearlier hlater
    obtain ⟨earlier, hlt, hearlier⟩ := hreturns.visited
    obtain ⟨next, hnext⟩ := exists_after_of_returns hlt hearlier hreturns.back (count + 1)
    obtain ⟨last, hlast, hhop⟩ := exists_hop_of_after hnext
    obtain rfl := Option.some.inj (hreturns.back.symm.trans hlast)
    obtain ⟨reference, hr, -⟩ := exists_reference_of_hop hhop
    exact ⟨reference, resolve_eq_iff_explains.mpr (.inr ⟨count, _, reference, hreturns, hr, rfl⟩)⟩

/-- **What following references comes to.** The chain of hops from a position stops or comes back
within a number of hops that the document bounds. A position is found exactly if the chain gets to
it and it has no reference; there is the error for going round exactly if the chain comes back to a
position, and it tells the reference of the first such position; and every other error is that of the
hop that fails. -/
theorem resolve_eq_iff (document : Document) (node : Pointer) :
    (∃ count ≤ document.targets.length + 1, document.after node count = none ∨
      ∃ earlier < count, document.after node earlier = document.after node count) ∧
    (∀ target, document.resolve node = .ok target ↔
      ∃ count, document.after node count = some target ∧
        document.keyword? target "$ref" = none) ∧
    ((∃ reference, document.resolve node = .error (looping node reference)) ↔
      ∃ earlier later target, earlier < later ∧ document.after node earlier = some target ∧
        document.after node later = some target) ∧
    (∀ error, document.resolve node = .error error ↔
      (∃ count source, document.after node count = some source ∧
        document.hop source = .error error) ∨
      ∃ count target reference, document.Returns node count target ∧
        document.referenceOf target = .ok (some reference) ∧ error = looping node reference) := by
  refine ⟨exists_le_targets document node, fun target => ?_, resolve_eq_looping_iff,
    fun error => resolve_eq_iff_explains⟩
  simp only [resolve_eq_iff_explains, Explains, referenceOf_eq_none_iff]

end Specimen.Document
