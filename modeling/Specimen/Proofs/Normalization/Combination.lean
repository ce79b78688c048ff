import Specimen.Proofs.Normalization.Satisfaction

/-!
# Specimen.Proofs.Normalization.Combination

Where the alternatives come from that a walk gives.

A combination of two lists of alternatives intersects a member of each (`mem_product`), and the
alternatives of some branches are those of one of them (`mem_branchAlternatives`). When there are
none, no value meets the demands (`product_cases`, `branchAlternatives_cases`). The demands of a
schema are its alternatives, each of them settled (`mem_sets_of_settle`).
-/

namespace Specimen

/-- The sets of demands to choose from. -/
def Demands.sets : Demands → List Constraints
  | single set => [set]
  | choice sets => sets
  | cycle _ => []

namespace Normalization

/-! ### Combining two lists -/

section Product

variable {left right set : Constraints} {lefts rights sets : List Constraints}
variable {list : List (Constraints × Constraints)} {room : Nat}

/-- The combinations of a list of pairs are combinations of its pairs. -/
theorem mem_intersections (h : set ∈ (intersections room list).1) :
    ∃ pair ∈ list, pair.1.intersect pair.2 = .ok set := by
  fun_induction intersections room list with
  | case1 => cases h
  | case2 => cases h
  | case3 room left right rest set' hok sets error hrest ih =>
    rcases List.mem_cons.mp h with rfl | h
    · exact ⟨(left, right), List.mem_cons_self, hok⟩
    · obtain ⟨pair, hp, hi⟩ := ih (by rw [hrest]; exact h)
      exact ⟨pair, List.mem_cons_of_mem _ hp, hi⟩
  | case4 room left right rest error herr ih =>
    obtain ⟨pair, hp, hi⟩ := ih h
    exact ⟨pair, List.mem_cons_of_mem _ hp, hi⟩

/-- As long as no pair is left out, all combinations are there. -/
theorem mem_intersections_of_not_leavesOut {pair : Constraints × Constraints}
    (hroom : leavesOut room list = false) (hp : pair ∈ list)
    (hi : pair.1.intersect pair.2 = .ok set) : set ∈ (intersections room list).1 := by
  fun_induction intersections room list with
  | case1 list =>
    cases list with
    | nil => cases hp
    | cons first rest => cases hroom
  | case2 => cases hp
  | case3 room left right rest set' hok sets error hrest ih =>
    rw [leavesOut, hok] at hroom
    rcases List.mem_cons.mp hp with rfl | hp
    · rw [hok] at hi
      cases hi
      exact List.mem_cons_self
    · exact List.mem_cons_of_mem _ (by simpa [hrest] using ih hroom hp)
  | case4 room left right rest error herr ih =>
    rw [leavesOut, herr] at hroom
    rcases List.mem_cons.mp hp with rfl | hp
    · rw [herr] at hi; cases hi
    · exact ih hroom hp

/-- A contradiction between two sets is that no value meets both. -/
theorem unsatisfiable_of_mem_intersections {error : SchemaError}
    (h : (intersections room list).2 = some error) : error.Unsatisfiable := by
  fun_induction intersections room list with
  | case1 => cases h
  | case2 => cases h
  | case3 room left right rest set' hok sets error hrest ih => exact ih (by rw [hrest]; exact h)
  | case4 room left right rest error' herr ih =>
    cases h
    rcases Constraints.intersect_cases left right with ⟨_, _, -, -, hok⟩ | ⟨-, reason, heq⟩
    · cases hok.symm.trans herr
    · cases heq.symm.trans herr
      exact ⟨_, _, rfl⟩

theorem mem_pairs : (left, right) ∈ pairs lefts rights ↔ left ∈ lefts ∧ right ∈ rights := by
  simp [pairs]

/-- The two ways in which combining two lists ends. -/
theorem product_cases (node : Pointer) (lefts rights : List Constraints) :
    product node lefts rights = .ok (intersections maxAlternatives (pairs lefts rights)).1 ∨
    ((intersections maxAlternatives (pairs lefts rights)).1 = [] ∧
      ∃ error, product node lefts rights = .error error ∧ error.Unsatisfiable) := by
  unfold product
  split
  · rename_i error heq
    refine .inr ⟨by rw [heq], error, rfl, ?_⟩
    exact unsatisfiable_of_mem_intersections (by rw [heq])
  · rename_i heq
    exact .inr ⟨by rw [heq], _, rfl, _, _, rfl⟩
  · rename_i heq
    exact .inl (by rw [heq])

theorem mem_product {node : Pointer} (h : product node lefts rights = .ok sets) (hset : set ∈ sets) :
    ∃ left ∈ lefts, ∃ right ∈ rights, left.intersect right = .ok set := by
  rcases product_cases node lefts rights with hok | ⟨-, error, herr, -⟩
  · cases h.symm.trans hok
    obtain ⟨⟨left, right⟩, hp, hi⟩ := mem_intersections hset
    obtain ⟨hleft, hright⟩ := mem_pairs.mp hp
    exact ⟨left, hleft, right, hright, hi⟩
  · cases h.symm.trans herr

end Product

/-! ### Joining the results of branches -/

section Branches

variable {results : List (Except SchemaError (List Constraints))} {set : Constraints}

theorem mem_flatten_filterMap_toOption :
    set ∈ (results.filterMap Except.toOption).flatten ↔
      ∃ sets, .ok sets ∈ results ∧ set ∈ sets := by
  simp only [List.mem_flatten, List.mem_filterMap]
  constructor
  · intro h
    obtain ⟨sets, ⟨result, hr, hsome⟩, hset⟩ := h
    cases result with
    | error error => cases hsome
    | ok found =>
      cases Option.some.inj hsome
      exact ⟨_, hr, hset⟩
  · intro h
    obtain ⟨sets, hr, hset⟩ := h
    exact ⟨sets, ⟨.ok sets, hr, rfl⟩, hset⟩

/-- The two ways in which joining the results of branches ends, if those that failed did so for want
of a value. -/
theorem branchAlternatives_cases (node : Pointer) (keyword : String)
    (h : ∀ error, .error error ∈ results → error.Unsatisfiable) :
    branchAlternatives node keyword results =
      .ok (results.filterMap Except.toOption).flatten ∨
    ((results.filterMap Except.toOption).flatten = [] ∧
      ∃ error, branchAlternatives node keyword results = .error error ∧ error.Unsatisfiable) := by
  unfold branchAlternatives
  dsimp only
  split
  · rename_i error hnil herror
    refine .inr ⟨hnil, error, rfl, ?_⟩
    obtain ⟨result, hr, hsome⟩ := List.exists_of_findSome?_eq_some herror
    cases result with
    | error e => cases hsome; exact h _ hr
    | ok sets => cases hsome
  · rename_i hnil _
    exact .inr ⟨hnil, _, rfl, _, _, rfl⟩
  · exact .inl rfl

theorem eq_flatten_of_branchAlternatives {node : Pointer} {keyword : String}
    {sets : List Constraints} (h : branchAlternatives node keyword results = .ok sets) :
    sets = (results.filterMap Except.toOption).flatten := by
  unfold branchAlternatives at h
  dsimp only at h
  split at h
  · cases h
  · cases h
  · cases h
    rfl

theorem mem_branchAlternatives {node : Pointer} {keyword : String} {sets : List Constraints}
    (h : branchAlternatives node keyword results = .ok sets) (hset : set ∈ sets) :
    ∃ found, .ok found ∈ results ∧ set ∈ found := by
  rw [eq_flatten_of_branchAlternatives h] at hset
  exact mem_flatten_filterMap_toOption.mp hset

end Branches

/-! ### Settling -/

theorem mem_sets_of_settle {node : Pointer} {sets : List Constraints} {demands : Demands}
    {set : Constraints} (h : settle node sets = .ok demands) (hset : set ∈ demands.sets) :
    ∃ raw ∈ sets, raw.finalize = .ok set := by
  have hmem : set ∈ (sets.map Constraints.finalize).filterMap Except.toOption := by
    unfold settle at h
    dsimp only at h
    split at h
    · cases h
    · rename_i only heq
      cases h
      rwa [heq]
    · cases h
      exact hset
  obtain ⟨result, hresult, hsome⟩ := List.mem_filterMap.mp hmem
  obtain ⟨raw, hraw, hfinal⟩ := List.mem_map.mp hresult
  refine ⟨raw, hraw, hfinal.trans ?_⟩
  cases result with
  | error error => cases hsome
  | ok found => exact congrArg Except.ok (Option.some.inj hsome)

/-- When settling succeeds, some set is left. -/
theorem sets_ne_nil_of_settle {node : Pointer} {sets : List Constraints} {demands : Demands}
    (h : settle node sets = .ok demands) : demands.sets ≠ [] := by
  unfold settle at h
  dsimp only at h
  split at h
  · cases h
  · cases h
    exact List.cons_ne_nil _ _
  · rename_i hsome _
    cases h
    exact hsome

end Normalization

end Specimen
