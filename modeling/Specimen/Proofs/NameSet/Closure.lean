import Mathlib.Data.List.Perm.Subperm
import Mathlib.Logic.Function.Iterate
import Mathlib.Logic.Relation
import Specimen.NameSet.Closure

/-!
# Specimen.Proofs.NameSet.Closure

The closure of some names is the smallest set that has them and, with each name, all that the name
requires (`NameSet.isClosure_closure`). It has exactly the names that some of them lead to
(`NameSet.mem_closure_iff`), and it is reached in no more rounds than names are required
(`NameSet.exists_rounds`).
-/

namespace Specimen.NameSet

variable {table : NameTable NameSet} {names larger : NameSet} {name other : String}

/-- With each of its names, a set has all that the name requires. -/
def Closed (table : NameTable NameSet) (names : NameSet) : Prop :=
  ∀ name ∈ names, ∀ other ∈ requiredBy table name, other ∈ names

theorem closed_of_missing_eq_nil (h : missing table names = []) : Closed table names := by
  intro name hname other hother
  refine Decidable.byContradiction fun hnot => ?_
  have : other ∈ missing table names := mem_missing.mpr ⟨⟨name, hname, hother⟩, hnot⟩
  rw [h] at this
  cases this

theorem closed_closure (table : NameTable NameSet) (names : NameSet) :
    Closed table (closure table names) := by
  fun_induction closure table names with
  | case1 names h => exact closed_of_missing_eq_nil h
  | case2 names h ih => exact ih

theorem subset_closure (h : name ∈ names) : name ∈ closure table names := by
  fun_induction closure table names with
  | case1 names hm => exact h
  | case2 names hm ih => exact ih (mem_insertMany.mpr (.inl h))

theorem closure_subset (hl : Closed table larger) (hn : ∀ name ∈ names, name ∈ larger)
    (h : name ∈ closure table names) : name ∈ larger := by
  fun_induction closure table names with
  | case1 names hm => exact hn name h
  | case2 names hm ih =>
    -- One round adds only names that names of the set require, and the larger set has those.
    refine ih (fun other hother => ?_) h
    rcases mem_insertMany.mp hother with hother | hother
    · exact hn other hother
    · obtain ⟨⟨source, hsource, hrequired⟩, -⟩ := mem_missing.mp hother
      exact hl source (hn source hsource) other hrequired

/-- The smallest set that has some names and, with each of its names, all that the name requires. -/
structure IsClosure (table : NameTable NameSet) (names result : NameSet) : Prop where
  subset : ∀ name ∈ names, name ∈ result
  closed : Closed table result
  least : ∀ larger, Closed table larger → (∀ name ∈ names, name ∈ larger) →
    ∀ name ∈ result, name ∈ larger

theorem isClosure_closure (table : NameTable NameSet) (names : NameSet) :
    IsClosure table names (closure table names) where
  subset _ hname := subset_closure hname
  closed := closed_closure table names
  least _ hl hn _ hname := closure_subset hl hn hname

/-- Some names with those that they require directly. -/
def addMissing (table : NameTable NameSet) (names : NameSet) : NameSet :=
  names.insertMany (missing table names)

/-- The closure is reached in rounds, each of which adds a name that an entry of the table lists. -/
theorem exists_rounds (table : NameTable NameSet) (names : NameSet) :
    ∃ rounds ≤ (dependents table).length,
      (addMissing table)^[rounds] names = closure table names ∧
        missing table (closure table names) = [] := by
  have hunmet : ∃ rounds ≤ unmet table names,
      (addMissing table)^[rounds] names = closure table names ∧
        missing table (closure table names) = [] := by
    fun_induction closure table names with
    | case1 names hm => exact ⟨0, Nat.zero_le _, rfl, hm⟩
    | case2 names hm ih =>
      obtain ⟨rounds, hle, hrounds⟩ := ih
      exact ⟨rounds + 1, Nat.lt_of_le_of_lt hle (unmet_insertMany_missing_lt hm), hrounds⟩
  obtain ⟨rounds, hle, hrounds⟩ := hunmet
  exact ⟨rounds, Nat.le_trans hle (List.length_filter_le _ _), hrounds⟩

theorem closure_mono (h : ∀ name ∈ names, name ∈ larger) (hname : name ∈ closure table names) :
    name ∈ closure table larger :=
  closure_subset (closed_closure table larger) (fun other hother => subset_closure (h other hother))
    hname

/-- One name leads to another when it requires that one, directly or through others. -/
abbrev LeadsTo (table : NameTable NameSet) : String → String → Prop :=
  Relation.ReflTransGen fun name other => other ∈ requiredBy table name

/-- What a name of a closed set leads to is in the set. -/
theorem Closed.mem_of_leadsTo (hc : Closed table names) (hn : name ∈ names)
    (h : LeadsTo table name other) : other ∈ names := by
  induction h with
  | refl => exact hn
  | tail _ hrequired ih => exact hc _ ih _ hrequired

theorem mem_closure_iff :
    other ∈ closure table names ↔ ∃ name ∈ names, LeadsTo table name other := by
  constructor
  · intro h
    fun_induction closure table names with
    | case1 names hm => exact ⟨other, h, .refl⟩
    | case2 names hm ih =>
      obtain ⟨name, hname, hleads⟩ := ih h
      rcases mem_insertMany.mp hname with hname | hname
      · exact ⟨name, hname, hleads⟩
      · -- The round has added this name because one of the names before requires it.
        obtain ⟨⟨source, hsource, hrequired⟩, -⟩ := mem_missing.mp hname
        exact ⟨source, hsource, .head hrequired hleads⟩
  · rintro ⟨name, hname, hleads⟩
    exact (closed_closure table names).mem_of_leadsTo (subset_closure hname) hleads

/-- A name that no other one requires may be taken away. -/
theorem Closed.erase (hc : Closed table names)
    (hfree : ∀ other ∈ names, other ≠ name → name ∉ requiredBy table other) :
    Closed table (names.erase name) := by
  intro source hsource other hother
  obtain ⟨hne, hmem⟩ := mem_erase.mp hsource
  have hdistinct : other ≠ name := by
    intro heq
    subst heq
    exact hfree source hmem hne hother
  exact mem_erase.mpr ⟨hdistinct, hc source hmem other hother⟩

/-! ### The sizes of sets -/

theorem size_le_of_subset (h : ∀ name ∈ names, name ∈ larger) : names.size ≤ larger.size :=
  (names.nodup.subperm h).length_le

theorem size_insert (h : name ∉ names) : (names.insert name).size = names.size + 1 :=
  Names.length_insert h

theorem size_lt_of_not_mem (hmem : name ∈ larger) (hnot : name ∉ names)
    (h : ∀ other ∈ names, other ∈ larger) : names.size < larger.size := by
  have hinsert : ∀ other ∈ names.insert name, other ∈ larger := by
    intro other hother
    rcases mem_insert.mp hother with rfl | hother
    · exact hmem
    · exact h other hother
  have := size_le_of_subset hinsert
  rwa [size_insert hnot] at this

theorem exists_not_mem_of_size_lt (h : names.size < larger.size) :
    ∃ name ∈ larger, name ∉ names := by
  refine Decidable.byContradiction fun hnone => ?_
  refine Nat.not_le_of_lt h (size_le_of_subset fun name hname => ?_)
  exact Decidable.byContradiction fun hnot => hnone ⟨name, hname, hnot⟩

end Specimen.NameSet
