import Specimen.NameTable

/-!
# Specimen.NameSet.Closure

Names that require other names.

* `NameSet.missing` — the names that some names require directly and that are not among them;
* `NameSet.closure` — some names with all that they require. Names are added until none is missing;
  this ends because each round adds a name that some entry of the table lists
  (`NameSet.unmet_insertMany_missing_lt`).
-/

namespace Specimen.NameSet

/-- The names that a table requires for a name. -/
def requiredBy (table : NameTable NameSet) (name : String) : NameSet := (table.get? name).getD ∅

/-- The names that a table requires for some names and that are not among them. -/
def missing (table : NameTable NameSet) (names : NameSet) : List String :=
  (names.toList.flatMap fun name => (requiredBy table name).toList).filter (· ∉ names)

/-- All names that a table requires for some name. -/
def dependents (table : NameTable NameSet) : List String := table.entries.flatMap (·.2.toList)

variable {table : NameTable NameSet} {names : NameSet} {name other : String}

theorem mem_dependents_of_mem_requiredBy (h : other ∈ requiredBy table name) :
    other ∈ dependents table := by
  unfold requiredBy NameTable.get? at h
  cases hl : table.entries.lookup name with
  | none => simp [hl] at h
  | some listed =>
    obtain ⟨before, behind, hentries, -⟩ := List.lookup_eq_some_iff.mp hl
    simp_all [dependents]

theorem mem_missing :
    other ∈ missing table names ↔
      (∃ name ∈ names, other ∈ requiredBy table name) ∧ other ∉ names := by
  simp [missing]

/-- How many entries of a table list a name that is not among the names. -/
def unmet (table : NameTable NameSet) (names : NameSet) : Nat :=
  ((dependents table).filter (· ∉ names)).length

theorem unmet_insertMany_missing_lt (h : missing table names ≠ []) :
    unmet table (names.insertMany (missing table names)) < unmet table names := by
  obtain ⟨name, hm⟩ := List.exists_mem_of_ne_nil _ h
  obtain ⟨⟨source, -, hr⟩, hn⟩ := mem_missing.mp hm
  unfold unmet
  have hs : (dependents table).filter (· ∉ names.insertMany (missing table names)) =
      ((dependents table).filter (· ∉ names)).filter (· ∉ missing table names) := by
    rw [List.filter_filter]
    congr 1
    funext other
    simp only [mem_insertMany, not_or, Bool.decide_and, Bool.and_comm]
  rw [hs]
  exact List.length_filter_lt_length_iff_exists.mpr
    ⟨name, List.mem_filter.mpr ⟨mem_dependents_of_mem_requiredBy hr, by simpa using hn⟩,
      by simpa using hm⟩

/-- Some names with all that they require, directly or through others. -/
def closure (table : NameTable NameSet) (names : NameSet) : NameSet :=
  if _ : missing table names = [] then names
  else closure table (names.insertMany (missing table names))
termination_by unmet table names
decreasing_by exact unmet_insertMany_missing_lt ‹_›

end Specimen.NameSet
