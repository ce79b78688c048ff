import Specimen.Names

/-!
# Specimen.NameSet

Sets of names.

A set lists its names in increasing order, so two sets with the same names are equal
(`NameSet.ext_mem`). What each operation does to a set is told by its names (`mem_insert`,
`mem_union`, `mem_erase`, …).
-/

namespace Specimen

/-- A set of names. -/
structure NameSet where
  /-- The names in increasing order. -/
  toList : List String
  sorted : toList.Pairwise (· < ·)
  deriving DecidableEq

namespace NameSet

instance : EmptyCollection NameSet := ⟨⟨[], .nil⟩⟩

instance : Membership String NameSet := ⟨fun set name => name ∈ set.toList⟩

instance (name : String) (set : NameSet) : Decidable (name ∈ set) :=
  inferInstanceAs (Decidable (name ∈ set.toList))

/-- How many names a set has. -/
def size (set : NameSet) : Nat := set.toList.length

/-- The set with one more name. -/
def insert (set : NameSet) (name : String) : NameSet :=
  ⟨Names.insert name set.toList, Names.pairwise_insert set.sorted⟩

/-- The set with the names of a list. -/
def insertMany (set : NameSet) (names : List String) : NameSet := names.foldl insert set

/-- The set of the names of a list. -/
def ofList (names : List String) : NameSet := insertMany ∅ names

/-- The names of either set. -/
def union (a b : NameSet) : NameSet := a.insertMany b.toList

/-- The set without a name. -/
def erase (set : NameSet) (name : String) : NameSet :=
  ⟨set.toList.erase name, set.sorted.sublist List.erase_sublist⟩

/-! ### The names of a set -/

variable {a b set : NameSet} {name other : String} {names : List String}

@[simp] theorem mem_toList : name ∈ set.toList ↔ name ∈ set := Iff.rfl

@[ext] theorem ext_mem (h : ∀ name, name ∈ a ↔ name ∈ b) : a = b := by
  cases a with | mk as ha =>
  cases b with | mk bs hb =>
  obtain rfl : as = bs := Names.eq_of_mem_iff ha hb h
  rfl

theorem nodup (set : NameSet) : set.toList.Nodup := Names.nodup_of_pairwise set.sorted

@[simp] theorem not_mem_empty : name ∉ (∅ : NameSet) := List.not_mem_nil

@[simp] theorem mem_insert : other ∈ set.insert name ↔ other = name ∨ other ∈ set :=
  Names.mem_insert

@[simp] theorem mem_insertMany : name ∈ set.insertMany names ↔ name ∈ set ∨ name ∈ names := by
  unfold insertMany
  induction names generalizing set with
  | nil => simp
  | cons first rest ih =>
    simp only [List.foldl_cons, ih, mem_insert, List.mem_cons, or_left_comm, or_assoc]

@[simp] theorem mem_ofList : name ∈ ofList names ↔ name ∈ names := by simp [ofList]

@[simp] theorem mem_union : name ∈ a.union b ↔ name ∈ a ∨ name ∈ b := mem_insertMany

@[simp] theorem mem_erase : other ∈ set.erase name ↔ other ≠ name ∧ other ∈ set :=
  set.nodup.mem_erase_iff

end NameSet

end Specimen
