import Specimen.NameSet

/-!
# Specimen.NameTable

Tables of entries under names.

A table lists its entries in increasing order of their names, so two tables with the same entries
are equal (`NameTable.ext_get?`). Where two entries meet under one name, `insertWith` and
`unionWith` are told how to combine them.
-/

namespace Specimen

/-- Entries under names. -/
structure NameTable (α : Type) where
  /-- The names with their entries, in increasing order of the names. -/
  entries : List (String × α)
  sorted : (Table.names entries).Pairwise (· < ·)
  deriving DecidableEq

namespace NameTable

variable {α : Type}

instance : EmptyCollection (NameTable α) := ⟨⟨[], Table.pairwise_nil⟩⟩

/-- The entry under a name. -/
def get? (table : NameTable α) (name : String) : Option α := table.entries.lookup name

/-- Whether there is an entry under a name. -/
def has (table : NameTable α) (name : String) : Bool := (table.get? name).isSome

/-- The names of a table. -/
def names (table : NameTable α) : NameSet := ⟨Table.names table.entries, table.sorted⟩

/-- How many entries a table has. -/
def size (table : NameTable α) : Nat := table.entries.length

/-- Puts an entry under a name in place of the one before. -/
def insert (table : NameTable α) (name : String) (entry : α) : NameTable α :=
  ⟨Table.insert name entry table.entries, Table.pairwise_insert table.sorted⟩

/-- Puts an entry under a name, combined with the one before. -/
def insertWith (combine : α → α → α) (table : NameTable α) (name : String) (entry : α) :
    NameTable α :=
  table.insert name ((table.get? name).elim entry (combine · entry))

/-- Puts the entries of a list under their names, each combined with the one before. -/
def insertManyWith (combine : α → α → α) (table : NameTable α) (entries : List (String × α)) :
    NameTable α :=
  entries.foldl (fun table (name, entry) => table.insertWith combine name entry) table

/-- The entries of both tables; two entries under one name are combined. -/
def unionWith (combine : α → α → α) (a b : NameTable α) : NameTable α :=
  a.insertManyWith combine b.entries

/-- The entries of both tables; under a name of both the entry of the second. -/
def union (a b : NameTable α) : NameTable α := unionWith (fun _ later => later) a b

/-- The table of the entries of a list; of two entries under one name the later one counts. -/
def ofList (entries : List (String × α)) : NameTable α :=
  insertManyWith (fun _ later => later) ∅ entries

/-! ### The entries of a table -/

variable {a b table : NameTable α} {name other : String} {entry : α} {combine : α → α → α}
variable {entries : List (String × α)}

@[simp] theorem get?_empty : (∅ : NameTable α).get? name = none := rfl

@[simp] theorem get?_insert :
    (table.insert name entry).get? other = if other = name then some entry else table.get? other :=
  Table.lookup_insert

theorem get?_insertWith :
    (table.insertWith combine name entry).get? other =
      if other = name then Option.merge combine (table.get? name) (some entry)
      else table.get? other := by
  unfold insertWith
  cases table.get? name <;> simp

theorem get?_insertManyWith (h : (Table.names entries).Nodup) :
    (table.insertManyWith combine entries).get? name =
      Option.merge combine (table.get? name) (entries.lookup name) := by
  unfold insertManyWith
  induction entries generalizing table with
  | nil => simp
  | cons first rest ih =>
    obtain ⟨n, e⟩ := first
    obtain ⟨hn, hr⟩ := List.nodup_cons.mp h
    rw [List.foldl_cons, ih hr, get?_insertWith, List.lookup_cons]
    by_cases hname : name = n
    · subst hname
      have : rest.lookup name = none := Table.lookup_eq_none_iff.mpr hn
      simp [this]
    · simp [hname, beq_false_of_ne hname]

theorem get?_unionWith :
    (unionWith combine a b).get? name = Option.merge combine (a.get? name) (b.get? name) :=
  get?_insertManyWith (Names.nodup_of_pairwise b.sorted)

@[simp] theorem get?_union : (a.union b).get? name = (b.get? name <|> a.get? name) := by
  unfold union
  rw [get?_unionWith]
  cases a.get? name <;> cases b.get? name <;> rfl

theorem get?_of_mem (h : (name, entry) ∈ table.entries) : table.get? name = some entry :=
  Table.lookup_of_mem (Names.nodup_of_pairwise table.sorted) h

theorem mem_names : name ∈ table.names ↔ table.has name := by
  unfold has
  rw [Option.isSome_iff_ne_none, Ne, get?, Table.lookup_eq_none_iff, Decidable.not_not]
  exact Iff.rfl

theorem size_names : table.names.size = table.size := List.length_map _

theorem size_insert (h : table.has name = false) :
    (table.insert name entry).size = table.size + 1 := by
  have hnew : name ∉ Table.names table.entries := fun hmem => by
    simp [mem_names.mp hmem] at h
  rw [← size_names, ← size_names]
  show (Table.names (Table.insert name entry table.entries)).length = _
  rw [Table.names_insert, Names.length_insert hnew]
  rfl

@[ext] theorem ext_get? (h : ∀ name, a.get? name = b.get? name) : a = b := by
  cases a with | mk as ha =>
  cases b with | mk bs hb =>
  obtain rfl : as = bs := Table.eq_of_lookup_eq ha hb h
  rfl

end NameTable

end Specimen
