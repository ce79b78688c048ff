/-!
# Specimen.Names

Lists of names, and of entries under names, in increasing order without a repetition. The order is
that of the code points.

* `Names.insert` — adds a name;
* `Table.insert`, `Table.ofList` — add entries; of two entries under one name the later one counts.

Both keep the order (`Names.pairwise_insert`, `Table.pairwise_insert`).
-/

namespace Specimen

namespace Names

/-- Adds a name. -/
def insert (name : String) : List String → List String
  | [] => [name]
  | n :: rest =>
    if name < n then name :: n :: rest
    else if name = n then n :: rest
    else n :: insert name rest

@[simp] theorem mem_insert {name other : String} {names : List String} :
    other ∈ insert name names ↔ other = name ∨ other ∈ names := by
  fun_induction insert name names <;> grind

theorem pairwise_insert {name : String} {names : List String} (h : names.Pairwise (· < ·)) :
    (insert name names).Pairwise (· < ·) := by
  fun_induction insert name names with
  | case1 => simp
  | case2 n rest hlt =>
    exact List.pairwise_cons.mpr ⟨by grind [List.pairwise_cons, String.lt_trans], h⟩
  | case3 => exact h
  | case4 n rest hlt hne ih =>
    obtain ⟨hn, hr⟩ := List.pairwise_cons.mp h
    exact List.pairwise_cons.mpr ⟨by grind [mem_insert], ih hr⟩

theorem nodup_of_pairwise {names : List String} (h : names.Pairwise (· < ·)) : names.Nodup :=
  h.imp fun hlt => by grind

theorem length_insert {name : String} {names : List String} (h : name ∉ names) :
    (insert name names).length = names.length + 1 := by
  fun_induction insert name names <;> grind

/-- Lists in increasing order are equal when they have the same names. -/
theorem eq_of_mem_iff {a b : List String} (ha : a.Pairwise (· < ·)) (hb : b.Pairwise (· < ·))
    (h : ∀ name, name ∈ a ↔ name ∈ b) : a = b := by
  refine List.Perm.eq_of_pairwise (fun x y _ _ hx hy => ?_) ha hb ?_
  · exact absurd (String.lt_trans hx hy) (String.lt_irrefl x)
  · exact (List.perm_ext_iff_of_nodup (nodup_of_pairwise ha) (nodup_of_pairwise hb)).mpr h

end Names

namespace Table

variable {α : Type}

/-- Puts an entry under a name in place of the one before. -/
def insert (name : String) (entry : α) : List (String × α) → List (String × α)
  | [] => [(name, entry)]
  | (n, e) :: rest =>
    if name < n then (name, entry) :: (n, e) :: rest
    else if name = n then (name, entry) :: rest
    else (n, e) :: insert name entry rest

/-- The entries of a list, put into the table one by one. -/
def ofList (entries : List (String × α)) : List (String × α) :=
  entries.foldl (fun table (name, entry) => insert name entry table) []

/-- Whether there is an entry under a name. -/
def has (table : List (String × α)) (name : String) : Bool := (table.lookup name).isSome

/-- The names of a table. -/
def names (table : List (String × α)) : List String := table.map (·.1)

theorem pairwise_nil : (names ([] : List (String × α))).Pairwise (· < ·) := .nil

@[simp] theorem lookup_insert {name other : String} {entry : α} {table : List (String × α)} :
    (insert name entry table).lookup other =
      if other = name then some entry else table.lookup other := by
  fun_induction insert name entry table <;> grind

theorem names_insert {name : String} {entry : α} {table : List (String × α)} :
    names (insert name entry table) = Names.insert name (names table) := by
  unfold names
  fun_induction insert name entry table <;> grind [Names.insert]

theorem pairwise_insert {name : String} {entry : α} {table : List (String × α)}
    (h : (names table).Pairwise (· < ·)) : (names (insert name entry table)).Pairwise (· < ·) :=
  names_insert ▸ Names.pairwise_insert h

theorem mem_of_mem_insert {name : String} {entry : α} {table : List (String × α)}
    {member : String × α} (h : member ∈ insert name entry table) :
    member = (name, entry) ∨ member ∈ table := by
  fun_induction insert name entry table <;> grind

/-- A table has no other entries than those it is made from. -/
theorem mem_of_mem_ofList {entries : List (String × α)} {member : String × α}
    (h : member ∈ ofList entries) : member ∈ entries := by
  have hfold (rest table : List (String × α))
      (h : member ∈ rest.foldl (fun table (name, entry) => insert name entry table) table) :
      member ∈ table ∨ member ∈ rest := by
    induction rest generalizing table with
    | nil => exact .inl h
    | cons first rest ih =>
      rcases ih (insert first.1 first.2 table) h with hmem | hmem
      · rcases mem_of_mem_insert hmem with rfl | hmem
        · exact .inr List.mem_cons_self
        · exact .inl hmem
      · exact .inr (List.mem_cons_of_mem _ hmem)
  exact (hfold entries [] h).resolve_left List.not_mem_nil

theorem lookup_eq_none_iff {name : String} {table : List (String × α)} :
    table.lookup name = none ↔ name ∉ names table := by
  unfold names
  induction table with
  | nil => simp
  | cons first rest ih => grind

theorem mem_of_lookup {name : String} {entry : α} {table : List (String × α)}
    (h : table.lookup name = some entry) : (name, entry) ∈ table := by
  obtain ⟨before, behind, rfl, -⟩ := List.lookup_eq_some_iff.mp h
  exact List.mem_append.mpr (.inr List.mem_cons_self)

theorem lookup_of_mem {name : String} {entry : α} {table : List (String × α)}
    (hn : (names table).Nodup) (h : (name, entry) ∈ table) : table.lookup name = some entry := by
  unfold names at hn
  induction table with
  | nil => cases h
  | cons first rest ih => grind

/-- Tables in increasing order are equal when they have the same entries. -/
theorem eq_of_lookup_eq {a b : List (String × α)} (ha : (names a).Pairwise (· < ·))
    (hb : (names b).Pairwise (· < ·)) (h : ∀ name, a.lookup name = b.lookup name) : a = b := by
  have hnames : names a = names b := Names.eq_of_mem_iff ha hb fun name =>
    Decidable.not_iff_not.mp (by rw [← lookup_eq_none_iff, ← lookup_eq_none_iff, h])
  clear ha
  induction a generalizing b with
  | nil => exact (List.map_eq_nil_iff.mp hnames.symm).symm
  | cons first as ih =>
    cases b with
    | nil => simp [names] at hnames
    | cons other bs =>
      obtain ⟨n, e⟩ := first
      obtain ⟨m, f⟩ := other
      obtain ⟨rfl, hrest⟩ : n = m ∧ names as = names bs := List.cons.inj hnames
      obtain rfl : e = f := by simpa using h n
      obtain ⟨hm, hb⟩ := List.pairwise_cons.mp hb
      have hn : n ∉ names bs := fun hmem => String.lt_irrefl n (hm n hmem)
      rw [ih hb (fun name => ?_) hrest]
      by_cases hname : name = n
      · rw [hname, lookup_eq_none_iff.mpr hn, lookup_eq_none_iff.mpr (hrest ▸ hn)]
      · have := h name
        rwa [List.lookup_cons, List.lookup_cons, beq_false_of_ne hname] at this

end Table

end Specimen
