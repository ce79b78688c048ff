import Specimen.Json.Basic

/-!
# Specimen.Toml.Section

Tables of a TOML document while it is read.

A table comes into being by its header, as a part of the path of another header, or as a part of a
dotted key (`Origin`), and that decides what may still be added to it.

* `Entry` — what stands under a key: a finished value, a table or a list of tables;
* `define` — adds a value under a dotted key;
* `openTable`, `openElement` — what a header does;
* `modifyAt` — goes to the table of a header.
-/

namespace Specimen.Toml

/-- How a table came into being. -/
inductive Origin where
  /-- By its own header. -/
  | header
  /-- As a part of the path of a header. -/
  | path
  /-- As a part of a dotted key. -/
  | dotted
  deriving DecidableEq

/-- What stands under a key. -/
inductive Entry where
  /-- A finished value. -/
  | value (value : Json)
  | table (origin : Origin) (members : List (String × Entry))
  /-- The tables of a list, the last one first. -/
  | tables (elements : List (List (String × Entry)))

/-- The entries of a table. -/
abbrev Members := List (String × Entry)

mutual

/-- An entry as a value. -/
def Entry.toJson : Entry → Json
  | .value value => value
  | .table _ members => .obj (membersToJson members)
  | .tables elements => .arr (tablesToJson elements).reverse

/-- The entries of a table as values. -/
def membersToJson : List (String × Entry) → List (String × Json)
  | [] => []
  | (key, entry) :: rest => (key, entry.toJson) :: membersToJson rest

/-- Tables as values. -/
def tablesToJson : List (List (String × Entry)) → List Json
  | [] => []
  | members :: rest => .obj (membersToJson members) :: tablesToJson rest

end

/-- Adds a value under a key in the table that the rest of a dotted key leads to. The tables on the
way have no header of their own, and the last of them comes from a dotted key. -/
def define (key : String) (value : Json) : (path : List String) → Members → Option Members
  | [], members =>
    if Table.has members key then none else some (Table.insert key (.value value) members)
  | name :: path, members =>
    match members.lookup name with
    | none => do return Table.insert name (.table .dotted (← define key value path [])) members
    | some (.table origin inner) =>
      if origin = .header ∨ (path = [] ∧ origin ≠ .dotted) then none
      else do return Table.insert name (.table origin (← define key value path inner)) members
    | some (.tables (last :: earlier)) =>
      if path = [] then none
      else do return Table.insert name (.tables ((← define key value path last) :: earlier)) members
    | some _ => none

/-- Changes the table that a path leads to; of a list of tables it is the last one. A table that is
missing on the way is made if `create` is set. -/
def modifyAt (create : Bool) (change : Members → Option Members) :
    (path : List String) → Members → Option Members
  | [], members => change members
  | name :: path, members =>
    match members.lookup name with
    | none =>
      if create then do
        return Table.insert name (.table .path (← modifyAt create change path [])) members
      else none
    | some (.table origin inner) => do
      return Table.insert name (.table origin (← modifyAt create change path inner)) members
    | some (.tables (last :: earlier)) => do
      return Table.insert name (.tables ((← modifyAt create change path last) :: earlier)) members
    | some _ => none

/-- Gives a table its header. It may have been on the path of another header before. -/
def openTable (key : String) (members : Members) : Option Members :=
  match members.lookup key with
  | none => some (Table.insert key (.table .header []) members)
  | some (.table .path inner) => some (Table.insert key (.table .header inner) members)
  | some _ => none

/-- Adds a table to a list of tables. -/
def openElement (key : String) (members : Members) : Option Members :=
  match members.lookup key with
  | none => some (Table.insert key (.tables [[]]) members)
  | some (.tables elements) => some (Table.insert key (.tables ([] :: elements)) members)
  | some _ => none

end Specimen.Toml
