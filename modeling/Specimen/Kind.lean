import Specimen.Json.Basic

/-!
# Specimen.Kind

The kinds of JSON values.

* `Kind.accepts` — whether a value is of a kind; every integer is a number, and so is a double
  without a fraction an integer;
* `KindSet` — one kind or several to choose from, in the order of `Kind.all`; the set of
  `Kind.unknown` alone admits every value, and the unknown kind is in no other set;
* `KindSet.filter?`, `KindSet.of` — sets of known kinds;
* `KindSet.intersect` — the kinds that both sets admit.
-/

namespace Specimen

/-- A kind of JSON values. -/
inductive Kind where
  | null
  | boolean
  | integer
  | number
  | string
  | array
  | object
  /-- Nothing is known about the kind. -/
  | unknown
  deriving DecidableEq, Inhabited

namespace Kind

/-- The kinds that a schema may name, in their order. -/
def known : List Kind := [null, boolean, integer, number, string, array, object]

/-- All kinds, in their order. -/
def all : List Kind := known ++ [unknown]

/-- The kind that a schema names. -/
def parse? : String → Option Kind
  | "null" => some null
  | "boolean" => some boolean
  | "integer" => some integer
  | "number" => some number
  | "string" => some string
  | "array" => some array
  | "object" => some object
  | _ => none

/-- The name of a kind. -/
def name : Kind → String
  | null => "null"
  | boolean => "boolean"
  | integer => "integer"
  | number => "number"
  | string => "string"
  | array => "array"
  | object => "object"
  | unknown => "unknown"

/-- Whether a value is of a kind. -/
def accepts : Kind → Json → Bool
  | null, .null => true
  | boolean, .bool _ => true
  | integer, .num (.int _) => true
  | integer, .num (.double value) => value.isIntegral
  | number, .num _ => true
  | string, .str _ => true
  | array, .arr _ => true
  | object, .obj _ => true
  | unknown, _ => true
  | _, _ => false

end Kind

/-- Kinds to choose from. -/
structure KindSet where
  /-- The kinds of the set. -/
  kinds : List Kind
  ordered : kinds.Sublist Kind.all
  ne_nil : kinds ≠ []
  unknown_alone : .unknown ∈ kinds → kinds = [.unknown]
  deriving DecidableEq

namespace KindSet

/-- Every value is admitted. -/
def unknown : KindSet := ⟨[.unknown], by decide, by decide, fun _ => rfl⟩

/-- Whether a kind belongs to a set. -/
def contains (set : KindSet) (kind : Kind) : Bool := set.kinds.contains kind

/-- Whether every value is admitted. -/
def isUnknown (set : KindSet) : Bool := set.contains .unknown

/-- The set of the known kinds that meet a condition, if there is one. -/
def filter? (condition : Kind → Bool) : Option KindSet :=
  if h : Kind.known.filter condition = [] then none
  else some {
    kinds := Kind.known.filter condition
    ordered := List.filter_sublist.trans (List.sublist_append_left ..)
    ne_nil := h
    unknown_alone := fun h => absurd (List.mem_filter.mp h).1 (by decide) }

/-- The set of the known kinds of a list; without one every value is admitted. -/
def of (kinds : List Kind) : KindSet := (filter? (kinds.contains ·)).getD unknown

/-- The kinds of either set. -/
def union (a b : KindSet) : KindSet :=
  if a.isUnknown || b.isUnknown then unknown else .of (a.kinds ++ b.kinds)

/-- The kinds that both sets admit, if there is one. Integers are among the numbers. -/
def intersect (a b : KindSet) : Option KindSet :=
  if a.isUnknown then some b
  else if b.isUnknown then some a
  else
    let narrowed := (a.contains .integer && b.contains .number) ||
      (b.contains .integer && a.contains .number)
    filter? fun kind => (a.contains kind && b.contains kind) || (kind == .integer && narrowed)

/-- Whether a value is of a kind of the set. -/
def accepts (set : KindSet) (value : Json) : Bool := set.kinds.any (·.accepts value)

/-- The names of the kinds, in brackets. -/
def text (set : KindSet) : String := "[" ++ ", ".intercalate (set.kinds.map Kind.name) ++ "]"

instance : ToString KindSet := ⟨text⟩

end KindSet

end Specimen
