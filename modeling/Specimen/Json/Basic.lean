import Specimen.Double.Basic
import Specimen.Names

/-!
# Specimen.Json

JSON values.

* `Json` — a value; the members of an object are listed in increasing order of their keys;
* `Json.object` — the object with the given members, in order and with one member per key;
* `Json.same` — equality of values, under which an integer and a double are never equal.
-/

namespace Specimen

/-- A JSON number: an integer in `[-2 ^ 63, 2 ^ 64 - 1]`, or a double. -/
inductive Number where
  | int (value : Int)
  | double (value : Double)
  deriving DecidableEq

/-- A JSON value. -/
inductive Json where
  | null
  | bool (value : Bool)
  | num (value : Number)
  | str (value : String)
  | arr (elements : List Json)
  | obj (members : List (String × Json))

namespace Number

/-- The integers that are numbers of their own; all others are read as doubles. -/
def HasInt (value : Int) : Prop := -2 ^ 63 ≤ value ∧ value < 2 ^ 64

instance (value : Int) : Decidable (HasInt value) := inferInstanceAs (Decidable (_ ∧ _))

/-- Numbers are equal when they are of one sort and have one value. -/
protected def beq : Number → Number → Bool
  | .int a, .int b => a == b
  | .double a, .double b => a == b
  | _, _ => false

instance : BEq Number := ⟨Number.beq⟩

/-- The double nearest to a number. -/
def toDouble : Number → Double
  | .int value => .ofInt value
  | .double value => value

/-- A signed 64-bit integer. -/
def toInt64? : Number → Option Int
  | .int value => if value < 2 ^ 63 then some value else none
  | .double _ => none

/-- An unsigned 64-bit integer. -/
def toUInt64? : Number → Option Nat
  | .int value => if 0 ≤ value then some value.toNat else none
  | .double _ => none

end Number

namespace Json

instance : Inhabited Json := ⟨.null⟩

/-- An integer value. -/
def int (value : Int) : Json := .num (.int value)

/-- A natural number as a value. -/
def nat (value : Nat) : Json := .num (.int value)

/-- A double as a value. -/
def double (value : Double) : Json := .num (.double value)

/-! ### Objects -/

/-- The object with the given members; of two members with one key the last counts. -/
def object (members : List (String × Json)) : Json :=
  .obj (Table.ofList members)

/-- The member of an object under a key. -/
def member? (key : String) : Json → Option Json
  | .obj members => members.lookup key
  | _ => none

/-- The member of an object under a key; a missing one reads as `null`. -/
def member (key : String) (value : Json) : Json := (value.member? key).getD .null

/-! ### Views -/

/-- The members of an object. -/
def members? : Json → Option (List (String × Json))
  | .obj members => some members
  | _ => none

/-- The elements of an array. -/
def elements? : Json → Option (List Json)
  | .arr elements => some elements
  | _ => none

/-- The text of a string. -/
def string? : Json → Option String
  | .str value => some value
  | _ => none

/-- A Boolean. -/
def bool? : Json → Option Bool
  | .bool value => some value
  | _ => none

/-- A number. -/
def number? : Json → Option Number
  | .num value => some value
  | _ => none

/-- The double nearest to a number. -/
def double? (value : Json) : Option Double := value.number?.map Number.toDouble

/-- Whether the value is an object. -/
def isObject : Json → Bool
  | .obj _ => true
  | _ => false

/-! ### Equality -/

mutual

/-- Equality of values. Numbers are compared by `Number.beq`. -/
def same : Json → Json → Bool
  | .null, .null => true
  | .bool a, .bool b => a == b
  | .num a, .num b => a == b
  | .str a, .str b => a == b
  | .arr a, .arr b => sameElements a b
  | .obj a, .obj b => sameMembers a b
  | _, _ => false

/-- Equality of arrays: element by element. -/
def sameElements : List Json → List Json → Bool
  | [], [] => true
  | a :: as, b :: bs => same a b && sameElements as bs
  | _, _ => false

/-- Equality of objects, whose members are in order: member by member. -/
def sameMembers : List (String × Json) → List (String × Json) → Bool
  | [], [] => true
  | (k, a) :: as, (l, b) :: bs => k == l && same a b && sameMembers as bs
  | _, _ => false

end

instance : BEq Json := ⟨same⟩

/-- Whether a list of values has one that is equal to `value`. -/
def contains (values : List Json) (value : Json) : Bool := values.any (· == value)

end Json

end Specimen
