import Specimen.Kind
import Specimen.NameTable
import Specimen.Schema.Document

/-!
# Specimen.Constraint

What a schema demands of a value, apart from its references and combinators.

* `Constraints` — one record of all demands; a missing field demands nothing;
* `Constraints.integerLimits`, `integerBounds`, `numberBounds` — the ends of the admissible
  numbers, with exclusive ends moved inward;
* `Constraints.effectiveKinds` — the kinds to produce, inferred from the keywords where no type is
  given.
-/

namespace Specimen

/-- An end of a range of numbers. -/
structure Bound where
  /-- The number at the end. -/
  value : Double
  /-- The number itself is outside. -/
  exclusive : Bool
  deriving DecidableEq

/-- What holds for the members that no more specific keyword covers. -/
inductive Extra where
  /-- Such members are valid, but none is added without need. -/
  | unspecified
  | allowed
  | forbidden
  /-- Such members are valid when they fit a schema. -/
  | schema (node : Pointer)
  deriving DecidableEq

namespace Extra

/-- Whether there may be such members. -/
def permits : Extra → Bool
  | forbidden => false
  | _ => true

/-- The schema of such members. -/
def schema? : Extra → Option Pointer
  | schema node => some node
  | _ => none

/-- Both demands at once: what either forbids is forbidden, otherwise the later one counts. -/
def merge : Extra → Extra → Extra
  | forbidden, _ => forbidden
  | _, forbidden => forbidden
  | earlier, unspecified => earlier
  | _, later => later

end Extra

/-- The demands on a value. -/
structure Constraints where
  /-- The schema that the demands come from, for messages. -/
  pointer : Pointer
  kinds : KindSet
  /-- The kinds that other keywords hint at, if any do. -/
  inferred : Option KindSet
  minimum : Option Bound
  maximum : Option Bound
  multipleOf : Option Double
  minLength : Option Nat
  maxLength : Option Nat
  pattern : Option String
  format : Option String
  minItems : Option Nat
  maxItems : Option Nat
  uniqueItems : Bool
  /-- The schemas of the first items, by position. -/
  prefixItems : List Pointer
  /-- What holds for the items behind them. -/
  items : Extra
  contains : Option Pointer
  properties : NameTable Pointer
  required : NameSet
  additionalProperties : Extra
  patternProperties : List (String × Pointer)
  propertyNames : Option Pointer
  minProperties : Option Nat
  maxProperties : Option Nat
  /-- The names that the presence of a name requires. -/
  dependentRequired : NameTable NameSet
  /-- The only admissible values. -/
  candidates : Option (List Json)
  /-- Values that are not admissible. -/
  excluded : List Json

namespace Constraints

/-- No demands at all. -/
def any (pointer : Pointer) : Constraints where
  pointer
  kinds := .unknown
  inferred := none
  minimum := none
  maximum := none
  multipleOf := none
  minLength := none
  maxLength := none
  pattern := none
  format := none
  minItems := none
  maxItems := none
  uniqueItems := false
  prefixItems := []
  items := .unspecified
  contains := none
  properties := ∅
  required := ∅
  additionalProperties := .unspecified
  patternProperties := []
  propertyNames := none
  minProperties := none
  maxProperties := none
  dependentRequired := ∅
  candidates := none
  excluded := []

/-- The largest length or count. -/
def maxCount : Nat := 2 ^ 64 - 1

/-- The smallest signed 64-bit integer. -/
def minInteger : Int := -2 ^ 63

/-- The largest signed 64-bit integer. -/
def maxInteger : Int := 2 ^ 63 - 1

/-- The nearest signed 128-bit integer. -/
def saturate128 (value : Int) : Int := max (-2 ^ 127) (min (2 ^ 127 - 1) value)

theorem saturate128_eq_self {value : Int} (hlo : -2 ^ 127 ≤ value) (hhi : value < 2 ^ 127) :
    saturate128 value = value := by
  unfold saturate128
  omega

/-- The smallest and the largest integer within the bounds, where there are bounds. Rounding and
the step beyond an exclusive end both stay within the signed 128-bit integers. -/
def integerLimits (set : Constraints) : Option Int × Option Int :=
  (set.minimum.map fun bound =>
      if bound.exclusive then saturate128 (saturate128 bound.value.floorInt + 1)
      else saturate128 bound.value.ceilInt,
    set.maximum.map fun bound =>
      if bound.exclusive then saturate128 (saturate128 bound.value.ceilInt - 1)
      else saturate128 bound.value.floorInt)

/-- The integer limits, moved into the range of signed 64-bit integers. -/
def integerBounds (set : Constraints) : Option Int × Option Int :=
  let clamp (limit : Int) : Int := max minInteger (min maxInteger limit)
  (set.integerLimits.1.map clamp, set.integerLimits.2.map clamp)

/-- How far an exclusive end is moved inward: four relative steps of the format. -/
def epsilon (value : Double) : Double :=
  Double.ofRatio false Double.one (2 ^ 52) * value.abs.max (.ofNat 1) * .ofNat 4

/-- The ends of the admissible numbers. -/
def numberBounds (set : Constraints) : Option Double × Option Double :=
  (set.minimum.map fun bound =>
      if bound.exclusive then bound.value + epsilon bound.value else bound.value,
    set.maximum.map fun bound =>
      if bound.exclusive then bound.value - epsilon bound.value else bound.value)

/-- The kinds to produce. -/
def effectiveKinds (set : Constraints) : KindSet :=
  if set.kinds.isUnknown then set.inferred.getD set.kinds else set.kinds

end Constraints

end Specimen
