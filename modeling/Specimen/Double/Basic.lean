import Specimen.Numeral

/-!
# Specimen.Double

Double-precision numbers with exact values.

Every finite double is a whole number of *units* of `2 ^ -1074`, the smallest positive
double, so a finite double is a sign and a natural number of units, and comparison, floor,
ceiling and truncation are integer operations. Arithmetic computes the exact result as a
ratio of integers and rounds it once (`Double.ofRatio`).

* `Double.Representable` — the unit counts a double can hold: 53 significant bits, below `2 ^ 2098`;
* `Double.roundUnits` — the one rounding rule: to the nearest, a tie to the even neighbour;
* `Double.scaled` — the signed number of units of a finite double;
* `Double.lt`, `Double.le`, `Double.beq` — the numeric order, in which `nan` is related to
  nothing and the two zeros are equal.
-/

namespace Specimen

namespace Double

/-- The binary logarithm of the number of units in one. -/
def unitBits : Nat := 1074

/-- The number of units in one. -/
def one : Nat := 2 ^ unitBits

/-- The binary logarithm of the first unit count that is too large for the format. -/
def limitBits : Nat := 2098

/-- A unit count with at most 53 significant bits, below the overflow threshold. -/
def Representable (units : Nat) : Prop :=
  units % 2 ^ (units.log2 - 52) = 0 ∧ units < 2 ^ limitBits

instance (units : Nat) : Decidable (Representable units) :=
  inferInstanceAs (Decidable (_ ∧ _))

/-- The size of a finite double, in units. -/
structure Magnitude where
  /-- How many units. -/
  units : Nat
  /-- The count fits the format. -/
  representable : Representable units
  deriving DecidableEq

/-- No units at all. -/
def Magnitude.zero : Magnitude := ⟨0, Nat.zero_mod _, Nat.two_pow_pos limitBits⟩

end Double

/-- A double-precision number. -/
inductive Double where
  /-- A signed number of units; the two zeros differ in their sign. -/
  | finite (negative : Bool) (magnitude : Double.Magnitude)
  /-- Beyond every finite double. -/
  | infinite (negative : Bool)
  /-- The result of an undefined operation. -/
  | nan
  deriving DecidableEq

namespace Double

/-- Positive zero. -/
def zero : Double := .finite false .zero

instance : Inhabited Double := ⟨zero⟩

/-! ### Rounding -/

/-- The integer nearest to `numerator / denominator`; a tie goes to the even one. -/
def roundDiv (numerator denominator : Nat) : Nat :=
  let quotient := numerator / denominator
  let doubled := 2 * (numerator % denominator)
  if doubled < denominator then quotient
  else if denominator < doubled then quotient + 1
  else if quotient % 2 = 0 then quotient else quotient + 1

/-- The unit count with at most 53 significant bits that is nearest to
`numerator / denominator`; a tie goes to the even neighbour. -/
def roundUnits (numerator denominator : Nat) : Nat :=
  let spacing := 2 ^ ((numerator / denominator).log2 - 52)
  roundDiv numerator (denominator * spacing) * spacing

/-- The double nearest to `numerator / denominator` units, with the given sign. A rounded
count that the format cannot hold is an overflow. -/
def ofRatio (negative : Bool) (numerator denominator : Nat) : Double :=
  let units := roundUnits numerator denominator
  if h : Representable units then .finite negative ⟨units, h⟩ else .infinite negative

/-- The double nearest to an integer. -/
def ofInt (value : Int) : Double :=
  ofRatio (value < 0) (value.natAbs * one) 1

/-- The double nearest to a natural number. -/
def ofNat (value : Nat) : Double := ofInt value

/-- The double nearest to `digits * 10 ^ exponent`. Exponents far outside the format are cut
off first, so that the powers of ten stay small. -/
def ofDecimal (negative : Bool) (digits : Nat) (exponent : Int) : Double :=
  let leading := exponent + (Nat.repr digits).length
  if digits = 0 ∨ leading < -400 then .finite negative .zero
  else if 400 < leading then .infinite negative
  else if 0 ≤ exponent then ofRatio negative (digits * 10 ^ exponent.toNat * one) 1
  else ofRatio negative (digits * one) (10 ^ (-exponent).toNat)

/-! ### Sign, class and order -/

/-- The signed number of units of a finite double; an infinity counts as `2 ^ 2098`, which
lies beyond every finite one. -/
def scaled : Double → Int
  | .finite negative magnitude => if negative then -(magnitude.units : Int) else magnitude.units
  | .infinite negative => if negative then -(2 ^ limitBits) else 2 ^ limitBits
  | .nan => 0

/-- Whether the double is a real number. -/
def isFinite : Double → Bool
  | .finite _ _ => true
  | _ => false

/-- Whether the double is not a number. -/
def isNaN : Double → Bool
  | .nan => true
  | _ => false

/-- Strictly below, as numbers. -/
def lt (a b : Double) : Bool := !a.isNaN && !b.isNaN && a.scaled < b.scaled

/-- At most, as numbers. -/
def le (a b : Double) : Bool := !a.isNaN && !b.isNaN && a.scaled ≤ b.scaled

/-- Equal as numbers: the two zeros are equal, and `nan` equals nothing. -/
protected def beq (a b : Double) : Bool := !a.isNaN && !b.isNaN && a.scaled == b.scaled

instance : LT Double := ⟨fun a b => a.lt b = true⟩
instance : LE Double := ⟨fun a b => a.le b = true⟩
instance : BEq Double := ⟨Double.beq⟩
instance (a b : Double) : Decidable (a < b) := inferInstanceAs (Decidable (_ = true))
instance (a b : Double) : Decidable (a ≤ b) := inferInstanceAs (Decidable (_ = true))

/-- The larger of two doubles; `nan` gives way to the other one. -/
protected def max (a b : Double) : Double :=
  if a.isNaN then b else if b.isNaN then a else if a < b then b else a

/-- The smaller of two doubles; `nan` gives way to the other one. -/
protected def min (a b : Double) : Double :=
  if a.isNaN then b else if b.isNaN then a else if b < a then b else a

/-- The nearest point of `[lo, hi]`; `nan` stays. -/
def clamp (x lo hi : Double) : Double :=
  if x < lo then lo else if hi < x then hi else x

/-! ### Arithmetic -/

/-- The same size with the other sign. -/
protected def neg : Double → Double
  | .finite negative magnitude => .finite (!negative) magnitude
  | .infinite negative => .infinite (!negative)
  | .nan => .nan

/-- The size alone. -/
def abs : Double → Double
  | .finite _ magnitude => .finite false magnitude
  | .infinite _ => .infinite false
  | .nan => .nan

/-- The rounded sum. A zero sum is positive unless both terms are negative. -/
protected def add : Double → Double → Double
  | .nan, _ | _, .nan => .nan
  | .infinite a, .infinite b => if a = b then .infinite a else .nan
  | .infinite a, .finite _ _ => .infinite a
  | .finite _ _, .infinite b => .infinite b
  | .finite a x, .finite b y =>
    let sum := (Double.finite a x).scaled + (Double.finite b y).scaled
    if sum = 0 then .finite (a && b) .zero else ofRatio (sum < 0) sum.natAbs 1

/-- The rounded difference. -/
protected def sub (a b : Double) : Double := a.add b.neg

/-- The rounded product. -/
protected def mul : Double → Double → Double
  | .nan, _ | _, .nan => .nan
  | .infinite a, .infinite b => .infinite (a ^^ b)
  | .infinite a, .finite b y => if y.units = 0 then .nan else .infinite (a ^^ b)
  | .finite a x, .infinite b => if x.units = 0 then .nan else .infinite (a ^^ b)
  | .finite a x, .finite b y => ofRatio (a ^^ b) (x.units * y.units) one

/-- The rounded quotient. -/
protected def div : Double → Double → Double
  | .nan, _ | _, .nan => .nan
  | .infinite _, .infinite _ => .nan
  | .infinite a, .finite b _ => .infinite (a ^^ b)
  | .finite a _, .infinite b => .finite (a ^^ b) .zero
  | .finite a x, .finite b y =>
    if y.units = 0 then
      if x.units = 0 then .nan else .infinite (a ^^ b)
    else ofRatio (a ^^ b) (x.units * one) y.units

instance : Neg Double := ⟨Double.neg⟩
instance : Add Double := ⟨Double.add⟩
instance : Sub Double := ⟨Double.sub⟩
instance : Mul Double := ⟨Double.mul⟩
instance : Div Double := ⟨Double.div⟩

/-! ### Integers near a double -/

/-- Whether the double is an integer. -/
def isIntegral : Double → Bool
  | .finite _ magnitude => magnitude.units % one == 0
  | _ => false

/-- The largest integer that is at most a finite double. -/
def floorInt (x : Double) : Int := x.scaled / one

/-- The smallest integer that is at least a finite double. -/
def ceilInt (x : Double) : Int := -(-x.scaled / one)

/-- The integer part, toward zero. -/
def truncInt : Double → Int
  | .finite negative magnitude =>
    if negative then -((magnitude.units / one : Nat) : Int) else (magnitude.units / one : Nat)
  | x => x.scaled / one

/-- An integral result for `x`; a zero takes the sign of `x`. -/
def integral (x : Double) (value : Int) : Double :=
  match x with
  | .finite negative _ => if value = 0 then .finite negative .zero else ofInt value
  | _ => x

/-- Rounded down to an integer. -/
def floor (x : Double) : Double := integral x x.floorInt

/-- Rounded up to an integer. -/
def ceil (x : Double) : Double := integral x x.ceilInt

/-- Rounded to the nearest integer; halves go away from zero. -/
def round (x : Double) : Double :=
  let size := (2 * x.scaled.natAbs + one) / (2 * one)
  integral x (if x.scaled < 0 then -(size : Int) else size)

/-- The integer part, moved into `[lo, hi]`; `nan` gives zero. -/
def toIntClamped (lo hi : Int) : Double → Int
  | .nan => 0
  | .infinite negative => if negative then lo else hi
  | x => max lo (min hi x.truncInt)

/-- The integer part as a signed 64-bit integer, saturating. -/
def toInt64 (x : Double) : Int := x.toIntClamped (-2 ^ 63) (2 ^ 63 - 1)

/-- The integer part as a signed 128-bit integer, saturating. -/
def toInt128 (x : Double) : Int := x.toIntClamped (-2 ^ 127) (2 ^ 127 - 1)

/-- The integer part as an unsigned 64-bit integer, saturating. -/
def toUInt64 (x : Double) : Nat := (x.toIntClamped 0 (2 ^ 64 - 1)).toNat

end Double

end Specimen
