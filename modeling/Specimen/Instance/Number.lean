import Specimen.Double.Decimal
import Specimen.Instance.Run
import Specimen.Random.Range

/-!
# Specimen.Instance.Number

Integers and numbers within the bounds of a schema.

An end that the schema leaves open is taken from a fallback range; when the other end lies beyond
that range, the width of the range is used instead.

* `integerSpan`, `numberSpan` — the ends to draw between;
* `checked` — arithmetic that fails where a result does not fit;
* `integer` — an integer; a multiple of an integral step is drawn by its factor, a multiple of a
  fractional step is searched for;
* `number` — a number; a multiple of a step is rounded to the decimal places of the step.
-/

namespace Specimen.Instance

variable {σ : Type} [Random.Source σ]

/-! ### Integers -/

/-- The nearest signed 64-bit integer. -/
def saturate (value : Int) : Int := max Constraints.minInteger (min Constraints.maxInteger value)

/-- The ends between which an integer is drawn. -/
def integerSpan (set : Constraints) (fallback : Int × Int) : Except SchemaError (Int × Int) :=
  let (least, greatest) := fallback
  let width := saturate (greatest - least)
  let (lo, hi) :=
    match set.integerBounds with
    | (some lo, some hi) => (lo, hi)
    | (some lo, none) => (lo, if lo ≤ greatest then greatest else saturate (lo + width))
    | (none, some hi) => (if least ≤ hi then least else saturate (hi - width), hi)
    | (none, none) => (least, greatest)
  if hi < lo then .error (.unsatisfiable set.pointer s!"no integer between {lo} and {hi}")
  else .ok (lo, hi)

/-- A number that a signed integer of some bits holds. -/
def FitsIn (bits : Nat) (number : Int) : Prop :=
  -2 ^ (bits - 1) ≤ number ∧ number < 2 ^ (bits - 1)

instance (bits : Nat) (number : Int) : Decidable (FitsIn bits number) :=
  inferInstanceAs (Decidable (_ ∧ _))

/-- A result of arithmetic with signed integers of some bits. -/
def checked (bits : Nat) (result : Int) : Attempt σ Int :=
  if FitsIn bits result then return result else throw (.fault .overflow)

/-- The quotient of two signed 128-bit integers, rounded down where the divisor is positive. -/
def quotient (a b : Int) : Attempt σ Int :=
  if b = 0 then throw (.fault .overflow) else checked 128 (a / b)

/-- The factors by which an integral step lies in `[lo, hi]`. -/
def factorSpan (set : Constraints) (lo hi step : Int) : Attempt σ (Int × Int) := do
  let least ← checked 128 (-(← quotient (← checked 128 (-lo)) step))
  let greatest ← quotient hi step
  if greatest < least then
    unsatisfiable set.pointer s!"no multiple of {step} between {lo} and {hi}"
  else return (least, greatest)

/-- The integer that a multiple of a fractional step is equal to, up to rounding errors, if it lies
in `[lo, hi]`. -/
def integralMultiple? (lo hi : Int) (step : Double) (factor : Int) : Option Int :=
  let value := Double.ofInt factor * step
  let rounded := value.round
  if (value - rounded).abs < Double.ofDecimal false 1 (-9) ∧
      Double.ofInt lo ≤ rounded ∧ rounded ≤ Double.ofInt hi then
    some rounded.toInt64
  else none

/-- Draws factors in `[least, greatest]` until one gives an integer. -/
def drawMultiple (accept : Int → Option Int) (least greatest : Int) :
    (attempts : Nat) → Random.Draw σ (Option Int)
  | 0 => return none
  | attempts + 1 => do
    match accept (← Random.wideInteger least greatest) with
    | some value => return some value
    | none => drawMultiple accept least greatest attempts

/-- The first integer that a factor gives, from `least` on. -/
def scanMultiples (accept : Int → Option Int) (least : Int) : (count : Nat) → Option Int
  | 0 => none
  | count + 1 =>
    match accept least with
    | some value => some value
    | none => scanMultiples accept (least + 1) count

/-- How many factors are tried in turn, apart from the first. -/
def maxScanned : Nat := 10000

/-- An integer in `[lo, hi]` that is a multiple of a fractional step. The factors are signed 128-bit
integers, also the one where trying them in turn ends. -/
def fractionalMultiple (set : Constraints) (lo hi : Int) (step : Double) (attempts : Nat) :
    Attempt σ Int := do
  let least := (Double.ofInt lo / step).ceil.toInt128
  let greatest := (Double.ofInt hi / step).floor.toInt128
  let accept := integralMultiple? lo hi step
  if least ≤ greatest then
    if let some value ← Attempt.draw (drawMultiple accept least greatest attempts) then
      return value
    let last := min greatest (← checked 128 (least + maxScanned))
    if let some value := scanMultiples accept least ((last - least).toNat + 1) then return value
  unsatisfiable set.pointer
    s!"no integer multiple of {step.plainText} between {lo} and {hi}"

/-- The signed 64-bit integer with the low bits of a number. -/
def narrow (number : Int) : Int := Int.bmod number (2 ^ 64)

/-- Whether a step is drawn by its factor. -/
def isIntegralStep (step : Double) : Bool := step.isIntegral && step ≤ Double.ofNat (2 ^ 63)

/-- An integer that meets the bounds and is a multiple of the step. -/
def integer (set : Constraints) (fallback : Int × Int) (attempts : Nat) : Attempt σ Int := do
  let (lo, hi) ← Attempt.check (integerSpan set fallback)
  match set.multipleOf with
  | none => Attempt.draw (Random.integer lo hi)
  | some step =>
    if isIntegralStep step then
      let step := step.toInt128
      let (least, greatest) ← factorSpan set lo hi step
      let factor ← Attempt.draw (Random.wideInteger least greatest)
      return narrow (← checked 128 (factor * step))
    else fractionalMultiple set lo hi step attempts

/-! ### Numbers -/

/-- The ends between which a number is drawn. -/
def numberSpan (set : Constraints) (fallback : Double × Double) :
    Except SchemaError (Double × Double) :=
  let (least, greatest) := fallback
  let width := greatest - least
  let (lo, hi) :=
    match set.numberBounds with
    | (some lo, some hi) => (lo, hi)
    | (some lo, none) => (lo, if lo ≤ greatest then greatest else lo + width)
    | (none, some hi) => (if least ≤ hi then least else hi - width, hi)
    | (none, none) => (least, greatest)
  if hi < lo then
    .error (.unsatisfiable set.pointer s!"no number between {lo.plainText} and {hi.plainText}")
  else .ok (lo, hi)

/-- The factors by which a step lies in `[lo, hi]`, as signed 64-bit integers. -/
def numberFactorSpan (set : Constraints) (lo hi step : Double) :
    Except SchemaError (Int × Int) :=
  let least := (lo / step).ceil
  let greatest := (hi / step).floor
  if greatest < least then
    .error (.unsatisfiable set.pointer
      s!"no multiple of {step.plainText} between {lo.plainText} and {hi.plainText}")
  else
    .ok ((least.max (.ofInt Constraints.minInteger)).toInt64,
      (greatest.min (.ofInt Constraints.maxInteger)).toInt64)

/-- A number between two ends. -/
def between (lo hi : Double) : Random.Draw σ Double := do
  if lo == hi then return lo
  let part ← Random.unit
  return (lo * (.ofNat 1 - part) + hi * part).clamp lo hi

/-- A multiple of a step, rounded to the decimal places of the step. -/
def roundToStep (value step : Double) : Double :=
  let scale := Double.ofNat (10 ^ min step.decimalPlaces 15)
  let rounded := (value * scale).round / scale
  if rounded.isFinite then rounded else value

/-- A number that meets the bounds and is a multiple of the step. -/
def number (set : Constraints) (fallback : Double × Double) : Attempt σ Double := do
  let (lo, hi) ← Attempt.check (numberSpan set fallback)
  let value ←
    match set.multipleOf with
    | none => Attempt.draw (between lo hi)
    | some step => do
      let (least, greatest) ← Attempt.check (numberFactorSpan set lo hi step)
      let factor ← Attempt.draw (Random.integer least greatest)
      pure (roundToStep (.ofInt factor * step) step)
  if value.isFinite then return value
  throw (.schema (.invalidSchema set.pointer
    s!"bounds produce a non-finite number {value.plainText}"))

end Specimen.Instance
