import Specimen.Double.Basic

/-!
# Specimen.Double.Decimal

Decimal texts of doubles.

`Double.shortest` gives the fewest digits that read back to the same double and, among the
candidates of that length, the nearest one (a tie goes to the even digit). Two texts are
built from these digits:

* `Double.text` — values: positional between `1e-5` and `1e16` with at least one digit after the
  point, otherwise an exponent with its sign;
* `Double.plainText` — sentences: always positional, and an integer carries no point.
-/

namespace Specimen.Double

/-- The number `digits * 10 ^ exponent`. -/
structure Decimal where
  /-- The significant digits, read as one number. -/
  digits : Nat
  /-- The power of ten that the last digit counts. -/
  exponent : Int

/-- The same number without zeros at the end of its digits. -/
def dropZeros : Nat → Nat → Int → Decimal
  | 0, digits, exponent => ⟨digits, exponent⟩
  | fuel + 1, digits, exponent =>
    if digits % 10 = 0 then dropZeros fuel (digits / 10) (exponent + 1) else ⟨digits, exponent⟩

/-- The exponent of the leading decimal digit of a positive unit count: one unit is more than
`10 ^ -330`, so shifting by 330 places leaves a positive integer whose digits are counted. -/
def leadingExponent (units : Nat) : Int :=
  ((Nat.repr (units * 10 ^ 330 / one)).length : Int) - 331

/-- The candidates with the last digit counting `10 ^ exponent`, the nearest first: the two
neighbours of the value on that grid. -/
def neighbours (units : Nat) (exponent : Int) : List Nat :=
  let numerator := if exponent < 0 then units * 10 ^ (-exponent).toNat else units
  let denominator := if exponent < 0 then one else one * 10 ^ exponent.toNat
  let below := numerator / denominator
  if roundDiv numerator denominator = below then [below, below + 1] else [below + 1, below]

/-- The first count of digits, from `17 - fuel` on, with a candidate that reads back. -/
def shortestFrom (magnitude : Magnitude) (leading : Int) : Nat → Decimal
  | 0 => ⟨0, 0⟩
  | fuel + 1 =>
    let exponent := leading - 16 + fuel
    match (neighbours magnitude.units exponent).find?
        (fun digits => ofDecimal false digits exponent = .finite false magnitude) with
    | some digits => dropZeros 18 digits exponent
    | none => shortestFrom magnitude leading fuel

/-- The shortest decimal that reads back to a magnitude; zero is the digit `0`. -/
def shortest (magnitude : Magnitude) : Decimal :=
  if magnitude.units = 0 then ⟨0, 0⟩
  else shortestFrom magnitude (leadingExponent magnitude.units) 17

/-- Positional notation: `whole` digits before the point and the rest after it, padded with
zeros on either side. An integer ends in `integerEnd`. -/
def positional (digits : String) (exponent : Int) (integerEnd : String) : String :=
  if 0 ≤ exponent then digits ++ "".pushn '0' exponent.toNat ++ integerEnd
  else
    let places := (-exponent).toNat
    if digits.length ≤ places then "0." ++ "".pushn '0' (places - digits.length) ++ digits
    else
      let whole := digits.length - places
      (digits.take whole).toString ++ "." ++ (digits.drop whole).toString

/-- Scientific notation: one digit before the point, and an exponent with its sign. -/
def scientific (digits : String) (leading : Int) : String :=
  let fraction := (digits.drop 1).toString
  (digits.take 1).toString ++ (if fraction.isEmpty then "" else "." ++ fraction) ++ "e" ++
    (if leading < 0 then "-" else "+") ++ toString leading.natAbs

/-- The minus of a negative number, the negative zero included. -/
def signText (negative : Bool) : String := if negative then "-" else ""

/-- The text of a double as a value. -/
def text : Double → String
  | .finite negative magnitude =>
    let decimal := shortest magnitude
    let digits := toString decimal.digits
    let leading := decimal.exponent + digits.length - 1
    signText negative ++
      if -5 ≤ leading ∧ leading ≤ 15 then positional digits decimal.exponent ".0"
      else scientific digits leading
  | .infinite negative => signText negative ++ "inf"
  | .nan => "NaN"

/-- The text of a double in a sentence. -/
def plainText : Double → String
  | .finite negative magnitude =>
    let decimal := shortest magnitude
    signText negative ++ positional (toString decimal.digits) decimal.exponent ""
  | .infinite negative => signText negative ++ "inf"
  | .nan => "NaN"

/-- The number of digits after the point in the plain text. -/
def decimalPlaces : Double → Nat
  | .finite _ magnitude => (-(shortest magnitude).exponent).toNat
  | _ => 0

end Specimen.Double
