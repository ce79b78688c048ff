import Specimen.Json.Basic
import Specimen.Numeral

/-!
# Specimen.Toml.Scalar

Values of TOML documents that are written without quotes and brackets.

* `integer?` — signed 64-bit integers: decimal, or behind `0x`, `0o` and `0b`;
* `float?` — doubles, among them `inf` and `nan`;
* `isDateTime` — dates and times. They stand for no value of ours, so only their form counts;
* `scalar?` — any of them.

Single underscores may stand between digits.
-/

namespace Specimen.Toml

open Numeral (ofDigits digitValue hexValue?)

/-! ### Digits -/

/-- The digits behind a first one, without the underscores between them. -/
private def moreDigits? (isDigit : Char → Bool) : List Char → Option (List Char)
  | [] => some []
  | '_' :: c :: rest => if isDigit c then (moreDigits? isDigit rest).map (c :: ·) else none
  | c :: rest => if isDigit c then (moreDigits? isDigit rest).map (c :: ·) else none

/-- The digits of a text, at least one, without the underscores between them. -/
def digits? (isDigit : Char → Bool) : List Char → Option (List Char)
  | [] => none
  | c :: rest => if isDigit c then (moreDigits? isDigit rest).map (c :: ·) else none

/-- The digits of a decimal integer, which has no zeros in front. -/
def wholeDigits? (text : List Char) : Option (List Char) :=
  (digits? Char.isDigit text).filter fun digits => digits.head? ≠ some '0' || digits.length = 1

/-- Splits off a sign: whether it is a minus, and the rest. -/
def splitSign : List Char → Bool × List Char
  | '-' :: rest => (true, rest)
  | '+' :: rest => (false, rest)
  | text => (false, text)

/-- A number with its sign. -/
def signed (negative : Bool) (size : Nat) : Int := if negative then -(size : Int) else size

/-! ### Integers -/

/-- The number that digits of a base write. -/
private def ofBase? (base : Nat) (text : List Char) : Option Int := do
  let digits ← digits? (fun c => (hexValue? c).any (· < base)) text
  return digits.foldl (fun value c => base * value + (hexValue? c).getD 0) 0

/-- A signed 64-bit integer. -/
def integer? (text : List Char) : Option Int :=
  let value? : Option Int :=
    match text with
    | '0' :: 'x' :: digits => ofBase? 16 digits
    | '0' :: 'o' :: digits => ofBase? 8 digits
    | '0' :: 'b' :: digits => ofBase? 2 digits
    | text =>
      let (negative, digits) := splitSign text
      (wholeDigits? digits).map fun digits => signed negative (ofDigits digits)
  value?.filter fun value => -2 ^ 63 ≤ value && value < 2 ^ 63

/-! ### Doubles -/

/-- The exponent behind its mark. -/
private def exponent? (text : List Char) : Option Int :=
  let (negative, digits) := splitSign text
  (digits? Char.isDigit digits).map fun digits => signed negative (ofDigits digits)

/-- A decimal number with a point, an exponent or both. -/
private def decimal? (negative : Bool) (text : List Char) : Option Double := do
  let isPart (c : Char) : Bool := c.isDigit || c == '_'
  let whole ← wholeDigits? (text.takeWhile isPart)
  let (fraction, rest) ←
    match text.dropWhile isPart with
    | '.' :: rest => do pure (← digits? Char.isDigit (rest.takeWhile isPart), rest.dropWhile isPart)
    | 'e' :: rest => pure ([], 'e' :: rest)
    | 'E' :: rest => pure ([], 'e' :: rest)
    | _ => none
  let exponent ←
    match rest with
    | [] => some 0
    | 'e' :: rest => exponent? rest
    | 'E' :: rest => exponent? rest
    | _ => none
  return .ofDecimal negative (ofDigits (whole ++ fraction)) (exponent - fraction.length)

/-- A double. A positive number beyond every finite double is refused, a negative one is negative
infinity. -/
def float? (text : List Char) : Option Double :=
  let (negative, size) := splitSign text
  match size with
  | ['i', 'n', 'f'] => some (.infinite negative)
  | ['n', 'a', 'n'] => some .nan
  | size => (decimal? negative size).filter (· ≠ .infinite false)

/-! ### Dates and times -/

/-- A number of two digits in a range. -/
private def pairWithin (a b : Char) (lo hi : Nat) : Bool :=
  a.isDigit && b.isDigit && lo ≤ ofDigits [a, b] && ofDigits [a, b] ≤ hi

/-- Whether a text is an offset from universal time. -/
private def isOffset : List Char → Bool
  | ['Z'] | ['z'] => true
  | [sign, a, b, ':', c, d] =>
    (sign == '+' || sign == '-') && pairWithin a b 0 23 && pairWithin c d 0 59
  | _ => false

/-- Whether a text is a time of day, with an offset where one is allowed. -/
private def isTime (offsetAllowed : Bool) : List Char → Bool
  | a :: b :: ':' :: c :: d :: ':' :: e :: f :: rest =>
    let (isFraction, rest) :=
      match rest with
      | '.' :: rest => (rest.head?.any Char.isDigit, rest.dropWhile Char.isDigit)
      | rest => (true, rest)
    pairWithin a b 0 23 && pairWithin c d 0 59 && pairWithin e f 0 60 && isFraction &&
      (rest.isEmpty || (offsetAllowed && isOffset rest))
  | _ => false

/-- The number of days of a month. -/
private def daysOf (year month : Nat) : Nat :=
  match month with
  | 2 => if year % 4 = 0 ∧ (year % 100 ≠ 0 ∨ year % 400 = 0) then 29 else 28
  | 4 | 6 | 9 | 11 => 30
  | _ => 31

/-- Whether a text is a date, a time or both; a `T` or a blank stands between them. -/
def isDateTime : List Char → Bool
  | y :: y' :: y'' :: y''' :: '-' :: m :: m' :: '-' :: d :: d' :: rest =>
    let year := [y, y', y'', y''']
    year.all Char.isDigit && pairWithin m m' 1 12 &&
      pairWithin d d' 1 (daysOf (ofDigits year) (ofDigits [m, m'])) &&
      match rest with
      | [] => true
      | c :: time => (c == 'T' || c == 't' || c == ' ') && isTime true time
  | text => isTime false text

/-! ### Scalars -/

/-- The value of a date or a time: an object that nobody asks for. -/
def dateTime : Json := .object [("datetime", .null)]

/-- The value that a text without quotes and brackets writes. -/
def scalar? (text : List Char) : Option Json :=
  match text with
  | ['t', 'r', 'u', 'e'] => some (.bool true)
  | ['f', 'a', 'l', 's', 'e'] => some (.bool false)
  | text =>
    if isDateTime text then some dateTime
    else (float? text).map Json.double <|> (integer? text).map Json.int

end Specimen.Toml
