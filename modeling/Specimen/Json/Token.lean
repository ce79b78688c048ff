import Specimen.Double.Decimal
import Specimen.Json.Basic
import Specimen.Numeral

/-!
# Specimen.Json.Token

The tokens of JSON texts.

* `Number.parse?` — the grammar of numbers. A text without point and exponent that fits a
  64-bit integer is an integer, any other number is the nearest double, and a text beyond every
  finite double is refused;
* `Token.scan` — the tokens of a text, or nothing when some part of it is no token.
-/

namespace Specimen

namespace Number

open Numeral (ofDigits)

/-- The exponent part of a number: nothing, or a mark, an optional sign and digits. -/
private def exponent? : List Char → Option Int
  | [] => some 0
  | mark :: rest =>
    let (negative, digits) :=
      match rest with
      | '-' :: digits => (true, digits)
      | '+' :: digits => (false, digits)
      | digits => (false, digits)
    if (mark = 'e' ∨ mark = 'E') ∧ digits ≠ [] ∧ digits.all Char.isDigit then
      some (if negative then -(ofDigits digits : Int) else ofDigits digits)
    else none

/-- A finite double as a number. -/
def finite? (value : Double) : Option Number :=
  if value.isFinite then some (.double value) else none

/-- An unsigned number with its sign apart. The integer part has no leading zero, and a point
needs a digit on either side. -/
def unsigned? (negative : Bool) (text : List Char) : Option Number :=
  let whole := text.takeWhile Char.isDigit
  if whole = [] ∨ (whole.head? = some '0' ∧ whole ≠ ['0']) then none
  else
    match text.dropWhile Char.isDigit with
    | [] =>
      let value : Int := if negative then -(ofDigits whole : Int) else ofDigits whole
      if HasInt value ∧ ¬(negative ∧ value = 0) then some (.int value)
      else finite? (.ofDecimal negative (ofDigits whole) 0)
    | '.' :: rest =>
      let fraction := rest.takeWhile Char.isDigit
      if fraction = [] then none
      else do
        let exponent ← exponent? (rest.dropWhile Char.isDigit)
        finite? (.ofDecimal negative (ofDigits (whole ++ fraction)) (exponent - fraction.length))
    | rest => do finite? (.ofDecimal negative (ofDigits whole) (← exponent? rest))

/-- The number that a text writes. -/
def parse? : List Char → Option Number
  | '-' :: rest => unsigned? true rest
  | text => unsigned? false text

end Number

namespace Json

/-- A token of a JSON text. -/
inductive Token where
  | openArray
  | closeArray
  | openObject
  | closeObject
  | comma
  | colon
  /-- A string, a number or a word. -/
  | scalar (value : Json)

namespace Token

open Numeral (hexValue?)

/-- The number that four hexadecimal digits write. -/
private def hexValue4? (a b c d : Char) : Option Nat := do
  return 4096 * (← hexValue? a) + 256 * (← hexValue? b) + 16 * (← hexValue? c) + (← hexValue? d)

/-- The character behind a backslash. -/
private def shortEscape? : Char → Option Char
  | '"' => some '"'
  | '\\' => some '\\'
  | '/' => some '/'
  | 'b' => some '\x08'
  | 'f' => some '\x0c'
  | 'n' => some '\n'
  | 'r' => some '\r'
  | 't' => some '\t'
  | _ => none

/-- The character of a surrogate pair. -/
private def surrogates? (high low : Nat) : Option Char :=
  if 0xD800 ≤ high ∧ high < 0xDC00 ∧ 0xDC00 ≤ low ∧ low < 0xE000 then
    some (Char.ofNat (0x10000 + (high - 0xD800) * 0x400 + (low - 0xDC00)))
  else none

/-- The rest of a string behind its opening quote: the text read so far, extended up to the
closing quote, and what follows that. A surrogate must stand in a pair. -/
private def scanString (text : String) : List Char → Option (String × List Char)
  | [] => none
  | '"' :: rest => some (text, rest)
  | '\\' :: 'u' :: a :: b :: c :: d :: rest => do
    let code ← hexValue4? a b c d
    if 0xD800 ≤ code ∧ code < 0xE000 then
      match rest with
      | '\\' :: 'u' :: e :: f :: g :: h :: rest =>
        scanString (text.push (← surrogates? code (← hexValue4? e f g h))) rest
      | _ => none
    else scanString (text.push (Char.ofNat code)) rest
  | '\\' :: c :: rest => do scanString (text.push (← shortEscape? c)) rest
  | c :: rest => if c.toNat < 0x20 then none else scanString (text.push c) rest

/-- The characters that a number may consist of. -/
private def isNumberChar (c : Char) : Bool :=
  c.isDigit || c == '-' || c == '+' || c == '.' || c == 'e' || c == 'E'

/-- The first token of a text and the rest behind it. -/
def next? : List Char → Option (Token × List Char)
  | '[' :: rest => some (.openArray, rest)
  | ']' :: rest => some (.closeArray, rest)
  | '\x7b' :: rest => some (.openObject, rest)
  | '\x7d' :: rest => some (.closeObject, rest)
  | ',' :: rest => some (.comma, rest)
  | ':' :: rest => some (.colon, rest)
  | '"' :: rest => do
    let (text, rest) ← scanString "" rest
    return (.scalar (.str text), rest)
  | 't' :: 'r' :: 'u' :: 'e' :: rest => some (.scalar (.bool true), rest)
  | 'f' :: 'a' :: 'l' :: 's' :: 'e' :: rest => some (.scalar (.bool false), rest)
  | 'n' :: 'u' :: 'l' :: 'l' :: rest => some (.scalar .null, rest)
  | text => do
    let number ← Number.parse? (text.takeWhile isNumberChar)
    return (.scalar (.num number), text.dropWhile isNumberChar)

/-- Blank, line feed, carriage return or tabulator. -/
private def isBlank (c : Char) : Bool := c == ' ' || c == '\n' || c == '\r' || c == '\t'

/-- The tokens of a text; every round takes at least one character, so as many rounds as there
are characters suffice. -/
def scanWith (tokens : Array Token) (text : List Char) : Nat → Option (List Token)
  | 0 => none
  | fuel + 1 =>
    match text.dropWhile isBlank with
    | [] => some tokens.toList
    | text => do
      let (token, rest) ← next? text
      scanWith (tokens.push token) rest fuel

/-- The tokens of a text. -/
def scan (text : String) : Option (List Token) := scanWith #[] text.toList (text.length + 1)

end Token

end Json

end Specimen
