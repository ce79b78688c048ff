/-!
# Specimen.Numeral

Numerals: the values of decimal and hexadecimal digits, and the reader of unsigned 64-bit
numbers (`Numeral.unsigned64?`).

`^` on natural numbers and integers always means the power of the core library, also where algebra
provides another way to write it.
-/

attribute [instance (2000), default_instance 20000] instPowNat

namespace Specimen.Numeral

/-- The value of a decimal digit. -/
def digitValue (c : Char) : Nat := c.toNat - '0'.toNat

/-- The number that a sequence of decimal digits writes. -/
def ofDigits (digits : List Char) : Nat :=
  digits.foldl (fun value c => 10 * value + digitValue c) 0

/-- The value of a hexadecimal digit of either case. -/
def hexValue? (c : Char) : Option Nat :=
  if c.isDigit then some (digitValue c)
  else if 'a' ≤ c ∧ c ≤ 'f' then some (c.toNat - 'a'.toNat + 10)
  else if 'A' ≤ c ∧ c ≤ 'F' then some (c.toNat - 'A'.toNat + 10)
  else none

/-- The lower-case hexadecimal digit of a number below 16. -/
def hexDigit (value : Nat) : Char := Nat.digitChar value

/-- The two lower-case hexadecimal digits of a byte. -/
def hexByte (value : Nat) : String := String.ofList [hexDigit (value / 16), hexDigit (value % 16)]

/-- The number that a non-empty sequence of decimal digits writes, below `2 ^ 64`. -/
def digits64? (digits : List Char) : Option Nat :=
  if digits ≠ [] ∧ digits.all Char.isDigit ∧ ofDigits digits < 2 ^ 64 then some (ofDigits digits)
  else none

/-- An unsigned 64-bit number: decimal digits, leading zeros allowed, behind an optional plus
sign. -/
def unsigned64? (text : String) : Option Nat :=
  match text.toList with
  | '+' :: digits => digits64? digits
  | digits => digits64? digits

end Specimen.Numeral
