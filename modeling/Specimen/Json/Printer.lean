import Specimen.Json.Basic
import Specimen.Double.Decimal
import Specimen.Numeral

/-!
# Specimen.Json.Printer

The texts of JSON values: `Json.text` on one line without blanks, `Json.prettyText` with one
element or member to a line, indented by two blanks per level.

In a string, the quote, the backslash and the control characters are escaped and nothing
else is: the short escapes where there is one, otherwise `\u` with four lower-case digits.
-/

namespace Specimen

/-- The text of a number. -/
def Number.text : Number → String
  | .int value => toString value
  | .double value => value.text

namespace Json

/-- The written form of one character of a string. -/
def escapeChar (c : Char) : String :=
  match c with
  | '"' => "\\\""
  | '\\' => "\\\\"
  | '\n' => "\\n"
  | '\r' => "\\r"
  | '\t' => "\\t"
  | '\x08' => "\\b"
  | '\x0c' => "\\f"
  | c =>
    if c.toNat < 0x20 then "\\u00" ++ Numeral.hexByte c.toNat else c.toString

/-- The text of a string, in quotes. -/
def quote (value : String) : String :=
  (value.foldl (fun text c => text ++ escapeChar c) "\"").push '"'

mutual

/-- The compact text of a value. -/
def text : Json → String
  | .null => "null"
  | .bool value => if value then "true" else "false"
  | .num value => value.text
  | .str value => quote value
  | .arr elements => "[" ++ ",".intercalate (elementTexts elements) ++ "]"
  | .obj members => "\x7b" ++ ",".intercalate (memberTexts members) ++ "\x7d"

/-- The texts of elements. -/
def elementTexts : List Json → List String
  | [] => []
  | value :: rest => text value :: elementTexts rest

/-- The texts of members. -/
def memberTexts : List (String × Json) → List String
  | [] => []
  | (key, value) :: rest => (quote key ++ ":" ++ text value) :: memberTexts rest

end

/-- A container around its parts: one to a line, or nothing between the brackets. -/
private def block (indent : String) (opening closing : String) (parts : List String) : String :=
  if parts.isEmpty then opening ++ closing
  else
    let inner := indent ++ "  "
    opening ++ "\n" ++ ",\n".intercalate (parts.map (inner ++ ·)) ++ "\n" ++ indent ++ closing

mutual

/-- The indented text of a value that starts behind `indent`. -/
def prettyFrom (indent : String) : Json → String
  | .arr elements => block indent "[" "]" (prettyElements (indent ++ "  ") elements)
  | .obj members => block indent "\x7b" "\x7d" (prettyMembers (indent ++ "  ") members)
  | value => text value

/-- The indented texts of elements. -/
def prettyElements (indent : String) : List Json → List String
  | [] => []
  | value :: rest => prettyFrom indent value :: prettyElements indent rest

/-- The indented texts of members. -/
def prettyMembers (indent : String) : List (String × Json) → List String
  | [] => []
  | (key, value) :: rest =>
    (quote key ++ ": " ++ prettyFrom indent value) :: prettyMembers indent rest

end

/-- The indented text of a value. -/
def prettyText (value : Json) : String := prettyFrom "" value

end Json

end Specimen
