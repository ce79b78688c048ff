import Specimen.Numeral

/-!
# Specimen.Toml.Quoted

Strings of TOML documents. A *basic* string stands in double quotes and has escapes, a *literal*
string stands in single quotes and has none; either may extend over several lines when its
quotes are tripled. The functions read the rest of a string behind its opening quotes and return
the text and what follows the closing quotes.
-/

namespace Specimen.Toml

open Numeral (hexValue?)

/-- The characters that may stand for themselves on a line: all but the control characters, of which
the tabulator is allowed. -/
def isPlain (c : Char) : Bool := c == '\t' || (0x20 ≤ c.toNat && c.toNat != 0x7f)

/-- The character of a code in hexadecimal digits. -/
private def ofCode? (digits : List Char) : Option Char := do
  let values ← digits.mapM hexValue?
  let code := values.foldl (fun code value => 16 * code + value) 0
  if code.isValidChar then some (Char.ofNat code) else none

/-- The character behind a backslash. -/
private def escaped? : Char → Option Char
  | 'b' => some '\x08'
  | 't' => some '\t'
  | 'n' => some '\n'
  | 'f' => some '\x0c'
  | 'r' => some '\r'
  | '"' => some '"'
  | '\\' => some '\\'
  | _ => none

/-- The rest of a basic string on one line, behind the text read so far. -/
def basic? (text : String) : List Char → Option (String × List Char)
  | [] => none
  | '"' :: rest => some (text, rest)
  | '\\' :: 'u' :: a :: b :: c :: d :: rest => do
    basic? (text.push (← ofCode? [a, b, c, d])) rest
  | '\\' :: 'U' :: a :: b :: c :: d :: e :: f :: g :: h :: rest => do
    basic? (text.push (← ofCode? [a, b, c, d, e, f, g, h])) rest
  | '\\' :: c :: rest => do basic? (text.push (← escaped? c)) rest
  | c :: rest => if isPlain c then basic? (text.push c) rest else none

/-- The rest of a literal string on one line. -/
def literal? (text : List Char) : Option (String × List Char) :=
  match text.dropWhile fun c => c != '\'' && isPlain c with
  | '\'' :: rest => some (String.ofList (text.takeWhile fun c => c != '\'' && isPlain c), rest)
  | _ => none

/-- Where the reader of a string of several lines is. -/
private inductive Position where
  | inside
  /-- Behind a backslash, with nothing but blanks left on the line. -/
  | lineEnd
  /-- Behind such a line, before the next character that counts. -/
  | lineStart

/-- The rest of a basic string of several lines, behind the text read so far. Up to two quotes may
stand before the closing ones. A backslash at the end of a line drops all blanks and line ends
that follow. -/
private def basicLines? (text : String) : Position → List Char → Option (String × List Char)
  | _, [] => none
  | .lineEnd, '\n' :: rest => basicLines? text .lineStart rest
  | .lineEnd, '\r' :: '\n' :: rest => basicLines? text .lineStart rest
  | .lineEnd, c :: rest =>
    if c = ' ' ∨ c = '\t' then basicLines? text .lineEnd rest else none
  | .lineStart, '\n' :: rest => basicLines? text .lineStart rest
  | .lineStart, '\r' :: '\n' :: rest => basicLines? text .lineStart rest
  | .lineStart, ' ' :: rest => basicLines? text .lineStart rest
  | .lineStart, '\t' :: rest => basicLines? text .lineStart rest
  | _, '"' :: '"' :: '"' :: '"' :: '"' :: rest => some (text ++ "\"\"", rest)
  | _, '"' :: '"' :: '"' :: '"' :: rest => some (text.push '"', rest)
  | _, '"' :: '"' :: '"' :: rest => some (text, rest)
  | _, '\\' :: 'u' :: a :: b :: c :: d :: rest => do
    basicLines? (text.push (← ofCode? [a, b, c, d])) .inside rest
  | _, '\\' :: 'U' :: a :: b :: c :: d :: e :: f :: g :: h :: rest => do
    basicLines? (text.push (← ofCode? [a, b, c, d, e, f, g, h])) .inside rest
  | _, '\\' :: '\r' :: '\n' :: rest => basicLines? text .lineStart rest
  | _, '\\' :: c :: rest =>
    if c = '\n' then basicLines? text .lineStart rest
    else if c = ' ' ∨ c = '\t' then basicLines? text .lineEnd rest
    else do basicLines? (text.push (← escaped? c)) .inside rest
  | _, '\r' :: '\n' :: rest => basicLines? (text.push '\n') .inside rest
  | _, c :: rest =>
    if isPlain c ∨ c = '\n' then basicLines? (text.push c) .inside rest else none

/-- The rest of a literal string of several lines, behind the text read so far. -/
private def literalLines? (text : String) : List Char → Option (String × List Char)
  | [] => none
  | '\'' :: '\'' :: '\'' :: '\'' :: '\'' :: rest => some (text ++ "\'\'", rest)
  | '\'' :: '\'' :: '\'' :: '\'' :: rest => some (text.push '\'', rest)
  | '\'' :: '\'' :: '\'' :: rest => some (text, rest)
  | '\r' :: '\n' :: rest => literalLines? (text.push '\n') rest
  | c :: rest => if isPlain c ∨ c = '\n' then literalLines? (text.push c) rest else none

/-- The text without a line end at its start. -/
private def dropLineEnd : List Char → List Char
  | '\n' :: rest => rest
  | '\r' :: '\n' :: rest => rest
  | text => text

/-- The string at the start of a text and what follows it, where strings of several lines count when
`multiline` is set. -/
def quoted? (multiline : Bool) : List Char → Option (String × List Char)
  | '"' :: '"' :: '"' :: rest =>
    if multiline then basicLines? "" .inside (dropLineEnd rest) else basic? "" ('"' :: '"' :: rest)
  | '"' :: rest => basic? "" rest
  | '\'' :: '\'' :: '\'' :: rest =>
    if multiline then literalLines? "" (dropLineEnd rest) else literal? ('\'' :: '\'' :: rest)
  | '\'' :: rest => literal? rest
  | _ => none

end Specimen.Toml
