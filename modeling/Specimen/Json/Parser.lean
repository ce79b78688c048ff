import Specimen.Json.Token

/-!
# Specimen.Json.Parser

Reads JSON texts. The parser takes one token at a time; its state is the stack of the
containers that are still open and what may come next, so that it recurses on the tokens
alone. At most 127 containers may be open at once.
-/

namespace Specimen.Json

/-- A container that is not closed yet; its parts are in reverse order. -/
inductive Open where
  | array (elements : List Json)
  /-- An object, and the key that waits for its value. -/
  | object (members : List (String × Json)) (key : String)

/-- What the next token may be. -/
inductive Expected where
  | value
  | elementOrClose
  | key
  | keyOrClose
  | colon
  | separator
  /-- The value is complete. -/
  | nothing (value : Json)

/-- How many containers may be open at once. -/
def maxNesting : Nat := 127

/-- The state behind a complete value. -/
def complete (value : Json) : List Open → List Open × Expected
  | [] => ([], .nothing value)
  | .array elements :: outer => (.array (value :: elements) :: outer, .separator)
  | .object members key :: outer => (.object ((key, value) :: members) key :: outer, .separator)

/-- The state behind the opening bracket of a container. -/
def enter (container : Open) (expected : Expected) (stack : List Open) :
    Option (List Open × Expected) :=
  if stack.length < maxNesting then some (container :: stack, expected) else none

/-- The state behind the first token of a value. -/
def startValue (stack : List Open) : Token → Option (List Open × Expected)
  | .scalar value => some (complete value stack)
  | .openArray => enter (.array []) .elementOrClose stack
  | .openObject => enter (.object [] "") .keyOrClose stack
  | _ => none

/-- The state behind one more token. -/
def step : List Open × Expected → Token → Option (List Open × Expected)
  | (.array elements :: outer, .elementOrClose), .closeArray
  | (.array elements :: outer, .separator), .closeArray =>
    some (complete (.arr elements.reverse) outer)
  | (.object members _ :: outer, .keyOrClose), .closeObject
  | (.object members _ :: outer, .separator), .closeObject =>
    some (complete (object members.reverse) outer)
  | (.object members _ :: outer, .keyOrClose), .scalar (.str key)
  | (.object members _ :: outer, .key), .scalar (.str key) =>
    some (.object members key :: outer, .colon)
  | (stack, .colon), .colon => some (stack, .value)
  | (.array elements :: outer, .separator), .comma =>
    some (.array elements :: outer, .value)
  | (.object members key :: outer, .separator), .comma =>
    some (.object members key :: outer, .key)
  | (stack, .value), token | (stack, .elementOrClose), token => startValue stack token
  | _, _ => none

/-- The value that a text writes. -/
def parse? (text : String) : Option Json := do
  let (_, expected) ← (← Token.scan text).foldlM step ([], .value)
  match expected with
  | .nothing value => some value
  | _ => none

end Specimen.Json
