import Specimen.Toml.Quoted
import Specimen.Toml.Scalar
import Specimen.Toml.Section

/-!
# Specimen.Toml.Parser

Reads TOML documents (`Toml.parse?`). Every function takes a part off the text that is left; those
that nest or repeat are bounded by a number of rounds, of which each takes at least one
character.
-/

namespace Specimen.Toml

/-- A reader of the text that is left. -/
abbrev Parse := StateT (List Char) Option

/-! ### Blanks and line ends -/

/-- Skips blanks on the line. -/
def blanks : Parse Unit := modify (·.dropWhile fun c => c == ' ' || c == '\t')

/-- The text behind blanks, line ends and comments. -/
def dropGaps (inComment : Bool) : List Char → List Char
  | [] => []
  | c :: rest =>
    if inComment && isPlain c then dropGaps true rest
    else if c == ' ' || c == '\t' || c == '\n' then dropGaps false rest
    else if c == '\r' && rest.head? == some '\n' then dropGaps false rest
    else if c == '#' then dropGaps true rest
    else c :: rest

/-- Skips blanks, line ends and comments. -/
def gaps : Parse Unit := modify (dropGaps false)

/-- Skips the rest of a line, on which only a comment may stand. -/
def lineEnd : Parse Unit := do
  blanks
  if (← get).head? = some '#' then modify (·.dropWhile isPlain)
  match ← get with
  | [] => return
  | '\n' :: rest => set rest
  | '\r' :: '\n' :: rest => set rest
  | _ => failure

/-- Takes the given character. -/
def expect (c : Char) : Parse Unit := do
  match ← get with
  | d :: rest => if d = c then set rest else failure
  | [] => failure

/-- Takes a character if it comes next. -/
def accept (c : Char) : Parse Bool := do
  match ← get with
  | d :: rest => if d = c then do set rest; return true else return false
  | [] => return false

/-! ### Keys -/

/-- The characters of keys without quotes. -/
def isBare (c : Char) : Bool := c.isAlphanum || c == '_' || c == '-'

/-- One part of a key. -/
def keyPart : Parse String := do
  let text ← get
  match quoted? false text with
  | some (key, rest) => do set rest; return key
  | none => do
    let key := text.takeWhile isBare
    if key.isEmpty then failure
    set (text.dropWhile isBare)
    return String.ofList key

/-- The parts of a key, with points between them. -/
def key : (rounds : Nat) → Parse (List String)
  | 0 => failure
  | rounds + 1 => do
    blanks
    let part ← keyPart
    blanks
    if ← accept '.' then return part :: (← key rounds) else return [part]

/-- The parts of a key up to the last one, and the last one. -/
def keyPath (rounds : Nat) : Parse (List String × String) := do
  let parts ← key rounds
  return (parts.dropLast, parts.getLastD "")

/-! ### Values -/

/-- The characters of values without quotes and brackets. -/
def isScalarChar (c : Char) : Bool := isBare c || c == '+' || c == '.' || c == ':'

/-- The text of a value without quotes and brackets. A blank may stand between a date and a time. -/
def scalarText : Parse (List Char) := do
  let text ← get
  let first := text.takeWhile isScalarChar
  match text.dropWhile isScalarChar with
  | ' ' :: c :: rest =>
    if isDateTime first ∧ first.length = 10 ∧ c.isDigit then do
      set ((c :: rest).dropWhile isScalarChar)
      return first ++ ' ' :: (c :: rest).takeWhile isScalarChar
    else do
      set (' ' :: c :: rest)
      return first
  | rest => do
    set rest
    return first

mutual

/-- A value. -/
def value : (rounds : Nat) → Parse Json
  | 0 => failure
  | rounds + 1 => do
    match ← get with
    | '[' :: rest => do
      set rest
      return .arr (← elements rounds)
    | '\x7b' :: rest => do
      set rest
      blanks
      if ← accept '\x7d' then return .obj []
      return (Entry.table .header (← members rounds [])).toJson
    | text =>
      match quoted? true text with
      | some (string, rest) => do
        set rest
        return .str string
      | none => do
        let text ← scalarText
        (scalar? text : Option Json)

/-- The elements of an array up to its closing bracket. -/
def elements : (rounds : Nat) → Parse (List Json)
  | 0 => failure
  | rounds + 1 => do
    gaps
    if ← accept ']' then return []
    let first ← value rounds
    gaps
    if ← accept ',' then return first :: (← elements rounds)
    expect ']'
    return [first]

/-- The members of a table on one line up to its closing brace, behind the members so far. -/
def members : (rounds : Nat) → Members → Parse Members
  | 0, _ => failure
  | rounds + 1, known => do
    let (path, name) ← keyPath rounds
    expect '='
    blanks
    let known ← (define name (← value rounds) path known : Option Members)
    blanks
    if ← accept ',' then members rounds known
    else do
      expect '\x7d'
      return known

end

/-! ### Documents -/

/-- The tables read so far and the path of the header that the next lines belong to. -/
structure Outline where
  root : Members
  header : List String

/-- The header of a table, behind its first bracket. -/
def header (rounds : Nat) (outline : Outline) : Parse Outline := do
  let isElement ← accept '['
  let (path, name) ← keyPath rounds
  expect ']'
  if isElement then expect ']'
  let change := if isElement then openElement name else openTable name
  let root ← (modifyAt true change path outline.root : Option Members)
  return ⟨root, path ++ [name]⟩

/-- A key with its value. -/
def assignment (rounds : Nat) (outline : Outline) : Parse Outline := do
  let (path, name) ← keyPath rounds
  expect '='
  blanks
  let value ← value rounds
  let root ←
    (modifyAt false (define name value path) outline.header outline.root : Option Members)
  return { outline with root }

/-- One line after the other. -/
def lines : (rounds : Nat) → Outline → Parse Outline
  | 0, _ => failure
  | rounds + 1, outline => do
    blanks
    match ← get with
    | [] => return outline
    | '[' :: rest => do
      set rest
      let outline ← header rounds outline
      lineEnd
      lines rounds outline
    | c :: _ =>
      if c = '#' ∨ c = '\n' ∨ c = '\r' then do
        lineEnd
        lines rounds outline
      else do
        let outline ← assignment rounds outline
        lineEnd
        lines rounds outline

/-- The value of a document: an object. A byte order mark may stand in front. -/
def parse? (text : String) : Option Json :=
  let chars := text.toList
  let chars := if chars.head? = some '\uFEFF' then chars.drop 1 else chars
  ((lines (2 * chars.length + 2) ⟨[], []⟩).run chars).map fun (outline, _) =>
    .obj (membersToJson outline.root)

end Specimen.Toml
