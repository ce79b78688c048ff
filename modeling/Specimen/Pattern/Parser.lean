import Specimen.Numeral
import Specimen.Pattern.Regex

/-!
# Specimen.Pattern.Parser

Reads regular expressions. There are no look-around assertions and no references to groups.

The parser walks over the text once and reads one item after the other (`Regex.item?`). Its state is
the stack of open groups, each with the alternatives read so far, and the flags in force; `Regex`
values are built as soon as their parts are complete (`Regex.State.take?`).

What Unicode says about names is taken from a `Lexicon`. There are no limits on the depth and on the
size of an expression.
-/

namespace Specimen.Pattern

/-- The classes with a letter of their own. -/
inductive Shorthand where
  | digits
  | blanks
  | words

namespace Shorthand

/-- The characters of a class as the tables have them. -/
def unicode : Shorthand → CharSet
  | digits => .decimalDigits
  | blanks => .whiteSpace
  | words => .wordChars

/-- The ASCII characters of a class. -/
def ascii : Shorthand → CharSet
  | digits => .asciiDigits
  | blanks => .asciiWhiteSpace
  | words => .asciiWordChars

end Shorthand

/-- What Unicode says about characters. -/
structure Lexicon where
  chars : Shorthand → CharSet
  /-- A set together with the characters that differ from its own in case only. -/
  foldCase : CharSet → CharSet
  /-- The characters that have a property by its name, or all others, under the rule for upper and
  lower case. -/
  property? : (negated caseInsensitive : Bool) → (name : List Char) → Option CharSet
  /-- The name of a property has no signs of escapes, classes and anchors. -/
  plain_of_property? {negated caseInsensitive : Bool} {name : List Char} {chars : CharSet} :
    property? negated caseInsensitive name = some chars → ∀ c ∈ name, c ∉ ['\\', '[', ']', '^', '$']
  /-- Whether a character beyond ASCII may begin the name of a group, or else stand in it. -/
  isNameChar : (first : Bool) → Char → Bool

/-- What the tables say. No property has a name, and names of groups are made of the characters of
words and do not begin with a digit. -/
def Lexicon.bundled : Lexicon where
  chars := Shorthand.unicode
  foldCase := CharSet.foldCase
  property? _ _ _ := none
  plain_of_property? h := nomatch h
  isNameChar first c :=
    CharSet.wordChars.contains c && !(first && CharSet.decimalDigits.contains c)

/-- The switches that a group can set. -/
structure Flags where
  caseInsensitive : Bool
  multiLine : Bool
  dotMatchesNewline : Bool
  swapGreed : Bool
  carriageReturns : Bool
  ignoreBlanks : Bool
  /-- Classes, words and the rule for upper and lower case are those of Unicode, not of ASCII. -/
  unicode : Bool

namespace Flags

/-- The switches at the start of an expression. -/
def initial : Flags where
  caseInsensitive := false
  multiLine := false
  dotMatchesNewline := false
  swapGreed := false
  carriageReturns := false
  ignoreBlanks := false
  unicode := true

/-- Sets the switch of a letter. -/
def set (flags : Flags) (letter : Char) (value : Bool) : Flags :=
  match letter with
  | 'i' => { flags with caseInsensitive := value }
  | 'm' => { flags with multiLine := value }
  | 's' => { flags with dotMatchesNewline := value }
  | 'U' => { flags with swapGreed := value }
  | 'R' => { flags with carriageReturns := value }
  | 'x' => { flags with ignoreBlanks := value }
  | 'u' => { flags with unicode := value }
  | _ => flags

/-- The letters that name switches. -/
def letters : List Char := ['i', 'm', 's', 'U', 'R', 'x', 'u']

/-- A set under the rule for upper and lower case in force. -/
def fold (lexicon : Lexicon) (flags : Flags) (chars : CharSet) : CharSet :=
  if flags.caseInsensitive then
    if flags.unicode then lexicon.foldCase chars else chars.foldAsciiCase
  else chars

/-- The characters of a class, or all others. Without Unicode no class has characters beyond
ASCII. -/
def negate? (flags : Flags) (negated : Bool) (chars : CharSet) : Option CharSet :=
  if negated then if flags.unicode then some chars.compl else none else some chars

/-- The characters of a class with a letter of its own. -/
def chars (lexicon : Lexicon) (flags : Flags) (shorthand : Shorthand) : CharSet :=
  if flags.unicode then lexicon.chars shorthand else shorthand.ascii

/-- The characters of words. -/
def words (lexicon : Lexicon) (flags : Flags) : CharSet := flags.chars lexicon .words

end Flags

namespace Regex

/-! ### Blanks -/

/-- Whether a character is white space. -/
def isBlank (c : Char) : Bool := CharSet.whiteSpace.contains c

/-- Passes over blanks and comments up to the end of their lines. -/
def skipComments : (inComment : Bool) → List Char → List Char
  | _, [] => []
  | true, c :: rest => skipComments (c != '\n') rest
  | false, c :: rest =>
    if isBlank c then skipComments false rest
    else if c = '#' then skipComments true rest
    else c :: rest

/-- Passes over what does not count where blanks are ignored. -/
def skip (flags : Flags) (text : List Char) : List Char :=
  if flags.ignoreBlanks then skipComments false text else text

/-- The characters at the start of a text that meet a condition, with what does not count between
them left out, and the rest; `rounds` is at least the length of the text. -/
def takeSkipping (flags : Flags) (accepts : Char → Bool) :
    (rounds : Nat) → List Char → List Char × List Char
  | rounds + 1, c :: rest =>
    if accepts c then
      let (taken, rest) := takeSkipping flags accepts rounds (skip flags rest)
      (c :: taken, rest)
    else ([], c :: rest)
  | _, text => ([], text)

/-! ### Escapes -/

/-- What a backslash introduces. -/
inductive Escape where
  | char (c : Char)
  | set (chars : CharSet)
  | anchor (condition : Anchor)

/-- The character of a code point that is one. -/
def char? (code : Nat) : Option Char :=
  if code.isValidChar then some (Char.ofNat code) else none

/-- Hexadecimal digits up to a closing brace. -/
def bracedHex (flags : Flags) (code : Option Nat) : Nat → List Char →
    Option (Nat × List Char)
  | 0, _ => none
  | fuel + 1, text =>
    match skip flags text with
    | '\x7d' :: rest => do return (← code, skip flags rest)
    | c :: rest => do
      let digit ← Numeral.hexValue? c
      let value := 16 * code.getD 0 + digit
      if value < 2 ^ 32 then bracedHex flags (some value) fuel rest else none
    | [] => none

/-- A fixed number of hexadecimal digits. -/
def fixedHex (flags : Flags) (code : Nat) : Nat → List Char → Option (Nat × List Char)
  | 0, text => some (code, text)
  | count + 1, text =>
    match text with
    | c :: rest => do fixedHex flags (16 * code + (← Numeral.hexValue? c)) count (skip flags rest)
    | [] => none

/-- A code point: in braces, or with a fixed number of digits. Without Unicode, two digits are a
byte, and only a byte of ASCII is a character. -/
def hexCode? (flags : Flags) (digits : Nat) (text : List Char) : Option (Nat × List Char) :=
  match skip flags text with
  | '\x7b' :: rest => bracedHex flags none (rest.length + 1) rest
  | text => do
    let (code, rest) ← fixedHex flags 0 digits text
    if digits = 2 ∧ ¬flags.unicode ∧ 128 ≤ code then none else return (code, rest)

/-- A character by its code point. -/
def hexEscape (flags : Flags) (digits : Nat) (text : List Char) :
    Option (Escape × List Char) := do
  let (code, rest) ← hexCode? flags digits text
  return (.char (← char? code), rest)

/-- Whether a character may stand in the name of a word boundary. -/
def isBoundaryChar (c : Char) : Bool := c.isAlpha || c == '-'

/-- A word boundary by its name. -/
def namedBoundary? (words : CharSet) : String → Option Anchor
  | "start" => some (.wordStart words)
  | "end" => some (.wordEnd words)
  | "start-half" => some (.wordStartHalf words)
  | "end-half" => some (.wordEndHalf words)
  | _ => none

/-- The name in braces behind the escape of a word boundary. Braces that begin with anything but
a letter or a hyphen are a repetition. -/
def boundary? (lexicon : Lexicon) (flags : Flags) (text : List Char) :
    Option (Anchor × List Char) :=
  match text with
  | '\x7b' :: rest =>
    match skip flags rest with
    | [] => none
    | c :: more =>
      if isBoundaryChar c then
        match takeSkipping flags isBoundaryChar (more.length + 1) (c :: more) with
        | (name, '\x7d' :: rest) => do
          return (← namedBoundary? (flags.words lexicon) (String.ofList name), rest)
        | _ => none
      else some (.wordBoundary (flags.words lexicon), text)
  | text => some (.wordBoundary (flags.words lexicon), text)

/-- The characters that have a property, or all others. Without Unicode there are none. -/
def property? (lexicon : Lexicon) (flags : Flags) (negated : Bool) (name : List Char) :
    Option CharSet :=
  if flags.unicode then lexicon.property? negated flags.caseInsensitive name else none

/-- A class by a property, whose name is one character or stands in braces. -/
def propertyEscape (lexicon : Lexicon) (flags : Flags) (negated : Bool) (text : List Char) :
    Option (Escape × List Char) :=
  match skip flags text with
  | '\x7b' :: rest =>
    match takeSkipping flags (· != '\x7d') rest.length (skip flags rest) with
    | (name, '\x7d' :: rest) => do return (.set (← property? lexicon flags negated name), rest)
    | _ => none
  | c :: rest => do return (.set (← property? lexicon flags negated [c]), skip flags rest)
  | [] => none

/-- A class by a letter of its own. -/
def shorthand? (lexicon : Lexicon) (flags : Flags) (negated : Bool) (shorthand : Shorthand) :
    Option Escape :=
  (flags.negate? negated (flags.chars lexicon shorthand)).map .set

/-- What a backslash and one character stand for. ASCII characters other than letters and digits
stand for themselves, except for the angle brackets, which are word boundaries. -/
def escapeOf? (lexicon : Lexicon) (flags : Flags) : Char → Option Escape
  | 'd' => shorthand? lexicon flags false .digits
  | 's' => shorthand? lexicon flags false .blanks
  | 'w' => shorthand? lexicon flags false .words
  | 'D' => shorthand? lexicon flags true .digits
  | 'S' => shorthand? lexicon flags true .blanks
  | 'W' => shorthand? lexicon flags true .words
  | 'a' => some (.char '\x07')
  | 'f' => some (.char '\x0c')
  | 't' => some (.char '\t')
  | 'n' => some (.char '\n')
  | 'r' => some (.char '\r')
  | 'v' => some (.char '\x0b')
  | 'A' => some (.anchor .textStart)
  | 'z' => some (.anchor .textEnd)
  | 'B' => some (.anchor (.notWordBoundary (flags.words lexicon)))
  | '<' => some (.anchor (.wordStart (flags.words lexicon)))
  | '>' => some (.anchor (.wordEnd (flags.words lexicon)))
  | c => if c.toNat < 128 ∧ ¬c.isAlphanum then some (.char c) else none

/-- Reads what follows a backslash. -/
def escape? (lexicon : Lexicon) (flags : Flags) : List Char → Option (Escape × List Char)
  | [] => none
  | 'x' :: rest => hexEscape flags 2 rest
  | 'u' :: rest => hexEscape flags 4 rest
  | 'U' :: rest => hexEscape flags 8 rest
  | 'b' :: rest => do
    let (condition, rest) ← boundary? lexicon flags rest
    return (.anchor condition, rest)
  | 'p' :: rest => propertyEscape lexicon flags false rest
  | 'P' :: rest => propertyEscape lexicon flags true rest
  | c :: rest => do return (← escapeOf? lexicon flags c, rest)

/-! ### Classes -/

/-- An operator between the parts of a class. -/
inductive SetOperator where
  | inter
  | diff
  | symmDiff

/-- The operator that a text begins with, by its sign twice in a row. -/
def setOperator? : List Char → Option (SetOperator × List Char)
  | '&' :: '&' :: rest => some (.inter, rest)
  | '-' :: '-' :: rest => some (.diff, rest)
  | '~' :: '~' :: rest => some (.symmDiff, rest)
  | _ => none

/-- The set before an operator, together with the operator. -/
abbrev Pending := Option (CharSet × SetOperator)

/-- Applies the operator that waits for its second operand. -/
def applyPending (lexicon : Lexicon) (flags : Flags) (pending : Pending) (operand : CharSet) : CharSet :=
  match pending with
  | none => operand
  | some (left, operator) =>
    let left := flags.fold lexicon left
    let right := flags.fold lexicon operand
    match operator with
    | .inter => left.inter right
    | .diff => left.diff right
    | .symmDiff => left.symmDiff right

/-- One item of a class: a character or a class by its escape. -/
def classItem? (lexicon : Lexicon) (flags : Flags) : List Char → Option (Escape × List Char)
  | '\\' :: rest => escape? lexicon flags rest
  | c :: rest => some (.char c, rest)
  | [] => none

/-- The characters that an item of a class stands for. Without Unicode they are characters of
ASCII. -/
def Escape.members? (flags : Flags) : Escape → Option CharSet
  | .char c => if flags.unicode ∨ c.toNat < 128 then some (.singleton c) else none
  | .set chars => some chars
  | .anchor _ => none

/-- The characters between two items of a class. -/
def Escape.range? (flags : Flags) : Escape → Escape → Option CharSet
  | .char first, .char last =>
    if first ≤ last ∧ (flags.unicode ∨ last.toNat < 128) then
      some (.ofRanges [(first.toNat, last.toNat)])
    else none
  | _, _ => none

/-- One item of a class, or a range between two characters. A hyphen before the closing bracket
or before another hyphen makes no range. -/
def classRange? (lexicon : Lexicon) (flags : Flags) (text : List Char) :
    Option (CharSet × List Char) := do
  let (item, rest) ← classItem? lexicon flags text
  match skip flags rest with
  | [] => none
  | '-' :: behind =>
    let behind := skip flags behind
    if behind.head? = some ']' ∨ behind.head? = some '-' then
      return (← item.members? flags, skip flags rest)
    else
      let (last, rest) ← classItem? lexicon flags behind
      return (← item.range? flags last, rest)
  | rest => return (← item.members? flags, rest)

/-- A class with a name, behind its opening bracket. -/
def namedClass? (lexicon : Lexicon) (flags : Flags) (text : List Char) :
    Option (CharSet × List Char) :=
  match text with
  | ':' :: rest =>
    let (negated, rest) :=
      match rest with
      | '^' :: rest => (true, rest)
      | rest => (false, rest)
    match rest.dropWhile (· != ':') with
    | ':' :: ']' :: behind => do
      let chars ← CharSet.named? (String.ofList (rest.takeWhile (· != ':')))
      return (← flags.negate? negated (flags.fold lexicon chars), behind)
    | _ => none
  | _ => none

/-- Leading hyphens of a class stand for themselves. -/
def leadingHyphens (flags : Flags) (chars : CharSet) : List Char → CharSet × List Char
  | '-' :: rest =>
    let (chars, rest) := leadingHyphens flags (chars.union (.singleton '-')) rest
    (chars, skip flags rest)
  | rest => (chars, rest)

/-- A leading closing bracket of a class stands for itself. -/
def leadingBracket (flags : Flags) (chars : CharSet) (text : List Char) :
    CharSet × List Char :=
  match text with
  | ']' :: rest => if chars = .empty then (.singleton ']', skip flags rest) else (chars, text)
  | text => (chars, text)

/-- The signs at the start of a class that stand for themselves, and the rest. -/
def leadingSigns (flags : Flags) (text : List Char) : CharSet × List Char :=
  let (chars, rest) := leadingHyphens flags .empty text
  leadingBracket flags chars rest

/-- Whether a class is negated, and what follows. -/
def negation (flags : Flags) (text : List Char) : Bool × List Char :=
  match skip flags text with
  | '^' :: rest => (true, skip flags rest)
  | rest => (false, rest)

mutual

/-- A class behind its opening bracket. -/
def class? (lexicon : Lexicon) (flags : Flags) : Nat → List Char → Option (CharSet × List Char)
  | 0, _ => none
  | fuel + 1, text => do
    let (negated, text) := negation flags text
    let (chars, text) := leadingSigns flags text
    let (chars, rest) ← classParts? lexicon flags none chars fuel text
    return (← flags.negate? negated (flags.fold lexicon chars), rest)

/-- The parts of a class up to its closing bracket; `chars` joins those since the last operator. -/
def classParts? (lexicon : Lexicon) (flags : Flags) (pending : Pending) (chars : CharSet) :
    Nat → List Char → Option (CharSet × List Char)
  | 0, _ => none
  | fuel + 1, text =>
    match skip flags text with
    | [] => none
    | ']' :: rest => some (applyPending lexicon flags pending chars, rest)
    | '[' :: rest => do
      let (part, rest) ← namedClass? lexicon flags rest <|> class? lexicon flags fuel rest
      classParts? lexicon flags pending (chars.union part) fuel rest
    | text =>
      match setOperator? text with
      | some (operator, rest) =>
        classParts? lexicon flags (some (applyPending lexicon flags pending chars, operator)) .empty fuel
          rest
      | none => do
        let (part, rest) ← classRange? lexicon flags text
        classParts? lexicon flags pending (chars.union part) fuel rest

end

/-! ### Groups -/

/-- How a group begins, or what stands in its place. -/
inductive GroupHead where
  | capture
  | named (name : List Char)
  /-- A group that does not capture, with the switches set in it. -/
  | scope (letters : List (Char × Bool))
  /-- No group, but switches for the rest of the current one. -/
  | switches (letters : List (Char × Bool))

/-- Whether a character may begin the name of a group, or else stand in it. -/
def isNameChar (lexicon : Lexicon) (first : Bool) (c : Char) : Bool :=
  c == '_' || c.isAlpha || (!first && (c == '.' || c == '[' || c == ']' || c.isDigit)) ||
    (128 ≤ c.toNat && lexicon.isNameChar first c)

/-- The name of a group, up to its closing angle bracket. -/
def groupName? (lexicon : Lexicon) (text : List Char) : Option (List Char × List Char) :=
  match text.takeWhile (isNameChar lexicon false), text.dropWhile (isNameChar lexicon false) with
  | c :: cs, '>' :: rest => if isNameChar lexicon true c then some (c :: cs, rest) else none
  | _, _ => none

/-- The letters of a group that sets flags: those switched on and those switched off. -/
def flagLetters? (seen : List Char) (negated : Bool) (last : Option Char) :
    List Char → Option (List (Char × Bool) × Char × List Char)
  | [] => none
  | c :: rest =>
    if c = ':' ∨ c = ')' then if last = some '-' then none else some ([], c, rest)
    else if c = '-' then if negated then none else flagLetters? seen true (some c) rest
    else if Flags.letters.contains c ∧ ¬seen.contains c then do
      let (letters, closing, rest) ← flagLetters? (c :: seen) negated (some c) rest
      return ((c, !negated) :: letters, closing, rest)
    else none

/-- A group that begins with its name. -/
def namedGroup? (lexicon : Lexicon) (text : List Char) : Option (GroupHead × List Char) := do
  let (name, rest) ← groupName? lexicon text
  return (.named name, rest)

/-- A group that begins with switches, or switches alone. -/
def switchedGroup? (text : List Char) : Option (GroupHead × List Char) := do
  let (letters, closing, rest) ← flagLetters? [] false none text
  if closing = ':' then return (.scope letters, rest)
  if letters.isEmpty then none else return (.switches letters, rest)

/-- Reads what follows an opening parenthesis. The signs of a look-around assertion are neither
switches nor a name. -/
def groupHead? (lexicon : Lexicon) : List Char → Option (GroupHead × List Char)
  | '?' :: 'P' :: '<' :: rest => namedGroup? lexicon rest
  | '?' :: '<' :: rest => namedGroup? lexicon rest
  | '?' :: rest => switchedGroup? rest
  | text => some (.capture, text)

/-! ### Repetitions -/

/-- A number in a repetition, with blanks around it. -/
def count? (flags : Flags) (text : List Char) : Option (Nat × List Char) :=
  let (digits, rest) := takeSkipping flags Char.isDigit text.length (text.dropWhile isBlank)
  if digits = [] ∨ 2 ^ 32 ≤ Numeral.ofDigits digits then none
  else some (Numeral.ofDigits digits, (skip flags rest).dropWhile isBlank)

/-- The upper bound of a repetition, behind the comma; there may be none. -/
def upperBound? (flags : Flags) (min : Nat) (text : List Char) :
    Option (Option Nat × List Char) :=
  match skip flags text with
  | '\x7d' :: rest => some (none, rest)
  | text =>
    match count? flags text with
    | some (max, '\x7d' :: rest) => if min ≤ max then some (some max, rest) else none
    | _ => none

/-- The bounds of a repetition, behind its opening brace. -/
def bounds? (flags : Flags) (text : List Char) : Option (Nat × Option Nat × List Char) :=
  match count? flags (skip flags text) with
  | some (min, '\x7d' :: rest) => some (min, some min, rest)
  | some (min, ',' :: rest) => do
    let (max, rest) ← upperBound? flags min rest
    return (min, max, rest)
  | _ => none

/-! ### Items -/

/-- What an expression is read as, one after the other. -/
inductive Item where
  | openGroup (head : GroupHead)
  | closeGroup
  /-- What separates two alternatives. -/
  | bar
  | set (chars : CharSet)
  /-- The item before is repeated. -/
  | quantifier (min : Nat) (max : Option Nat) (greedy : Bool)
  | escape (escape : Escape)
  | point
  /-- The sign of a start. -/
  | start
  /-- The sign of an end. -/
  | stop
  | char (c : Char)

/-- A repetition with some bounds; a question mark directly behind them makes it lazy. -/
def quantifier (min : Nat) (max : Option Nat) (text : List Char) : Item × List Char :=
  match text with
  | '?' :: rest => (.quantifier min max false, rest)
  | rest => (.quantifier min max true, rest)

/-- Reads one item of an expression. -/
def item? (lexicon : Lexicon) (flags : Flags) : List Char → Option (Item × List Char)
  | [] => none
  | '(' :: rest => do
    let (head, rest) ← groupHead? lexicon (skip flags rest)
    return (.openGroup head, rest)
  | ')' :: rest => some (.closeGroup, rest)
  | '|' :: rest => some (.bar, rest)
  | '[' :: rest => do
    let (chars, rest) ← class? lexicon flags (2 * rest.length + 2) rest
    return (.set chars, rest)
  | '?' :: rest => some (quantifier 0 (some 1) rest)
  | '*' :: rest => some (quantifier 0 none rest)
  | '+' :: rest => some (quantifier 1 none rest)
  | '\x7b' :: rest => do
    let (min, max, rest) ← bounds? flags rest
    return quantifier min max (skip flags rest)
  | '\\' :: rest => do
    let (escape, rest) ← escape? lexicon flags rest
    return (.escape escape, rest)
  | '.' :: rest => some (.point, rest)
  | '^' :: rest => some (.start, rest)
  | '$' :: rest => some (.stop, rest)
  | c :: rest => some (.char c, rest)

/-! ### States -/

/-- A group that is still open. -/
structure Group where
  /-- The flags to restore behind it. -/
  outerFlags : Flags
  /-- The number of a capturing group. -/
  index? : Option Nat
  /-- The complete alternatives, the last one first. -/
  branches : List Regex
  /-- The items of the current alternative, the last one first; a change of flags is an item that
  cannot be repeated. -/
  items : List (Option Regex)

/-- What has been read so far. -/
structure State where
  flags : Flags
  /-- The innermost open group. -/
  group : Group
  /-- The groups around it. -/
  outer : List Group
  /-- How many groups capture. -/
  captures : Nat
  /-- The names of groups. -/
  names : List (List Char)

/-- The current alternative of a group. -/
def Group.current (group : Group) : Regex := sequence (group.items.reverse.filterMap id)

/-- The expression of a group. -/
def Group.expression (group : Group) : Regex :=
  let body :=
    if group.branches.isEmpty then group.current
    else either (group.current :: group.branches).reverse
  match group.index? with
  | some index => .capture index body
  | none => body

namespace State

/-- Adds an item to the current alternative. -/
def push (state : State) (item : Option Regex) : State :=
  { state with group.items := item :: state.group.items }

/-- Begins the next alternative. -/
def alternative (state : State) : State :=
  { state with group.branches := state.group.current :: state.group.branches, group.items := [] }

/-- Opens a group. -/
def enter (state : State) (flags : Flags) (index? : Option Nat) : State :=
  { state with
    flags
    group := ⟨state.flags, index?, [], []⟩
    outer := state.group :: state.outer }

/-- Opens a capturing group. -/
def openCapture (state : State) : State :=
  { state.enter state.flags (some (state.captures + 1)) with captures := state.captures + 1 }

/-- Sets flags for the rest of the current group. -/
def switches (state : State) (letters : List (Char × Bool)) : Flags :=
  letters.foldl (fun flags (letter, value) => flags.set letter value) state.flags

/-- Opens the group that begins in some way. The names of groups are different. -/
def openGroup? (state : State) : GroupHead → Option State
  | .capture => some state.openCapture
  | .named name =>
    if name ∈ state.names then none
    else some { state.openCapture with names := name :: state.names }
  | .scope letters => some (state.enter (state.switches letters) none)
  | .switches letters => some ({ state with flags := state.switches letters }.push none)

/-- Closes the innermost group. -/
def close? (state : State) : Option State :=
  match state.outer with
  | [] => none
  | group :: outer =>
    some ({ state with flags := state.group.outerFlags, group, outer }.push state.group.expression)

/-- Repeats the last item. -/
def repeat? (state : State) (min : Nat) (max : Option Nat) (greedy : Bool) : Option State :=
  match state.group.items with
  | some item :: items =>
    let item := repeated min max (greedy != state.flags.swapGreed) item
    some { state with group.items := some item :: items }
  | _ => none

end State

/-- Any character that the flags let a point stand for. -/
def anyChar? (flags : Flags) : Option Regex :=
  (flags.negate? true (if flags.dotMatchesNewline then .empty
    else if flags.carriageReturns then (CharSet.singleton '\n').union (.singleton '\r')
    else .singleton '\n')).map .set

/-- The condition of the sign for a start. -/
def startAnchor (flags : Flags) : Anchor :=
  if flags.multiLine then if flags.carriageReturns then .anyLineStart else .lineStart
  else .textStart

/-- The condition of the sign for an end. -/
def endAnchor (flags : Flags) : Anchor :=
  if flags.multiLine then if flags.carriageReturns then .anyLineEnd else .lineEnd
  else .textEnd

/-- A character as an expression. -/
def charRegex (lexicon : Lexicon) (flags : Flags) (c : Char) : Regex :=
  ofSet (flags.fold lexicon (.singleton c))

/-- An escape as an expression. -/
def Escape.regex (lexicon : Lexicon) (flags : Flags) : Escape → Regex
  | .char c => charRegex lexicon flags c
  | .set chars => ofSet chars
  | .anchor condition => .anchor condition

/-- Adds what an item stands for to the state. -/
def State.take? (lexicon : Lexicon) (state : State) : Item → Option State
  | .openGroup head => state.openGroup? head
  | .closeGroup => state.close?
  | .bar => some state.alternative
  | .set chars => some (state.push (ofSet chars))
  | .quantifier min max greedy => state.repeat? min max greedy
  | .escape escape => some (state.push (escape.regex lexicon state.flags))
  | .point => do return state.push (← anyChar? state.flags)
  | .start => some (state.push (Regex.anchor (startAnchor state.flags)))
  | .stop => some (state.push (Regex.anchor (endAnchor state.flags)))
  | .char c => some (state.push (charRegex lexicon state.flags c))

/-! ### Expressions -/

/-- Nothing has been read. -/
def State.initial : State := ⟨.initial, ⟨.initial, none, [], []⟩, [], 0, []⟩

/-- Reads the rest of an expression; every step takes at least one character. -/
def parseWith (lexicon : Lexicon) (state : State) : Nat → List Char → Option Regex
  | 0, _ => none
  | fuel + 1, text =>
    match skip state.flags text with
    | [] => if state.outer.isEmpty then some state.group.expression else none
    | text => do
      let (item, rest) ← item? lexicon state.flags text
      parseWith lexicon (← state.take? lexicon item) fuel rest

/-- The expression that a text writes. -/
def parse? (lexicon : Lexicon) (text : String) : Option Regex :=
  parseWith lexicon .initial (text.length + 1) text.toList

end Regex

end Specimen.Pattern
