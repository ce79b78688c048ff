import Specimen.Pattern.CharSet

/-!
# Specimen.Pattern.Regex

Regular expressions.

A `Regex` is built by the functions `Regex.ofChar`, `ofSet`, `repeated`, `sequence` and `either`,
which bring it into a normal form while they build it: a set of one character is a literal,
adjacent literals are one, nested sequences and nested alternatives are flat, alternatives of
single characters are a set, and alternatives that begin alike share their beginning. Two
expressions in this form are drawn from alike when they are the same.
-/

namespace Specimen.Pattern

/-- A condition on the place in a text; `words` are the characters that words consist of. -/
inductive Anchor where
  | textStart
  | textEnd
  | lineStart
  | lineEnd
  /-- The start of a line that may end in a carriage return as well. -/
  | anyLineStart
  /-- The end of a line that may end in a carriage return as well. -/
  | anyLineEnd
  | wordBoundary (words : CharSet)
  | notWordBoundary (words : CharSet)
  | wordStart (words : CharSet)
  | wordEnd (words : CharSet)
  /-- No character of a word stands before. -/
  | wordStartHalf (words : CharSet)
  /-- No character of a word stands behind. -/
  | wordEndHalf (words : CharSet)
  deriving DecidableEq

/-- A regular expression. -/
inductive Regex where
  /-- The empty text. -/
  | empty
  | literal (text : List Char)
  /-- One character of a set; the empty set matches nothing. -/
  | set (chars : CharSet)
  | anchor (condition : Anchor)
  /-- Between `min` and `max` times, without limit when there is no `max`. -/
  | repetition (min : Nat) (max : Option Nat) (greedy : Bool) (body : Regex)
  /-- A group with a number of its own. -/
  | capture (index : Nat) (body : Regex)
  | concat (parts : List Regex)
  | alternation (branches : List Regex)

namespace Regex

instance : Inhabited Regex := ⟨.empty⟩

mutual

/-- Whether two expressions are the same. -/
def same : Regex → Regex → Bool
  | .empty, .empty => true
  | .literal a, .literal b => a == b
  | .set a, .set b => a == b
  | .anchor a, .anchor b => a == b
  | .repetition min max greedy a, .repetition min' max' greedy' b =>
    min == min' && max == max' && greedy == greedy' && same a b
  | .capture i a, .capture j b => i == j && same a b
  | .concat as, .concat bs => sameList as bs
  | .alternation as, .alternation bs => sameList as bs
  | _, _ => false

/-- Whether two sequences of expressions are the same. -/
def sameList : List Regex → List Regex → Bool
  | [], [] => true
  | a :: as, b :: bs => same a b && sameList as bs
  | _, _ => false

end

mutual

/-- Whether an expression matches at most the empty text. -/
def onlyEmpty : Regex → Bool
  | .empty | .anchor _ => true
  | .literal text => text.isEmpty
  | .set _ => false
  | .repetition _ _ _ body => onlyEmpty body
  | .capture _ body => onlyEmpty body
  | .concat parts => onlyEmptyAll parts
  | .alternation branches => onlyEmptyAll branches

/-- Whether every one of some expressions matches at most the empty text. -/
def onlyEmptyAll : List Regex → Bool
  | [] => true
  | part :: rest => onlyEmpty part && onlyEmptyAll rest

end

/-! ### Building -/

/-- One character. -/
def ofChar (c : Char) : Regex := .literal [c]

/-- One character of a set. -/
def ofSet (chars : CharSet) : Regex :=
  match chars.only? with
  | some c => ofChar c
  | none => .set chars

/-- A repetition. What matches at most the empty text is not repeated. -/
def repeated (min : Nat) (max : Option Nat) (greedy : Bool) (body : Regex) : Regex :=
  let (min, max) :=
    if body.onlyEmpty then (Nat.min min 1, some ((max.map (Nat.min · 1)).getD 1)) else (min, max)
  if max = some 0 then .empty
  else if min = 1 ∧ max = some 1 then body
  else .repetition min max greedy body

/-- The parts of an expression as a sequence. -/
def parts : Regex → List Regex
  | .empty => []
  | .concat parts => parts
  | part => [part]

/-- Joins adjacent literals. -/
def joinLiterals : List Regex → List Regex
  | .literal text :: rest =>
    match joinLiterals rest with
    | .literal more :: rest => .literal (text ++ more) :: rest
    | rest => .literal text :: rest
  | part :: rest => part :: joinLiterals rest
  | [] => []

/-- One expression behind the other. -/
def sequence (items : List Regex) : Regex :=
  match joinLiterals (items.flatMap parts) with
  | [] => .empty
  | [part] => part
  | parts => .concat parts

/-- The alternatives of an expression. -/
def branches : Regex → List Regex
  | .alternation branches => branches
  | branch => [branch]

/-- The set of some expressions that are all single characters, or all sets. -/
def asSet? (branches : List Regex) : Option CharSet := do
  let chars := branches.mapM fun
    | .literal [c] => some (CharSet.singleton c)
    | _ => none
  let sets := branches.mapM fun
    | .set chars => some chars
    | _ => none
  return (← chars <|> sets).foldl CharSet.union CharSet.empty

/-- How many leading items two sequences have in common. -/
def commonLength : List Regex → List Regex → Nat
  | a :: as, b :: bs => if same a b then commonLength as bs + 1 else 0
  | _, _ => 0

/-- Sequences that begin alike: the shared beginning and the rest of each. -/
def sharedPrefix? (branches : List Regex) : Option (List Regex × List (List Regex)) := do
  let sequences ← branches.mapM fun
    | .concat parts => some parts
    | _ => none
  let first ← sequences.head?
  let length := sequences.foldl (fun length other => min length (commonLength first other))
    first.length
  if length = 0 then none else some (first.take length, sequences.map (List.drop length))

/-- One of some expressions, none of which is itself an alternation. Taking the shared
beginning out leaves shorter sequences, so as many rounds as the longest is long suffice. -/
def eitherWith : Nat → List Regex → Regex
  | _, [branch] => branch
  | fuel, branches =>
    match asSet? branches with
    | some chars => if branches.isEmpty then .set .empty else ofSet chars
    | none =>
      match fuel, sharedPrefix? branches with
      | fuel + 1, some (shared, rests) =>
        sequence (shared ++ [eitherWith fuel ((rests.map sequence).flatMap Regex.branches)])
      | _, _ => .alternation branches

/-- One of some expressions. -/
def either (items : List Regex) : Regex :=
  let flat := items.flatMap branches
  eitherWith ((flat.map fun branch => (parts branch).length).foldl max 0) flat

end Regex

end Specimen.Pattern
