import Specimen.Pattern.Dialect
import Specimen.Pattern.Parser

/-!
# Specimen.Pattern.Matcher

Whether a pattern matches some part of a text.

A set of positions in a text is a natural number whose bit `i` stands for the place before the
character `i`. `Regex.advance` maps the positions where a match may start to those where it may
end, so an expression is matched at all places at once and no choice is ever taken back.
-/

namespace Specimen.Pattern

namespace Regex

/-- The positions at which a condition holds, from `index` on, given the characters before and
behind. -/
def positionsFrom (condition : Option Char → Option Char → Bool) (before : Option Char)
    (index : Nat) : List Char → Nat
  | [] => if condition before none then 1 <<< index else 0
  | c :: rest =>
    (if condition before (some c) then 1 <<< index else 0) |||
      positionsFrom condition (some c) (index + 1) rest

/-- The positions at which a condition on the characters before and behind holds. -/
def positions (text : List Char) (condition : Option Char → Option Char → Bool) : Nat :=
  positionsFrom condition none 0 text

end Regex

/-- Whether there is a character and it is in a set. -/
def CharSet.has (set : CharSet) (c : Option Char) : Bool := c.any set.contains

/-- Whether a condition holds between two characters; at either end of the text one is missing. -/
def Anchor.holds (condition : Anchor) (before behind : Option Char) : Bool :=
  match condition with
  | .textStart => before.isNone
  | .textEnd => behind.isNone
  | .lineStart => before.all (· == '\n')
  | .lineEnd => behind.all (· == '\n')
  | .anyLineStart => before.all fun c => c == '\n' || (c == '\r' && behind != some '\n')
  | .anyLineEnd => behind.all fun c => c == '\r' || (c == '\n' && before != some '\r')
  | .wordBoundary words => words.has before != words.has behind
  | .notWordBoundary words => words.has before == words.has behind
  | .wordStart words => !words.has before && words.has behind
  | .wordEnd words => words.has before && !words.has behind
  | .wordStartHalf words => !words.has before
  | .wordEndHalf words => !words.has behind

namespace Regex

/-- The positions behind a character that meets a condition. -/
def advanceChar (text : List Char) (accepts : Char → Bool) (starts : Nat) : Nat :=
  (starts &&& positions text fun _ behind => behind.any accepts) <<< 1

/-- Applies a step a number of times; it stops early at positions that the step keeps. -/
def iterate (step : Nat → Nat) : Nat → Nat → Nat
  | 0, starts => starts
  | count + 1, starts =>
    let next := step starts
    if next = starts then starts else iterate step count next

mutual

/-- The positions where a match may end that starts at one of the given positions. -/
def advance (text : List Char) : Regex → Nat → Nat
  | .empty, starts => starts
  | .literal chars, starts =>
    chars.foldl (fun starts c => advanceChar text (· == c) starts) starts
  | .set chars, starts => advanceChar text chars.contains starts
  | .anchor condition, starts => starts &&& positions text condition.holds
  | .repetition min max _ body, starts =>
    let optional := (max.map (· - min)).getD (text.length + 1)
    iterate (fun starts => starts ||| advance text body starts) optional
      (iterate (advance text body) min starts)
  | .capture _ body, starts => advance text body starts
  | .concat parts, starts => advanceAll text parts starts
  | .alternation branches, starts => advanceAny text branches starts

/-- The positions behind a sequence. -/
def advanceAll (text : List Char) : List Regex → Nat → Nat
  | [], starts => starts
  | part :: rest, starts => advanceAll text rest (advance text part starts)

/-- The positions behind one of some alternatives. -/
def advanceAny (text : List Char) : List Regex → Nat → Nat
  | [], _ => 0
  | branch :: rest, starts => advance text branch starts ||| advanceAny text rest starts

end

/-- Whether an expression matches some part of a text. -/
def matchesPart (regex : Regex) (text : String) : Bool :=
  let chars := text.toList
  regex.advance chars (2 ^ (chars.length + 1) - 1) != 0

end Regex

/-- The expression that a pattern is matched with. -/
def matcher? (pattern : String) : Option Regex := Regex.parse? .bundled (translate pattern false)

end Specimen.Pattern
