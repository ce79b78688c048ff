import Specimen.Json.Basic
import Specimen.Numeral

/-!
# Specimen.CommandLine.Log

What the program reports about itself while it runs.

* `Event` — a report with a level and fields;
* `Filter.parse?` — which events are let through: directives with commas between them, each of
  which is a level, a target, or a target with a level;
* `Filter.permits` — the directive with the longest target that the target of an event starts with
  decides.
-/

namespace Specimen.CommandLine

/-- How serious an event is. -/
inductive Level where
  | error
  | warn
  | info
  deriving DecidableEq

namespace Level

/-- The name of a level. -/
def name : Level → String
  | error => "ERROR"
  | warn => "WARN"
  | info => "INFO"

/-- The rank of a level: the more serious, the lower. -/
def rank : Level → Nat
  | error => 1
  | warn => 2
  | info => 3

end Level

/-- A report of the program. -/
structure Event where
  level : Level
  fields : List (String × Json)

/-- An event as a value. -/
def Event.toJson (event : Event) : Json :=
  .object [("level", .str event.level.name), ("fields", .object event.fields)]

/-- Lets the events through whose level is at most `rank`, of the targets that start with `target`;
without a target, of all. -/
structure Directive where
  target : Option String
  rank : Nat

/-- Directives; of two that are equally specific the later one counts. -/
abbrev Filter := List Directive

namespace Filter

/-- The rank that the name or the number of a level stands for. -/
def rank? (text : String) : Option Nat :=
  match Numeral.unsigned64? text with
  | some number => if number ≤ 5 then some number else none
  | none => ["off", "error", "warn", "info", "debug", "trace"].idxOf? text.toLower

/-- The rank that lets every event through. -/
def allRanks : Nat := 5

/-- The characters of targets. -/
def isTargetChar (c : Char) : Bool := c.isAlphanum || c == '_' || c == '-' || c == ':'

/-- The directive that a text writes. -/
def directive? (text : String) : Option Directive :=
  let chars := text.toList
  let target := chars.takeWhile isTargetChar
  match chars.dropWhile isTargetChar with
  | [] =>
    match rank? text with
    | some rank => some ⟨none, rank⟩
    | none => some ⟨some text, allRanks⟩
  | '=' :: level =>
    if target.isEmpty then none
    else if level.isEmpty then some ⟨some (String.ofList target), allRanks⟩
    else (rank? (String.ofList level)).map (⟨some (String.ofList target), ·⟩)
  | _ => none

/-- The directives that a text writes. Without any, only errors are let through. -/
def parse? (text : String) : Option Filter :=
  match (text.splitOn ",").filter (!·.isEmpty) with
  | [] => some [⟨none, 1⟩]
  | parts => parts.mapM directive?

/-- How specific a directive is for a target; nothing when it does not concern the target. -/
def specificity? (directive : Directive) (target : String) : Option Nat :=
  match directive.target with
  | none => some 0
  | some start => if start.toList.isPrefixOf target.toList then some (start.length + 1) else none

/-- The most specific directive for a target so far, with its specificity. -/
private def best (target : String) (found : Option (Nat × Directive)) (directive : Directive) :
    Option (Nat × Directive) :=
  match specificity? directive target, found with
  | none, _ => found
  | some specificity, none => some (specificity, directive)
  | some specificity, some (known, _) =>
    if known ≤ specificity then some (specificity, directive) else found

/-- Whether an event of a target is let through. -/
def permits (filter : Filter) (target : String) (event : Event) : Bool :=
  match filter.foldl (best target) none with
  | some (_, directive) => event.level.rank ≤ directive.rank
  | none => false

end Filter

end Specimen.CommandLine
