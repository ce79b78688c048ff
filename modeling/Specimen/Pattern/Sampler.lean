import Specimen.Pattern.Dialect
import Specimen.Pattern.Parser
import Specimen.Random.Range

/-!
# Specimen.Pattern.Sampler

Random texts that a pattern describes.

* `Sampler` — what is drawn for a regular expression, and how often;
* `Sampler.ofRegex?` — a regular expression with an anchor, with an empty set or with nothing to
  choose from has no sampler;
* `Sampler.draw` — one text.

A repetition directly around a repetition is one node, whose count is the product of a constant
and one draw for each range of bounds, the inner range first.
-/

namespace Specimen.Pattern

/-- What is drawn for a regular expression. -/
inductive Sampler where
  | text (chars : List Char)
  /-- One character of a set. -/
  | oneOf (chars : CharSet)
  | sequence (parts : List Sampler)
  /-- One branch. -/
  | choice (branches : List Sampler)
  /-- As often as the constant times one number of each range. -/
  | times (constant : Nat) (ranges : List (Nat × Nat)) (body : Sampler)

namespace Sampler

instance : Inhabited Sampler := ⟨.text []⟩

/-! ### Building -/

/-- Repeats a sampler between `lo` and `hi` times. -/
def repeated (lo hi : Nat) (body : Sampler) : Sampler :=
  let (constant, ranges, body) :=
    match body with
    | .times constant ranges body => (constant, ranges, body)
    | body => (1, [], body)
  if lo = hi then .times (constant * lo) ranges body
  else .times constant (ranges ++ [(lo, hi)]) body

/-- The branches of a sampler. -/
def branches : Sampler → List Sampler
  | .choice branches => branches
  | branch => [branch]

mutual

/-- The sampler of a regular expression; a repetition without limit goes `maxRepeat` beyond its
lower bound. -/
def ofRegex? (maxRepeat : Nat) : Regex → Option Sampler
  | .empty => some (.text [])
  | .literal chars => some (.text chars)
  | .set chars => if chars.size = 0 then none else some (.oneOf chars)
  | .anchor _ => none
  | .repetition min max _ body => do
    return repeated min (max.getD (min + maxRepeat)) (← ofRegex? maxRepeat body)
  | .capture _ body => ofRegex? maxRepeat body
  | .concat parts => do return .sequence (← ofRegexes? maxRepeat parts)
  | .alternation branches => do
    if branches.isEmpty then none
    else return .choice ((← ofRegexes? maxRepeat branches).flatMap Sampler.branches)

/-- The samplers of some regular expressions. -/
def ofRegexes? (maxRepeat : Nat) : List Regex → Option (List Sampler)
  | [] => some []
  | regex :: rest => do return (← ofRegex? maxRepeat regex) :: (← ofRegexes? maxRepeat rest)

end

/-- The sampler of a pattern. -/
def ofPattern? (pattern : String) (maxRepeat : Nat) : Option Sampler :=
  Regex.parse? .bundled (translate pattern true) >>= ofRegex? maxRepeat

/-! ### Drawing -/

variable {σ : Type} [Random.Source σ]

/-- Draws a text the given number of times, one behind the other. -/
def drawTimes (draw : Random.Draw σ (List Char)) : Nat → Random.Draw σ (List Char)
  | 0 => return []
  | count + 1 => do
    let first ← draw
    return first ++ (← drawTimes draw count)

/-- How often a node is repeated. -/
def drawCount (constant : Nat) : List (Nat × Nat) → Random.Draw σ Nat
  | [] => return constant
  | (lo, hi) :: rest => do drawCount (constant * (← Random.evenly lo hi)) rest

mutual

/-- The characters of one text. -/
def drawChars : Sampler → Random.Draw σ (List Char)
  | .text chars => return chars
  | .oneOf chars => return ((chars.get? (← Random.evenly 0 (chars.size - 1))).map ([·])).getD []
  | .sequence parts => drawAll parts
  | .choice branches => do drawBranch branches (← Random.evenly 0 (branches.length - 1))
  | .times constant ranges body => do
    drawTimes (drawChars body) (← drawCount constant ranges)

/-- The characters of one text for each sampler, one behind the other. -/
def drawAll : List Sampler → Random.Draw σ (List Char)
  | [] => return []
  | part :: rest => do
    let first ← drawChars part
    return first ++ (← drawAll rest)

/-- The characters of one text for the sampler at a position. -/
def drawBranch : List Sampler → Nat → Random.Draw σ (List Char)
  | [], _ => return []
  | branch :: _, 0 => drawChars branch
  | _ :: rest, index + 1 => drawBranch rest index

end

/-- One text. -/
def draw (sampler : Sampler) : Random.Draw σ String := return String.ofList (← sampler.drawChars)

end Sampler

end Specimen.Pattern
