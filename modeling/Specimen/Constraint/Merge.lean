import Specimen.Constraint.Basic
import Specimen.Schema.Error

/-!
# Specimen.Constraint.Merge

Two sets of demands at once (`Constraints.intersect`).

Bounds take the tighter value, sets of names are united, candidates must be common to both, and
of two schemas, patterns or formats the later one counts. Two steps of multiples become their
least common multiple where both are integers.
-/

namespace Specimen.Constraints

/-- The tighter of two bounds, where `isTighter` compares their values; at equal values an exclusive
one is tighter. -/
def tighterBound (isTighter : Double → Double → Bool) (a b : Bound) : Bound :=
  if isTighter a.value b.value then a
  else if isTighter b.value a.value then b
  else ⟨a.value, a.exclusive || b.exclusive⟩

/-- The larger of two lower bounds. -/
def tighterMinimum : Bound → Bound → Bound := tighterBound fun a b => b.lt a

/-- The smaller of two upper bounds. -/
def tighterMaximum : Bound → Bound → Bound := tighterBound Double.lt

/-- The least common multiple of two unsigned 64-bit numbers, at most the largest of them. -/
def lcm64 (a b : Nat) : Nat :=
  if a = 0 ∨ b = 0 then max a b else min (a / Nat.gcd a b * b) maxCount

/-- A step that covers the multiples of both. Of two steps without an exact common multiple the
later one counts. -/
def commonStep (a b : Double) : Double :=
  let isIntegral (step : Double) : Bool := step.isIntegral && step.le (.ofNat (2 ^ 64))
  if a == b then a
  else if isIntegral a && isIntegral b then .ofNat (lcm64 a.toUInt64 b.toUInt64)
  else if (a / b).isIntegral then a
  else b

/-- Puts later schemas under their patterns; known patterns keep their place. -/
def mergePatterns (earlier later : List (String × Pointer)) : List (String × Pointer) :=
  later.foldl (fun patterns (pattern, node) =>
    if patterns.any (·.1 == pattern) then
      patterns.map fun entry => if entry.1 = pattern then (pattern, node) else entry
    else patterns ++ [(pattern, node)]) earlier

/-- The candidates that meet both demands, if there may be any. -/
def commonCandidates? : Option (List Json) → Option (List Json) → Option (Option (List Json))
  | some a, some b =>
    let common := a.filter (Json.contains b)
    if common.isEmpty then none else some (some common)
  | some a, none => some (some a)
  | none, b => some b

/-- Both sets of demands, with the kinds and the candidates that are left. -/
def mergeWith (kinds : KindSet) (candidates : Option (List Json)) (set later : Constraints) :
    Constraints where
  pointer := set.pointer
  kinds
  inferred := Option.merge KindSet.union set.inferred later.inferred
  minimum := Option.merge tighterMinimum set.minimum later.minimum
  maximum := Option.merge tighterMaximum set.maximum later.maximum
  multipleOf := Option.merge commonStep set.multipleOf later.multipleOf
  minLength := Option.merge max set.minLength later.minLength
  maxLength := Option.merge min set.maxLength later.maxLength
  pattern := later.pattern <|> set.pattern
  format := later.format <|> set.format
  minItems := Option.merge max set.minItems later.minItems
  maxItems := Option.merge min set.maxItems later.maxItems
  uniqueItems := set.uniqueItems || later.uniqueItems
  prefixItems := if later.prefixItems.isEmpty then set.prefixItems else later.prefixItems
  items := set.items.merge later.items
  contains := later.contains <|> set.contains
  properties := set.properties.union later.properties
  required := set.required.union later.required
  additionalProperties := set.additionalProperties.merge later.additionalProperties
  patternProperties := mergePatterns set.patternProperties later.patternProperties
  propertyNames := later.propertyNames <|> set.propertyNames
  minProperties := Option.merge max set.minProperties later.minProperties
  maxProperties := Option.merge min set.maxProperties later.maxProperties
  dependentRequired := .unionWith NameSet.union set.dependentRequired later.dependentRequired
  candidates
  excluded := set.excluded ++ later.excluded

/-- Both sets of demands. They contradict each other when no kind or no candidate is left. -/
def intersect (set later : Constraints) : Except SchemaError Constraints :=
  match set.kinds.intersect later.kinds with
  | none =>
    .error (.unsatisfiable set.pointer
      s!"no common type between {set.kinds} and {later.kinds} (from {later.pointer})")
  | some kinds =>
    match commonCandidates? set.candidates later.candidates with
    | none =>
      .error (.unsatisfiable set.pointer
        s!"enum/const lists share no value with {later.pointer}")
    | some candidates => .ok (mergeWith kinds candidates set later)

end Specimen.Constraints
