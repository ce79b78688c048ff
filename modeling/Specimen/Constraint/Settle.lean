import Specimen.Constraint.Merge
import Specimen.Double.Decimal

/-!
# Specimen.Constraint.Settle

Settles a set of demands once all merging is done (`Constraints.finalize`): without a type the
inferred kinds apply; candidates that are excluded or of the wrong kind are dropped; and a kind
is dropped when its own demands admit no value (`Constraints.conflict?`). The set is
unsatisfiable when nothing is left.
-/

namespace Specimen.Constraints

/-- A bound in a sentence. -/
def describe : Option Bound → String
  | some bound => bound.value.plainText ++ if bound.exclusive then " (exclusive)" else ""
  | none => "unbounded"

/-- Why no 64-bit integer meets the bounds. -/
def integerConflict? (set : Constraints) : Option String :=
  let (lower, upper) := set.integerLimits
  if lower.any (maxInteger < ·) then
    some s!"no 64-bit integer satisfies minimum {describe set.minimum}"
  else if upper.any (· < minInteger) then
    some s!"no 64-bit integer satisfies maximum {describe set.maximum}"
  else
    match lower, upper with
    | some lo, some hi =>
      if hi < lo then
        some (s!"no integer between minimum {describe set.minimum} " ++
          s!"and maximum {describe set.maximum}")
      else none
    | _, _ => none

/-- Why no number meets the bounds. -/
def numberConflict? (set : Constraints) : Option String :=
  match set.numberBounds with
  | (some lo, some hi) =>
    if hi < lo then
      some s!"minimum {describe set.minimum} exceeds maximum {describe set.maximum}"
    else none
  | _ => none

/-- Why no string has an admissible length. -/
def stringConflict? (set : Constraints) : Option String :=
  match set.minLength, set.maxLength with
  | some min, some max =>
    if max < min then some s!"minLength {min} exceeds maxLength {max}" else none
  | _, _ => none

/-- The largest admissible number of items. -/
def maxItemCount (set : Constraints) : Nat :=
  let limit := set.maxItems.getD maxCount
  if set.items.permits then limit else min limit set.prefixItems.length

/-- Why no array has an admissible length. -/
def arrayConflict? (set : Constraints) : Option String :=
  let min := set.minItems.getD 0
  let max := set.maxItemCount
  if set.contains.isSome ∧ max = 0 then some "contains requires at least one item"
  else if max < min then some s!"minItems {min} exceeds the admissible length {max}"
  else none

/-- Why no object has an admissible number of properties. -/
def objectConflict? (set : Constraints) : Option String :=
  let max := set.maxProperties.getD maxCount
  let min := set.minProperties.getD 0
  let isClosed := !set.additionalProperties.permits && set.patternProperties.isEmpty
  let undeclared := set.required.toList.filter fun name => !set.properties.has name
  let available := set.properties.size + undeclared.length
  if max < min then some s!"minProperties {min} exceeds maxProperties {max}"
  else if max < set.required.size then
    some s!"{set.required.size} required properties exceed maxProperties {max}"
  else if isClosed ∧ available < min then
    some s!"minProperties {min} exceeds the {available} properties a closed object allows"
  else none

/-- Why no value of a kind meets the demands. -/
def conflict? (set : Constraints) : Kind → Option String
  | .integer => set.integerConflict?
  | .number => set.numberConflict?
  | .string => set.stringConflict?
  | .array => set.arrayConflict?
  | .object => set.objectConflict?
  | .null | .boolean | .unknown => none

/-- Settles the kinds and the candidates. -/
def finalize (set : Constraints) : Except SchemaError Constraints :=
  let set := { set with kinds := set.effectiveKinds }
  match set.candidates with
  | some candidates =>
    let viable := candidates.filter fun value =>
      !Json.contains set.excluded value && set.kinds.accepts value
    if viable.isEmpty then
      .error (.unsatisfiable set.pointer
        "no enum/const value satisfies the type and `not` constraints")
    else .ok { set with candidates := some viable }
  | none =>
    if set.kinds.isUnknown then .ok set
    else
      match KindSet.filter? fun kind =>
          set.kinds.contains kind && (set.conflict? kind).isNone with
      | some viable => .ok { set with kinds := viable }
      | none =>
        .error (.unsatisfiable set.pointer
          ((set.kinds.kinds.filterMap set.conflict?).getLast?.getD ""))

end Specimen.Constraints
