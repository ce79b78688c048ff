import Specimen.Instance.Array
import Specimen.Instance.Number
import Specimen.Instance.Object
import Specimen.Instance.Text

/-!
# Specimen.Instance.Value

Values for schemas.

* `terminalValue` — the simplest value of the declared type, where a run stops going down;
* `ofKind` — a value of one kind; `ofConstraints` — a value that meets a set of demands; both
  leave the schemas below to a function;
* `value` — a value for a schema. It recurs on the number of levels that are left.
-/

namespace Specimen.Instance

/-! ### Where a run stops -/

/-- The admissible number that is nearest to zero. -/
def nearestToZero [LT α] [DecidableLT α] (zero : α) : Option α × Option α → α
  | (some lo, hi?) =>
    if zero < lo then lo
    else
      match hi? with
      | some hi => if hi < zero then hi else zero
      | none => zero
  | (none, some hi) => if hi < zero then hi else zero
  | (none, none) => zero

/-- The simplest value of the first kind of a set. -/
def simplest (set : Constraints) (kinds : KindSet) : Json :=
  if kinds.isUnknown || kinds.contains .null then .null
  else
    match kinds.kinds.head? with
    | some .boolean => .bool false
    | some .integer => .int (nearestToZero 0 set.integerBounds)
    | some .number =>
      let value := nearestToZero Double.zero set.numberBounds
      if value.isFinite then .double value else .null
    | some .string => .str ("".pushn 'a' (set.minLength.getD 0))
    | some .array => .arr []
    | some .object => .obj []
    | some .null | some .unknown | none => .null

/-- The simplest value of the type that a schema declares, without regard to its other keywords. -/
def terminalValue (document : Document) (node : Pointer) : Json :=
  let target := (document.resolve node).toOption.getD node
  match Constraints.ofSchema document target with
  | .error _ => .null
  | .ok set =>
    match set.candidates.bind List.head? with
    | some candidate => candidate
    | none => simplest set set.effectiveKinds

/-! ### Values for demands -/

variable {σ : Type} [Random.Source σ]
variable (setting : Setting σ) (set : Constraints) (property : Option String)
variable (child : Pointer → Option String → Run σ Json)

/-- One of the two Booleans, unless one of them is excluded. -/
def boolean : Random.Draw σ Bool :=
  match [false, true].filter fun flag => !Json.contains set.excluded (.bool flag) with
  | [only] => return only
  | _ => Random.chance (.ofDecimal false 5 (-1))

/-- A value of a kind. -/
def ofKind : Kind → Run σ Json
  | .null => return .null
  | .boolean => return .bool (← Run.draw (boolean set))
  | .integer => do
    let value ← Run.attempt
      (integer set setting.options.integerRange setting.options.uniqueAttempts)
    return .int value
  | .number => do return .double (← Run.attempt (number set setting.options.numberRange))
  | .string => do return .str (← string setting set property)
  | .array => do return .arr (← array setting.options set (child · none))
  | .object => do return .obj (← object setting set child).entries
  | .unknown => Run.draw (unknownValue setting.provider property)

/-- An element of a list, each with the same probability. -/
def pick (items : List α) : Run σ α := do
  match items[← Run.draw (Random.index items.length)]? with
  | some item => return item
  | none => throw (.fault .emptyRange)

/-- Draws values of random kinds until one is not excluded; without success the last one, `last` at
first, stays. -/
def drawAdmissible (last : Json) : (attempts : Nat) → Run σ Json
  | 0 => do
    record .excludedValueRetained set.pointer
      "every attempt produced a value excluded by `not`"
    return last
  | attempts + 1 => do
    let value ← ofKind setting set property child (← pick set.kinds.kinds)
    if Json.contains set.excluded value then drawAdmissible value attempts else return value

/-- A value that meets a set of demands. -/
def ofConstraints : Run σ Json :=
  match set.candidates with
  | some candidates => pick candidates
  | none => drawAdmissible setting set property child .null setting.options.uniqueAttempts

/-! ### Values for schemas -/

/-- A value for a schema; `property` is the name that it will stand under, and `room` the number of
levels that are left. -/
def value : (room : Nat) → (node : Pointer) → (property : Option String) → Run σ Json
  | 0, node, _ => do
    countNode setting.options.nodeBudget
    record .depthTruncated node
      s!"depth limit {setting.options.maxDepth} reached; terminal value used"
    return terminalValue setting.document node
  | room + 1, node, property => do
    countNode setting.options.nodeBudget
    let normalization ← normalized setting.document node
    match normalization.demands with
    | .cycle target =>
      record .cycleBroken node s!"reference to {target} re-enters the current path"
      return terminalValue setting.document target
    | .single set =>
      below normalization.entered (ofConstraints setting set property (value room))
    | .choice sets => do
      let set ← pick sets
      below normalization.entered (ofConstraints setting set property (value room))

end Specimen.Instance
