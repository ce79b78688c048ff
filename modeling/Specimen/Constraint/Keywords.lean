import Specimen.Constraint.Merge
import Specimen.Schema.Error

/-!
# Specimen.Constraint.Keywords

Reads the demands of a schema from its own keywords (`Constraints.ofSchema`). A keyword whose
value has the wrong form makes the schema invalid; the keywords are checked in a fixed order,
and the first fault is reported.

Bounds come in two forms: `exclusiveMinimum` and `exclusiveMaximum` are either a number of their
own or a Boolean that makes `minimum` or `maximum` exclusive.
-/

namespace Specimen

namespace Constraints

/-- The keywords that hint at objects. -/
def objectKeywords : List String :=
  ["properties", "required", "additionalProperties", "patternProperties", "propertyNames",
    "minProperties", "maxProperties", "dependentRequired"]

/-- The keywords that hint at arrays. -/
def arrayKeywords : List String :=
  ["items", "prefixItems", "additionalItems", "minItems", "maxItems", "uniqueItems", "contains"]

/-- The keywords that hint at strings. -/
def stringKeywords : List String := ["minLength", "maxLength", "pattern"]

/-- The keywords that hint at numbers. -/
def numberKeywords : List String :=
  ["minimum", "maximum", "exclusiveMinimum", "exclusiveMaximum", "multipleOf"]

variable (document : Document) (node : Pointer)

/-- Whether the schema admits `null` beside its own kinds. -/
def isNullable : Bool :=
  ((document.keyword? node "nullable").bind Json.bool?).getD false

/-- The names under `type`, of which there may be one or a list. -/
def readTypeNames : Except SchemaError (List String) :=
  match document.keyword? node "type" with
  | none => .ok []
  | some (.str name) => .ok [name]
  | some (.arr names) =>
    names.mapM fun name =>
      match name with
      | .str name => .ok name
      | _ => .error (.invalidSchema node "type entries must be strings")
  | some _ => .error (.invalidSchema node "type must be a string or an array of strings")

/-- The kinds that `type` names; unknown names are passed over. -/
def readKinds : Except SchemaError KindSet := do
  let kinds := (← readTypeNames document node).filterMap Kind.parse?
  if kinds.isEmpty then return .unknown
  return .of (if isNullable document node then kinds ++ [.null] else kinds)

/-- The kinds that the other keywords hint at, if any do. -/
def inferKinds : Option KindSet :=
  let present (keywords : List String) : Bool :=
    keywords.any fun keyword => (document.keyword? node keyword).isSome
  let format := (document.keyword? node "format").bind Json.string?
  let isInteger := format = some "int32" ∨ format = some "int64"
  let isNumber := format = some "float" ∨ format = some "double"
  let hinted (kind : Kind) : Bool :=
    match kind with
    | .object => present objectKeywords
    | .array => present arrayKeywords
    | .string => present stringKeywords || (format.isSome && !isInteger && !isNumber)
    | .number => present numberKeywords || isNumber
    | .integer => isInteger
    | _ => false
  (KindSet.filter? hinted).map fun inferred =>
    if isNullable document node then .of (inferred.kinds ++ [.null]) else inferred

/-- The number under a keyword. -/
def readNumber (keyword : String) : Except SchemaError (Option Double) :=
  match document.keyword? node keyword with
  | none => .ok none
  | some value =>
    match value.double? with
    | some number => .ok (some number)
    | none => .error (.invalidSchema node s!"{keyword} must be a number")

/-- The length or count under a keyword: an integer that is not negative, in either notation. -/
def readCount (keyword : String) : Except SchemaError (Option Nat) :=
  match document.keyword? node keyword with
  | none => .ok none
  | some value =>
    match value.double?.filter fun number => Double.zero.le number && number.isIntegral with
    | some number => .ok (some number.toUInt64)
    | none => .error (.invalidSchema node s!"{keyword} must be a non-negative integer")

/-- The text under a keyword. -/
def readText (keyword : String) : Except SchemaError (Option String) :=
  match document.keyword? node keyword with
  | none => .ok none
  | some (.str text) => .ok (some text)
  | some _ => .error (.invalidSchema node s!"{keyword} must be a string")

/-- A bound in either form; of two the tighter one counts. -/
def readBound (inclusiveKeyword exclusiveKeyword : String) (tighter : Bound → Bound → Bound) :
    Except SchemaError (Option Bound) := do
  let inclusive ← readNumber document node inclusiveKeyword
  match document.keyword? node exclusiveKeyword with
  | none | some (.bool false) => return inclusive.map (⟨·, false⟩)
  | some (.bool true) => return inclusive.map (⟨·, true⟩)
  | some value =>
    match value.double? with
    | some exclusive =>
      return Option.merge tighter (inclusive.map (⟨·, false⟩)) (some ⟨exclusive, true⟩)
    | none =>
      throw (.invalidSchema node s!"{exclusiveKeyword} must be a number or a boolean")

/-- A set of names under a keyword. -/
def readNames (keyword : String) (value : Json) : Except SchemaError NameSet :=
  let invalid : SchemaError := .invalidSchema node s!"{keyword} must be an array of strings"
  match value with
  | .arr elements =>
    match elements.mapM Json.string? with
    | some names => .ok (.ofList names)
    | none => .error invalid
  | _ => .error invalid

/-- What a keyword says about the members that no other keyword covers. -/
def readExtra (keyword : String) : Extra :=
  match document.keyword? node keyword with
  | some (.bool true) => .allowed
  | some (.bool false) => .forbidden
  | some (.obj _) => .schema (node.push keyword)
  | _ => .unspecified

/-- Adds what the presence of a name requires by a keyword. -/
def addDependencies (keyword : String) (arraysOnly : Bool) (table : NameTable NameSet) :
    Except SchemaError (NameTable NameSet) :=
  match document.keyword? node keyword with
  | some (.obj entries) =>
    entries.foldlM (fun table (name, value) =>
      if arraysOnly ∧ value.elements?.isNone then pure table
      else return table.insertWith .union name (← readNames node keyword value)) table
  | _ => .ok table

/-- The names that the presence of a name requires; schemas under `dependencies` are none. -/
def readDependencies : Except SchemaError (NameTable NameSet) := do
  let table ← addDependencies document node "dependentRequired" false ∅
  addDependencies document node "dependencies" true table

/-- The values of `enum`. -/
def readEnum : Except SchemaError (Option (List Json)) :=
  match document.keyword? node "enum" with
  | none => .ok none
  | some (.arr values) => .ok (some values)
  | some _ => .error (.invalidSchema node "enum must be an array")

/-- The only admissible values: those listed, and a constant. -/
def candidatesOf : (listed : Option (List Json)) → (constant : Option Json) →
    Except SchemaError (Option (List Json))
  | values, none => .ok values
  | none, some constant => .ok (some [constant])
  | some values, some constant =>
    if Json.contains values constant then .ok (some [constant])
    else .error (.unsatisfiable node "const is not one of the enum values")

/-- The only admissible values: those of `enum`, and that of `const`. -/
def readCandidates : Except SchemaError (Option (List Json)) := do
  candidatesOf node (← readEnum document node) (document.keyword? node "const")

/-- The step of multiples, which has to be a positive number. -/
def readStep : Except SchemaError (Option Double) := do
  let step ← readNumber document node "multipleOf"
  if step.any fun step => !(Double.zero.lt step && step.isFinite) then
    .error (.invalidSchema node "multipleOf must be > 0")
  else .ok step

/-- The names that have to be present. -/
def readRequired : Except SchemaError NameSet :=
  match document.keyword? node "required" with
  | some value => readNames node "required" value
  | none => .ok ∅

/-- The schemas of the first items, and what holds for the items behind them. Either keyword for
the first items moves the rest to another keyword. -/
def readItems : List Pointer × Extra :=
  if (document.keyword? node "prefixItems").isSome then
    (document.subschemas node "prefixItems", readExtra document node "items")
  else if ((document.keyword? node "items").bind Json.elements?).isSome then
    (document.subschemas node "items", readExtra document node "additionalItems")
  else ([], readExtra document node "items")

/-- The demands of a schema by its own keywords. -/
def ofSchema : Except SchemaError Constraints := do
  let kinds ← readKinds document node
  let minimum ← readBound document node "minimum" "exclusiveMinimum" tighterMinimum
  let maximum ← readBound document node "maximum" "exclusiveMaximum" tighterMaximum
  let multipleOf ← readStep document node
  let minLength ← readCount document node "minLength"
  let maxLength ← readCount document node "maxLength"
  let pattern ← readText document node "pattern"
  let format ← readText document node "format"
  let minItems ← readCount document node "minItems"
  let maxItems ← readCount document node "maxItems"
  let required ← readRequired document node
  let minProperties ← readCount document node "minProperties"
  let maxProperties ← readCount document node "maxProperties"
  let dependentRequired ← readDependencies document node
  let candidates ← readCandidates document node
  return {
    pointer := node
    kinds
    inferred := inferKinds document node
    minimum
    maximum
    multipleOf
    minLength
    maxLength
    pattern
    format
    minItems
    maxItems
    uniqueItems := ((document.keyword? node "uniqueItems").bind Json.bool?).getD false
    prefixItems := (readItems document node).1
    items := (readItems document node).2
    contains := document.subschema? node "contains"
    properties := .ofList (document.namedSubschemas node "properties")
    required
    additionalProperties := readExtra document node "additionalProperties"
    patternProperties := document.namedSubschemas node "patternProperties"
    propertyNames := document.subschema? node "propertyNames"
    minProperties
    maxProperties
    dependentRequired
    candidates
    excluded := [] }

end Constraints

end Specimen
