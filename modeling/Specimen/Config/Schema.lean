import Specimen.Config

/-!
# Specimen.Config.Schema

The schema of the configuration file (`Config.schema`). Every section and every field is described
with its type and its default value.
-/

namespace Specimen.Config

/-! ### Types -/

/-- The type of a field: the members of its schema. -/
abbrev FieldType := List (String × Json)

/-- A type without further detail. -/
private def plainType (name : String) : FieldType := [("type", .str name)]

/-- A type with a format. -/
private def formatted (name format : String) : FieldType :=
  [("type", .str name), ("format", .str format)]

/-- Counts with a format. -/
private def countType (format : String) : FieldType :=
  formatted "integer" format ++ [("minimum", .double .zero)]

/-- Counts that may be missing. -/
private def optionalCountType (format : String) : FieldType :=
  countType format ++ [("type", .arr [.str "integer", .str "null"])]

/-- A type that is defined under a name. -/
private def definedType (name : String) : FieldType :=
  [("allOf", .arr [.object [("$ref", .str ("#/definitions/" ++ name))]])]

/-! ### Objects -/

/-- A field with its type, its default value and its meaning. -/
private def field (name : String) (type : FieldType) (default : Json) (description : String) :
    String × Json :=
  (name, .object (type ++ [("default", default), ("description", .str description)]))

/-- An object of ranges between two ends of a type. -/
private def rangeSchema (description : String) (endType : FieldType) : Json :=
  .object [
    ("type", .str "object"),
    ("description", .str description),
    ("properties", .object [("min", .object endType), ("max", .object endType)]),
    ("required", .arr [.str "max", .str "min"])]

/-- The default value of an option. -/
private def defaultOption (name : String) : Json := Options.default.toJson.member name

/-- An option with its type and its meaning. -/
private def option (name : String) (type : FieldType) (description : String) : String × Json :=
  field name type (defaultOption name) description

/-- The options of runs. -/
private def optionsSchema : Json :=
  .object [
    ("type", .str "object"),
    ("description", .str "Options for the generation engine."),
    ("properties", .object [
      option "max_depth" (countType "uint")
        "Recursion depth after which subtrees are replaced by terminal values.",
      option "integer_range" (definedType "IntRange")
        "Range for integers whose schema leaves both bounds open.",
      option "number_range" (definedType "FloatRange")
        "Range for numbers whose schema leaves both bounds open.",
      option "string_length" (definedType "LengthRange")
        "Default string length when `minLength`/`maxLength` are absent.",
      option "array_length" (definedType "LengthRange")
        "Default array length when `minItems`/`maxItems` are absent.",
      option "optional_property_probability" (formatted "number" "double")
        "Probability that a non-required property is emitted.",
      option "unique_attempts" (countType "uint32")
        "Attempts made to avoid duplicates (`uniqueItems`, `not`, synthetic keys).",
      option "max_extra_properties" (countType "uint")
        "Upper bound for synthetic keys added through `additionalProperties` or `patternProperties`.",
      option "pattern_max_repeat" (countType "uint32")
        "Repetition cap for unbounded quantifiers in `pattern`.",
      option "format_attempts" (countType "uint32")
        "Attempts made to find a formatted or patterned string of a valid length.",
      option "node_budget" (optionalCountType "uint")
        "Fail with a budget error after this many synthesized values.",
      option "locale" (plainType "string") "Locale passed to the realistic value provider."])]

/-- The form of the output. -/
private def outputSchema : Json :=
  .object [
    ("type", .str "object"),
    ("additionalProperties", .bool false),
    ("properties", .object [
      field "pretty" (plainType "boolean") (OutputConfig.default.toJson.member "pretty")
        "Pretty-print the JSON written to stdout.",
      field "count" (countType "uint") (OutputConfig.default.toJson.member "count")
        "Number of instances; more than one is written as a JSON array."])]

/-- The schema of the configuration file. -/
def schema : Json :=
  .object [
    ("$schema", .str "http://json-schema.org/draft-07/schema#"),
    ("title", .str "CliConfig"),
    ("description", .str "Contents of `jsonalchemy.toml`."),
    ("type", .str "object"),
    ("additionalProperties", .bool false),
    ("properties", .object [
      field "generate" (definedType "GenerateOptions") Options.default.toJson
        "Generation options passed to the engine.",
      field "output" (definedType "OutputConfig") OutputConfig.default.toJson
        "How results are written to stdout."]),
    ("definitions", .object [
      ("GenerateOptions", optionsSchema),
      ("OutputConfig", outputSchema),
      ("IntRange", rangeSchema "Inclusive integer range used for engine fallbacks."
        (formatted "integer" "int64")),
      ("FloatRange", rangeSchema "Inclusive float range used for engine fallbacks."
        (formatted "number" "double")),
      ("LengthRange", rangeSchema "Inclusive length range (string characters, array items)."
        (countType "uint"))])]

end Specimen.Config
