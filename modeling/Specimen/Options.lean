import Specimen.Json.Basic
import Specimen.Provider.Locale

/-!
# Specimen.Options

The options of a run.

* `Options` — the options, with their default values;
* `Options.validate` — refuses the combinations that cannot be honoured, with the reason
  (`OptionsError`);
* `Options.ofJson?`, `Options.toJson` — options as values. Missing fields take their defaults, and
  unknown ones are passed over; options and ranges may also be written as lists of their fields.
  Where a `surplus` is allowed, what such a list has beyond the fields is passed over as well.
-/

namespace Specimen

/-- The options of a run. -/
structure Options where
  /-- The level below which values are replaced by simple ones. -/
  maxDepth : Nat
  /-- The integers to choose from where a schema leaves both ends open. -/
  integerRange : Int × Int
  /-- The numbers to choose from where a schema leaves both ends open. -/
  numberRange : Double × Double
  /-- The lengths of strings where a schema leaves them open. -/
  stringLength : Nat × Nat
  /-- The lengths of arrays where a schema leaves them open. -/
  arrayLength : Nat × Nat
  /-- How likely a property appears that is not required. -/
  optionalPropertyProbability : Double
  /-- How often a value is drawn again to avoid duplicates and excluded values. -/
  uniqueAttempts : Nat
  /-- How many properties may be added that the schema does not declare. -/
  maxExtraProperties : Nat
  /-- How far a repetition in a pattern without limit goes beyond its lower bound. -/
  patternMaxRepeat : Nat
  /-- How often a text is drawn again to meet its length. -/
  formatAttempts : Nat
  /-- How many values a run may produce. -/
  nodeBudget : Option Nat
  /-- The locale of realistic values, by name. -/
  locale : String

/-- Why options are refused. -/
inductive OptionsError where
  | zeroDepth
  | integerRange
  | numberRange
  | stringLength
  | arrayLength
  | probability
  | zeroAttempts
  | zeroRepeat
  | unsupportedLocale (name : String)
  deriving DecidableEq

namespace OptionsError

/-- The sentence that refuses the options. -/
def message (error : OptionsError) : String :=
  "invalid options: " ++
    match error with
    | zeroDepth => "max_depth must be > 0"
    | integerRange => "integer_range min must be <= max"
    | numberRange => "number_range must be finite with min <= max"
    | stringLength => "string_length min must be <= max"
    | arrayLength => "array_length min must be <= max"
    | probability => "optional_property_probability must be within [0, 1]"
    | zeroAttempts => "unique_attempts and format_attempts must be > 0"
    | zeroRepeat => "pattern_max_repeat must be > 0"
    | unsupportedLocale name => Locale.unsupported name

end OptionsError

namespace Options

/-- The options of a run for which nothing is chosen. -/
def default : Options where
  maxDepth := 25
  integerRange := (0, 1000000)
  numberRange := (.zero, .ofNat 1000000)
  stringLength := (0, 40)
  arrayLength := (0, 5)
  optionalPropertyProbability := .ofDecimal false 8 (-1)
  uniqueAttempts := 10
  maxExtraProperties := 3
  patternMaxRepeat := 8
  formatAttempts := 100
  nodeBudget := none
  locale := Locale.enUS.name

instance : Inhabited Options := ⟨default⟩

/-- Refuses what cannot be honoured; the first fault counts. -/
def validate (options : Options) : Except OptionsError Unit :=
  let (lowest, highest) := options.numberRange
  let probability := options.optionalPropertyProbability
  if options.maxDepth = 0 then .error .zeroDepth
  else if options.integerRange.2 < options.integerRange.1 then .error .integerRange
  else if !lowest.isFinite ∨ !highest.isFinite ∨ highest < lowest then .error .numberRange
  else if options.stringLength.2 < options.stringLength.1 then .error .stringLength
  else if options.arrayLength.2 < options.arrayLength.1 then .error .arrayLength
  else if !(Double.zero.le probability && probability.le (.ofNat 1)) then .error .probability
  else if options.uniqueAttempts = 0 ∨ options.formatAttempts = 0 then .error .zeroAttempts
  else if options.patternMaxRepeat = 0 then .error .zeroRepeat
  else if (Locale.parse? options.locale).isNone then .error (.unsupportedLocale options.locale)
  else .ok ()

/-! ### As values -/

/-- A count below `2 ^ bits`. -/
private def count? (bits : Nat) (value : Json) : Option Nat :=
  (value.number?.bind Number.toUInt64?).filter (· < 2 ^ bits)

/-- A signed 64-bit integer. -/
private def integer? (value : Json) : Option Int := value.number?.bind Number.toInt64?

/-- A count that may be missing. -/
private def budget? : Json → Option (Option Nat)
  | .null => some none
  | value => (count? 64 value).map some

/-- A range: an object with both ends, or a list of them. -/
private def range? (surplus : Bool) (read : Json → Option α) : Json → Option (α × α)
  | .obj members => do
    return (← read (← members.lookup "min"), ← read (← members.lookup "max"))
  | .arr (min :: max :: rest) => do
    if rest.isEmpty || surplus then return (← read min, ← read max) else none
  | _ => none

/-- The names of the fields, in their order. -/
def fieldNames : List String :=
  ["max_depth", "integer_range", "number_range", "string_length", "array_length",
    "optional_property_probability", "unique_attempts", "max_extra_properties",
    "pattern_max_repeat", "format_attempts", "node_budget", "locale"]

/-- Sets a field by its name. -/
private def setField? (surplus : Bool) (options : Options) (name : String) (value : Json) :
    Option Options :=
  match name with
  | "max_depth" => do return { options with maxDepth := ← count? 64 value }
  | "integer_range" => do return { options with integerRange := ← range? surplus integer? value }
  | "number_range" => do return { options with numberRange := ← range? surplus Json.double? value }
  | "string_length" => do return { options with stringLength := ← range? surplus (count? 64) value }
  | "array_length" => do return { options with arrayLength := ← range? surplus (count? 64) value }
  | "optional_property_probability" => do
    return { options with optionalPropertyProbability := ← value.double? }
  | "unique_attempts" => do return { options with uniqueAttempts := ← count? 32 value }
  | "max_extra_properties" => do return { options with maxExtraProperties := ← count? 64 value }
  | "pattern_max_repeat" => do return { options with patternMaxRepeat := ← count? 32 value }
  | "format_attempts" => do return { options with formatAttempts := ← count? 32 value }
  | "node_budget" => do return { options with nodeBudget := ← budget? value }
  | "locale" => do return { options with locale := ← value.string? }
  | _ => some options

/-- The options that a value describes. -/
def ofJson? (surplus : Bool) : Json → Option Options
  | .obj members => setFields members
  | .arr values =>
    if fieldNames.length < values.length && !surplus then none
    else setFields (fieldNames.zip values)
  | _ => none
where
  /-- Sets some fields one after the other. -/
  setFields (fields : List (String × Json)) : Option Options :=
    fields.foldlM (fun options (name, value) => setField? surplus options name value) default

/-- A double as a value; one that is not finite reads as `null`. -/
private def doubleJson (value : Double) : Json :=
  if value.isFinite then .double value else .null

/-- A range as a value. -/
private def rangeJson (write : α → Json) (range : α × α) : Json :=
  .object [("min", write range.1), ("max", write range.2)]

/-- Options as a value. -/
def toJson (options : Options) : Json :=
  .object [
    ("max_depth", .nat options.maxDepth),
    ("integer_range", rangeJson .int options.integerRange),
    ("number_range", rangeJson doubleJson options.numberRange),
    ("string_length", rangeJson .nat options.stringLength),
    ("array_length", rangeJson .nat options.arrayLength),
    ("optional_property_probability", doubleJson options.optionalPropertyProbability),
    ("unique_attempts", .nat options.uniqueAttempts),
    ("max_extra_properties", .nat options.maxExtraProperties),
    ("pattern_max_repeat", .nat options.patternMaxRepeat),
    ("format_attempts", .nat options.formatAttempts),
    ("node_budget", (options.nodeBudget.map Json.nat).getD .null),
    ("locale", .str options.locale)]

end Options

end Specimen
