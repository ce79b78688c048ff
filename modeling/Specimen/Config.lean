import Specimen.Options
import Specimen.Toml.Parser

/-!
# Specimen.Config

The configuration file of the program: a TOML document with the options of runs under `generate` and
the form of the output under `output` (`Config.parse?`). What is missing takes its default;
nothing else may stand at the top and under `output`.
-/

namespace Specimen

/-- How values are written. -/
structure OutputConfig where
  /-- With one element or member to a line. -/
  pretty : Bool
  /-- How many values; more than one are written as an array. -/
  count : Nat

/-- The contents of a configuration file. -/
structure Config where
  options : Options
  output : OutputConfig

namespace OutputConfig

/-- One value on one line. -/
def default : OutputConfig := ⟨false, 1⟩

/-- Sets a field by its name. -/
private def setField? (config : OutputConfig) (name : String) (value : Json) :
    Option OutputConfig :=
  match name with
  | "pretty" => do return { config with pretty := ← value.bool? }
  | "count" => do return { config with count := ← value.number?.bind Number.toUInt64? }
  | _ => none

/-- The settings that a value describes: an object, or a list that begins with the fields. -/
def ofJson? : Json → Option OutputConfig
  | .obj members => setFields members
  | .arr values => setFields (["pretty", "count"].zip values)
  | _ => none
where
  /-- Sets some fields one after the other. -/
  setFields (fields : List (String × Json)) : Option OutputConfig :=
    fields.foldlM (fun config (name, value) => setField? config name value) default

/-- The settings as a value. -/
def toJson (config : OutputConfig) : Json :=
  .object [("pretty", .bool config.pretty), ("count", .nat config.count)]

end OutputConfig

namespace Config

/-- The configuration of an empty file. -/
def default : Config := ⟨.default, .default⟩

/-- Sets a section by its name. -/
private def setSection? (config : Config) (name : String) (value : Json) : Option Config :=
  match name with
  | "generate" => do return { config with options := ← Options.ofJson? true value }
  | "output" => do return { config with output := ← OutputConfig.ofJson? value }
  | _ => none

/-- The configuration that a value describes. -/
def ofJson? (value : Json) : Option Config := do
  (← value.members?).foldlM (fun config (name, value) => setSection? config name value) default

/-- The configuration that a text describes. -/
def parse? (text : String) : Option Config := Toml.parse? text >>= ofJson?

/-- A configuration as a value. -/
def toJson (config : Config) : Json :=
  .object [("generate", config.options.toJson), ("output", config.output.toJson)]

end Config

end Specimen
