import Specimen.CommandLine.Arguments

/-!
# Specimen.CommandLine.Help

What the program tells about its use.
-/

namespace Specimen.CommandLine

/-- The name of the program. -/
def programName : String := "jsonalchemy"

/-- The name and the version of the program. -/
def versionText : String := programName ++ " 0.1.0\n"

/-- Lines, each with its end. -/
private def ofLines (lines : List String) : String := "".intercalate (lines.map (· ++ "\n"))

/-- The help on a topic. -/
def helpText : Topic → String
  | .program => ofLines [
    "Generate example data from JSON Schema",
    "",
    s!"Usage: {programName} <COMMAND>",
    "",
    "Commands:",
    "  generate       Generate instances of a schema",
    "  config-schema  Print the JSON Schema of the config file",
    "  help           Print this message or the help of the given subcommand(s)",
    "",
    "Options:",
    "  -h, --help     Print help",
    "  -V, --version  Print version"]
  | .generate => ofLines [
    "Generate instances of a schema",
    "",
    s!"Usage: {programName} generate [OPTIONS] <SCHEMA_PATH>",
    "",
    "Arguments:",
    "  <SCHEMA_PATH>  Schema document path, or `-` to read standard input",
    "",
    "Options:",
    "      --seed <SEED>            Seed; numeric text is used as-is, other text is hashed",
    "      --count <COUNT>          Number of instances. More than one is written as a JSON array",
    "      --max-depth <MAX_DEPTH>  Override `generate.max_depth`",
    "      --locale <LOCALE>        Override `generate.locale`",
    "      --config <CONFIG>        Config file (defaults to ./jsonalchemy.toml when present)",
    "      --pretty                 Pretty-print output",
    "      --log-level <LOG_LEVEL>  Log filter, e.g. `info` or `jsonalchemy=debug`. " ++
      "Overrides RUST_LOG",
    "      --log-json               Emit logs as JSON lines",
    "  -h, --help                   Print help"]
  | .configSchema => ofLines [
    "Print the JSON Schema of the config file",
    "",
    s!"Usage: {programName} config-schema",
    "",
    "Options:",
    "  -h, --help  Print help"]
  | .help => ofLines [
    "Print this message or the help of the given subcommand(s)",
    "",
    s!"Usage: {programName} help [COMMAND]...",
    "",
    "Arguments:",
    "  [COMMAND]...  Print help for the subcommand(s)"]

end Specimen.CommandLine
