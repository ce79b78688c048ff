import Specimen.CommandLine.Help
import Specimen.CommandLine.Log
import Specimen.Config.Schema
import Specimen.Generation
import Specimen.Json.Parser

/-!
# Specimen.CommandLine.Program

The program as a function of its arguments and its surroundings (`Program.run`).

The surroundings — files, standard input and a seed by chance — are actions of an arbitrary monad,
so the program runs over real files as well as over given ones.
-/

namespace Specimen.CommandLine

/-- What is found at a path. -/
inductive FileContents where
  | text (text : String)
  | missing
  | unreadable (reason : String)

/-- What the program finds around it. -/
structure Surroundings (m : Type → Type) where
  fileAt : String → m FileContents
  /-- The whole standard input. -/
  standardInput : m String
  /-- The seed of a run for which none is given. -/
  drawSeed : m UInt64

/-- Why the program fails. -/
inductive Failure where
  | usage (error : UsageError)
  | unreadableConfig (path reason : String)
  | invalidConfig (path : String)
  | unreadableSchema (path reason : String)
  /-- The schema is no JSON text. -/
  | invalidSchemaText (path : String)
  | invalidFilter
  | invalidArguments (reason : String)
  | invalidOptions (error : OptionsError)
  | run (failure : Instance.Failure)

namespace Failure

/-- What went wrong. -/
def message : Failure → String
  | usage _ => "usage"
  | unreadableConfig path _ => s!"config error: failed to read config {path}"
  | invalidConfig path => s!"config error: invalid config {path}"
  | unreadableSchema path _ => s!"failed to read schema {path}"
  | invalidSchemaText path => s!"schema {path} is not valid JSON"
  | invalidFilter => "logging error: invalid filter directive"
  | invalidArguments reason => s!"invalid arguments: {reason}"
  | invalidOptions error => error.message
  | run (.schema error) => error.message
  | run (.fault _) => "nothing to draw from"

/-- What went wrong, with the reason that the surroundings gave. -/
def fullMessage : Failure → String
  | unreadableConfig path reason => (unreadableConfig path reason).message ++ ": " ++ reason
  | unreadableSchema path reason => (unreadableSchema path reason).message ++ ": " ++ reason
  | failure => failure.message

/-- The stable name of the sort of failure. -/
def kind : Failure → String
  | usage _ => "usage"
  | unreadableConfig _ _ | invalidConfig _ => "config"
  | unreadableSchema _ _ | invalidSchemaText _ => "schema_input"
  | invalidFilter => "logging"
  | invalidArguments _ => "invalid_args"
  | invalidOptions _ => "invalid_options"
  | run (.schema error) => error.kind
  | run (.fault _) => "fault"

/-- The exit code of a failure. -/
def exitCode : Failure → Nat
  | usage _ => 2
  | run (.schema (.unresolvedReference _ _)) | run (.schema (.unsupportedReference _)) => 2
  | run (.schema (.unsatisfiable _ _)) => 3
  | run (.schema (.budgetExceeded _)) => 4
  | _ => 1

end Failure

/-- What the program leaves behind. -/
structure Outcome where
  /-- What is written to the standard output. -/
  output : String
  /-- The events that the filter let through, in order. -/
  events : List Event
  /-- Whether events are written as JSON texts. -/
  logJson : Bool
  failure : Option Failure

/-- The exit code of the program. -/
def Outcome.exitCode (outcome : Outcome) : Nat := (outcome.failure.map Failure.exitCode).getD 0

namespace Program

/-- The configuration file that is read when none is given. -/
def defaultConfigPath : String := "./jsonalchemy.toml"

/-- The reason why a missing file cannot be read. -/
def missingReason : String := "No such file or directory (os error 2)"

variable {m : Type → Type} [Monad m]

/-- A part of the program that reports events. -/
abbrev Action (m : Type → Type) := ExceptT Failure (StateT (List Event) m)

/-- Reports an event. -/
def log (level : Level) (name : String) (fields : List (String × Json)) : Action m Unit :=
  modify (· ++ [⟨level, ("event", .str name) :: fields⟩])

/-- An action of the surroundings. -/
def ask (action : m α) : Action m α := ExceptT.lift (StateT.lift action)

variable (surroundings : Surroundings m)

/-- The configuration, and the path of the file it comes from. -/
def loadConfig (given : Option String) : Action m (Config × Option String) := do
  let path := given.getD defaultConfigPath
  match ← ask (surroundings.fileAt path) with
  | .text text =>
    match Config.parse? text with
    | some config => return (config, some path)
    | none => throw (.invalidConfig path)
  | .missing =>
    if given.isSome then throw (.unreadableConfig path missingReason)
    return (.default, none)
  | .unreadable reason => throw (.unreadableConfig path reason)

/-- The configuration with what the arguments say about it. -/
def override (config : Config) (arguments : GenerateArguments) : Config where
  options :=
    { config.options with
      maxDepth := arguments.maxDepth.getD config.options.maxDepth
      locale := arguments.locale.getD config.options.locale }
  output :=
    { count := arguments.count.getD config.output.count
      pretty := config.output.pretty || arguments.pretty }

/-- The schema at a path; a hyphen is the standard input. -/
def readSchema (path : String) : Action m Json := do
  let contents ←
    if path = "-" then .text <$> ask surroundings.standardInput
    else ask (surroundings.fileAt path)
  match contents with
  | .text text =>
    match Json.parse? text with
    | some schema => return schema
    | none => throw (.invalidSchemaText path)
  | .missing => throw (.unreadableSchema path missingReason)
  | .unreadable reason => throw (.unreadableSchema path reason)

/-- Reports the issues of a run. -/
def logIssues (report : Report) : Action m Unit :=
  report.issues.forM fun issue =>
    log (match issue.code.level with | .info => .info | .warning => .warn) "generation_issue" [
      ("code", .str issue.code.name),
      ("path", .str issue.path),
      ("occurrences", .nat (report.count issue.code)),
      ("message", .str issue.message)]

/-- A value as a line of the output. -/
def outputText (value : Json) (pretty : Bool) : String :=
  (if pretty then value.prettyText else value.text) ++ "\n"

/-- The path of a configuration file in a report. -/
def pathText : Option String → String
  | some path => s!"Some({Json.quote path})"
  | none => "None"

/-- Generates values and gives the output. -/
def generate (arguments : GenerateArguments) : Action m String := do
  let (config, path) ← loadConfig surroundings arguments.config
  let config := override config arguments
  let count := config.output.count
  if count = 0 then throw (.invalidArguments "--count must be at least 1")
  log .info "run_started" [
    ("schema", .str arguments.schema),
    ("config", .str (pathText path)),
    ("count", .nat count),
    ("seeded", .bool arguments.seed.isSome)]
  let schema ← readSchema surroundings arguments.schema
  log .info "schema_loaded" [("schema", .str arguments.schema)]
  let session ← liftExcept Failure.invalidOptions (Generation.Session.ofOptions config.options)
  let seed ← match arguments.seed with
    | some seed => pure seed.toUInt64
    | none => ask surroundings.drawSeed
  let document := Document.ofJson schema
  let (value, report) ← liftExcept Failure.run <|
    if count = 1 then session.generate document .root seed
    else (session.generateMany document .root seed count).map fun (values, report) =>
      (.arr values, report)
  logIssues report
  log .info "run_finished" [
    ("seed", .nat report.seed.toNat),
    ("nodes", .nat report.nodesGenerated),
    ("max_depth_reached", .nat report.maxDepthReached),
    ("issues", .nat report.issues.length)]
  return outputText value config.output.pretty
where
  /-- A result with its error as a failure. -/
  liftExcept {ε α : Type} (wrap : ε → Failure) (result : Except ε α) : Action m α :=
    match result with
    | .ok value => return value
    | .error error => throw (wrap error)

/-- The events that are let through when nothing is said about them: warnings and errors. -/
def defaultFilter : Filter := [⟨none, Level.warn.rank⟩]

/-- Generates values and reports how it went. -/
def runGenerate (arguments : GenerateArguments) : m Outcome := do
  let filter? := match arguments.logLevel with
    | some text => Filter.parse? text
    | none => some defaultFilter
  match filter? with
  | none => return ⟨"", [], arguments.logJson, some .invalidFilter⟩
  | some filter =>
    let (result, events) ← (generate surroundings arguments).run.run []
    let passed (events : List Event) : List Event :=
      events.filter (filter.permits programName)
    match result with
    | .ok output => return ⟨output, passed events, arguments.logJson, none⟩
    | .error failure =>
      let event : Event := ⟨.error, [
        ("event", .str "run_failed"),
        ("kind", .str failure.kind),
        ("error", .str failure.fullMessage)]⟩
      return ⟨"", passed (events ++ [event]), arguments.logJson, some failure⟩

/-- Runs the program. -/
def run (arguments : List String) : m Outcome := do
  match Request.parse arguments with
  | .error error => return ⟨"", [], false, some (.usage error)⟩
  | .ok (.help topic) => return ⟨helpText topic, [], false, none⟩
  | .ok .version => return ⟨versionText, [], false, none⟩
  | .ok .configSchema => return ⟨outputText Config.schema true, [], false, none⟩
  | .ok (.generate arguments) => runGenerate surroundings arguments

end Program

end Specimen.CommandLine
