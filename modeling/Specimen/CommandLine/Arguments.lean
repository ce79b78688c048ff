import Specimen.Numeral
import Specimen.Seed

/-!
# Specimen.CommandLine.Arguments

The arguments of the program (`Request.parse`).

They are read from left to right, and the first one that is refused, or that asks for help, decides.
An option takes its value behind an equals sign or from the next argument, and may be given
once; behind two hyphens there are no options any more.
-/

namespace Specimen.CommandLine

/-- What to generate from, and how. -/
structure GenerateArguments where
  /-- Where the schema is: a path, or a hyphen for the standard input. -/
  schema : String
  seed : Option Seed
  count : Option Nat
  maxDepth : Option Nat
  locale : Option String
  /-- The path of the configuration file. -/
  config : Option String
  pretty : Bool
  logLevel : Option String
  logJson : Bool

/-- What help is asked for. -/
inductive Topic where
  | program
  | generate
  | configSchema
  | help

/-- What the program is asked for. -/
inductive Request where
  | generate (arguments : GenerateArguments)
  | configSchema
  | help (topic : Topic)
  | version

/-- Why arguments are refused. -/
inductive UsageError where
  /-- There are none. -/
  | noCommand
  /-- There is an unknown one, a missing one or one with a wrong value. -/
  | malformed

/-! ### Options -/

/-- The options of a run that were given so far. -/
private structure Given where
  schema : Option String := none
  seed : Option Seed := none
  count : Option Nat := none
  maxDepth : Option Nat := none
  locale : Option String := none
  config : Option String := none
  pretty : Bool := false
  logLevel : Option String := none
  logJson : Bool := false

/-- A field that is set once. -/
private def once (current : Option α) (value? : Option α) : Option (Option α) :=
  if current.isSome then none else value?.map some

/-- Sets an option that takes a value. -/
private def setValue? (given : Given) (name value : String) : Option Given :=
  match name with
  | "seed" => do return { given with seed := ← once given.seed (some (Seed.parse value)) }
  | "count" => do
    return { given with count := ← once given.count (Numeral.unsigned64? value) }
  | "max-depth" => do
    return { given with maxDepth := ← once given.maxDepth (Numeral.unsigned64? value) }
  | "locale" => do return { given with locale := ← once given.locale (some value) }
  | "config" => do
    return { given with
      config := ← once given.config (if value.isEmpty then none else some value) }
  | "log-level" => do return { given with logLevel := ← once given.logLevel (some value) }
  | _ => none

/-- Sets an option without a value. -/
private def setFlag? (given : Given) (name : String) : Option Given :=
  match name with
  | "pretty" => if given.pretty then none else some { given with pretty := true }
  | "log-json" => if given.logJson then none else some { given with logJson := true }
  | _ => none

/-- Sets the place of the schema. -/
private def setSchema? (given : Given) (value : String) : Option Given := do
  return { given with schema := ← once given.schema (some value) }

/-- How an argument is to be read. -/
private inductive Argument where
  /-- Two hyphens: no options follow. -/
  | endOfOptions
  /-- A long option, perhaps with its value behind an equals sign. -/
  | long (name : String) (value? : Option String)
  /-- Short options, without their hyphen. -/
  | short (letters : List Char)
  | plain (text : String)

/-- How an argument is to be read. A single hyphen is plain. -/
private def Argument.of (text : String) : Argument :=
  match text.toList with
  | ['-', '-'] => .endOfOptions
  | '-' :: '-' :: rest =>
    let name := rest.takeWhile (· != '=')
    .long (String.ofList name)
      ((rest.drop name.length).head?.map fun _ => String.ofList (rest.drop (name.length + 1)))
  | '-' :: c :: rest => .short (c :: rest)
  | _ => .plain text

/-- A request, unless an argument is refused. -/
private def orMalformed (request? : Option Request) : Except UsageError Request :=
  match request? with
  | some request => .ok request
  | none => .error .malformed

/-- The request that complete options amount to. -/
private def Given.request? (given : Given) : Option Request := do
  return .generate {
    given with
    schema := ← given.schema }

/-- What the next argument may be. -/
private inductive Expecting where
  | anything
  /-- The value of an option. -/
  | valueOf (name : String)
  /-- Behind two hyphens: no option. -/
  | plain

/-- Reads the rest of the arguments of a run. -/
private def parseGenerate (given : Given) (expecting : Expecting) :
    List String → Except UsageError Request
  | [] =>
    match expecting with
    | .valueOf _ => .error .malformed
    | _ => orMalformed given.request?
  | first :: rest =>
    match expecting, Argument.of first with
    | .plain, _ => orElseMalformed (setSchema? given first) .plain rest
    | .valueOf name, .plain value => orElseMalformed (setValue? given name value) .anything rest
    | .valueOf _, _ => .error .malformed
    | .anything, .endOfOptions => parseGenerate given .plain rest
    | .anything, .plain text => orElseMalformed (setSchema? given text) .anything rest
    | .anything, .short letters =>
      if letters.head? = some 'h' then .ok (.help .generate) else .error .malformed
    | .anything, .long "help" none => .ok (.help .generate)
    | .anything, .long name none =>
      match setFlag? given name with
      | some given => parseGenerate given .anything rest
      | none => parseGenerate given (.valueOf name) rest
    | .anything, .long name (some value) =>
      orElseMalformed (setValue? given name value) .anything rest
where
  /-- Goes on with the options given, unless an argument is refused. -/
  orElseMalformed (given? : Option Given) (expecting : Expecting) (rest : List String) :
      Except UsageError Request :=
    match given? with
    | some given => parseGenerate given expecting rest
    | none => .error .malformed

/-! ### Commands -/

/-- Reads the arguments behind a command that takes none. -/
private def parseBare (request : Request) (topic : Topic) : List String → Except UsageError Request
  | [] => .ok request
  | first :: rest =>
    match Argument.of first with
    | .long "help" none => .ok (.help topic)
    | .short ('h' :: _) => .ok (.help topic)
    | .endOfOptions => if rest.isEmpty then .ok request else .error .malformed
    | _ => .error .malformed

/-- The command that help is asked for. -/
private def parseTopic : List String → Except UsageError Request
  | [] => .ok (.help .program)
  | ["generate"] => .ok (.help .generate)
  | ["config-schema"] => .ok (.help .configSchema)
  | ["help"] => .ok (.help .help)
  | _ => .error .malformed

/-- The request that arguments make. -/
def Request.parse : List String → Except UsageError Request
  | [] => .error .noCommand
  | "generate" :: rest => parseGenerate {} .anything rest
  | "config-schema" :: rest => parseBare .configSchema .configSchema rest
  | "help" :: rest => parseTopic rest
  | first :: _ =>
    match Argument.of first with
    | .long "help" none => .ok (.help .program)
    | .long "version" none => .ok .version
    | .short ('h' :: _) => .ok (.help .program)
    | .short ('V' :: _) => .ok .version
    | _ => .error .malformed

end Specimen.CommandLine
