import Specimen.CommandLine.Program

/-!
# Specimen.Main

The program over real files.
-/

open Specimen CommandLine

/-- The file at a path. -/
def readFileAt (path : String) : IO FileContents := do
  try return .text (← IO.FS.readFile path)
  catch
    | .noFileOrDirectory .. => return .missing
    | error => return .unreadable (toString error)

/-- The rest of a stream, one line after the other. -/
partial def readRest (stream : IO.FS.Stream) (text : String) : IO String := do
  let line ← stream.getLine
  if line.isEmpty then return text else readRest stream (text ++ line)

/-- The files, the standard input and the chance of the machine. -/
def machine : Surroundings IO where
  fileAt := readFileAt
  standardInput := do readRest (← IO.getStdin) ""
  drawSeed := do return (← IO.rand 0 (2 ^ 64 - 1)).toUInt64

/-- An event as a line of the log. -/
def eventLine (logJson : Bool) (event : Event) : String :=
  if logJson then event.toJson.text
  else event.level.name ++ " " ++ (Json.object event.fields).text

/-- What is written to the standard error about a failure. -/
def failureText : CommandLine.Failure → String
  | .usage .noCommand => helpText .program
  | failure => s!"error: {failure.fullMessage}\n"

def main (arguments : List String) : IO UInt32 := do
  let outcome ← Program.run machine arguments
  IO.print outcome.output
  for event in outcome.events do
    IO.eprintln (eventLine outcome.logJson event)
  if let some failure := outcome.failure then IO.eprint (failureText failure)
  return outcome.exitCode.toUInt32
