import Specimen.Normalization
import Specimen.Options
import Specimen.Pattern.Library
import Specimen.Provider.Basic

/-!
# Specimen.Instance.Run

Runs that produce a value for a schema.

* `Setting` — what a run is given; `Progress` — what changes while it goes on;
* `Attempt` — draws that a schema may rule out; `Run` — attempts that also write a report; draws and
  results become either by `Attempt.draw`, `Attempt.check`, `Run.draw`, `Run.check`;
* `countNode` — counts a value against the budget;
* `below` — goes down one level: the reference targets entered there are on the path for as long
  as the run stays below, and path and depth are restored however it ends.
-/

namespace Specimen.Instance

/-- Why a run gives no value. -/
inductive Failure where
  /-- The schema is at fault. -/
  | schema (error : SchemaError)
  /-- Something was drawn from nothing. -/
  | fault (fault : Random.Fault)
  deriving DecidableEq

/-- What a run is given. -/
structure Setting (σ : Type) where
  document : Document
  options : Options
  provider : Provider σ
  /-- The library of regular expressions. -/
  library : Pattern.Library σ

/-- How far a run has come. -/
structure Progress (σ : Type) where
  /-- The random source. -/
  source : σ
  /-- The reference targets entered above the current schema. -/
  path : List Pointer
  /-- How many levels the current schema lies down. -/
  depth : Nat
  report : Report

/-- A draw that a schema may rule out. -/
abbrev Attempt (σ : Type) : Type → Type := ExceptT Failure (StateM σ)

/-- A part of a run. -/
abbrev Run (σ : Type) : Type → Type := ExceptT Failure (StateM (Progress σ))

variable {σ : Type}

/-- A draw as an attempt. -/
def Attempt.draw (draw : Random.Draw σ α) : Attempt σ α := fun source =>
  let (result, source) := draw source
  (result.mapError .fault, source)

/-- A result as an attempt. -/
def Attempt.check (result : Except SchemaError α) : Attempt σ α := fun source =>
  (result.mapError .schema, source)

/-- An attempt as a part of a run. -/
def Run.attempt (attempt : Attempt σ α) : Run σ α := fun progress =>
  let (result, source) := attempt progress.source
  (result, { progress with source })

/-- A draw as a part of a run. -/
def Run.draw (draw : Random.Draw σ α) : Run σ α := Run.attempt (Attempt.draw draw)

/-- A result as a part of a run. -/
def Run.check (result : Except SchemaError α) : Run σ α := Run.attempt (Attempt.check result)

/-- Fails because no value meets the demands of a schema. -/
def unsatisfiable (node : Pointer) (reason : String) : Attempt σ α :=
  throw (.schema (.unsatisfiable node reason))

/-- Changes the report. -/
def modifyReport (change : Report → Report) : Run σ Unit :=
  modify fun progress => { progress with report := change progress.report }

/-- Records an issue at a schema. -/
def record (code : IssueCode) (node : Pointer) (message : String) : Run σ Unit :=
  modifyReport (·.record code node.text message)

/-- Counts one more value. Beyond the budget there is none. -/
def countNode (budget : Option Nat) : Run σ Unit := do
  modifyReport fun report => { report with nodesGenerated := report.nodesGenerated + 1 }
  if let some limit := budget then
    if limit < (← get).report.nodesGenerated then throw (.schema (.budgetExceeded limit))

/-- The normalization of a schema on the current path. -/
def normalized (document : Document) (node : Pointer) : Run σ Normalization := fun progress =>
  let (result, report) := Normalization.normalize document progress.path node progress.report
  (result.mapError .schema, { progress with report })

/-- The state one level further down, behind some more reference targets. -/
def Progress.descend (progress : Progress σ) (entered : List Pointer) : Progress σ :=
  { progress with
    path := progress.path ++ entered
    depth := progress.depth + 1
    report :=
      { progress.report with
        maxDepthReached := max progress.report.maxDepthReached (progress.depth + 1) } }

/-- Runs a part one level further down, behind some more reference targets. -/
def below (entered : List Pointer) (part : Run σ α) : Run σ α := fun progress =>
  let (result, reached) := part (progress.descend entered)
  (result, { reached with
    path := reached.path.take progress.path.length
    depth := reached.depth - 1 })

end Specimen.Instance
