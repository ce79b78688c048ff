import Specimen.Json.Basic
import Specimen.NameTable

/-!
# Specimen.Report

What a run has to tell about its result: how large it is, and where it falls short of the schema.

* `IssueCode` — the sorts of shortcomings, with their names and levels;
* `Report.record` — counts an occurrence; each pair of code and path is listed once, with the
  message of its first occurrence;
* `Report.absorb` — joins the report of another run to this one.
-/

namespace Specimen

/-- How serious an issue is. -/
inductive IssueLevel where
  | info
  | warning
  deriving DecidableEq

/-- A sort of issue. -/
inductive IssueCode where
  | notIgnored
  | ifAdvisory
  | depthTruncated
  | cycleBroken
  | uniqueItemsExhausted
  | formatFallback
  | patternLengthRelaxed
  | patternUnsupported
  | excludedValueRetained
  | requiredWithoutProperty
  deriving DecidableEq

/-- The name of a level. -/
def IssueLevel.name : IssueLevel → String
  | info => "info"
  | warning => "warning"

namespace IssueCode

/-- All sorts of issues. -/
def all : List IssueCode :=
  [notIgnored, ifAdvisory, depthTruncated, cycleBroken, uniqueItemsExhausted, formatFallback,
    patternLengthRelaxed, patternUnsupported, excludedValueRetained, requiredWithoutProperty]

/-- The stable name of a sort of issue. -/
def name : IssueCode → String
  | notIgnored => "not_ignored"
  | ifAdvisory => "if_advisory"
  | depthTruncated => "depth_truncated"
  | cycleBroken => "cycle_broken"
  | uniqueItemsExhausted => "unique_items_exhausted"
  | formatFallback => "format_fallback"
  | patternLengthRelaxed => "pattern_length_relaxed"
  | patternUnsupported => "pattern_unsupported"
  | excludedValueRetained => "excluded_value_retained"
  | requiredWithoutProperty => "required_without_property"

/-- The sort of issue of a name. -/
def parse? (text : String) : Option IssueCode := all.find? (·.name == text)

/-- How serious a sort of issue is. -/
def level : IssueCode → IssueLevel
  | depthTruncated | cycleBroken | ifAdvisory => .info
  | _ => .warning

end IssueCode

/-- An issue at a place of the schema. -/
structure Issue where
  code : IssueCode
  message : String
  /-- The place, in its written form. -/
  path : String
  deriving DecidableEq

/-- The report of a run. -/
structure Report where
  seed : UInt64
  /-- How many values were produced. -/
  nodesGenerated : Nat
  /-- How many levels the deepest of them lies down. -/
  maxDepthReached : Nat
  /-- How often each sort of issue occurred, under its name. -/
  counts : NameTable Nat
  /-- The first occurrence of each sort at each place. -/
  issues : List Issue
  deriving DecidableEq

namespace Report

/-- The report of a run that has not begun. -/
def start (seed : UInt64) : Report := ⟨seed, 0, 0, ∅, []⟩

/-- How often a sort of issue occurred. -/
def count (report : Report) (code : IssueCode) : Nat := (report.counts.get? code.name).getD 0

/-- Whether a sort of issue occurred. -/
def has (report : Report) (code : IssueCode) : Bool := 0 < report.count code

/-- Lists an issue unless its sort is already listed for its place. -/
def list (issues : List Issue) (issue : Issue) : List Issue :=
  if issues.any fun known => known.code == issue.code && known.path == issue.path then issues
  else issues ++ [issue]

/-- Records an occurrence of an issue. -/
def record (report : Report) (code : IssueCode) (path message : String) : Report :=
  { report with
    counts := report.counts.insertWith (· + ·) code.name 1
    issues := list report.issues ⟨code, message, path⟩ }

/-- Joins the report of another run; the seed stays. -/
def absorb (report other : Report) : Report :=
  { report with
    nodesGenerated := report.nodesGenerated + other.nodesGenerated
    maxDepthReached := max report.maxDepthReached other.maxDepthReached
    counts := .unionWith (· + ·) report.counts other.counts
    issues := other.issues.foldl list report.issues }

/-- An issue as a value. -/
def issueJson (issue : Issue) : Json :=
  .object [
    ("level", .str issue.code.level.name),
    ("code", .str issue.code.name),
    ("message", .str issue.message),
    ("path", .str issue.path)]

/-- A report as a value. -/
def toJson (report : Report) : Json :=
  .object [
    ("seed", .nat report.seed.toNat),
    ("nodes_generated", .nat report.nodesGenerated),
    ("max_depth_reached", .nat report.maxDepthReached),
    ("warnings_by_code", .obj (report.counts.entries.map fun (name, count) => (name, .nat count))),
    ("issues", .arr (report.issues.map issueJson))]

end Report

end Specimen
