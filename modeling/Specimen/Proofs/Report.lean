import Mathlib.Algebra.GroupWithZero.Nat
import Specimen.Report

/-!
# Specimen.Proofs.Report

What recording an issue does to a report: its own sort has occurred from then on
(`Report.has_record_self`), every sort that has occurred before still has (`Report.has_record`), and
no other sort has occurred more often (`Report.count_record_of_ne`). What is listed at a place stays
listed (`Report.Lists.record`), and a report takes nothing back while a run goes on (`Report.Grows`).
What is recorded does not depend on what has been: a report with fewer issues stays one
(`Report.Echoes.record`).

What a report is that has absorbed some others one by one, without the order in which its fields
were joined, is `Report.Joins`; every report that is absorbed makes it one more
(`Report.Joins.absorb`).
-/

namespace Specimen

/-- The names of the sorts of issues differ. -/
theorem IssueCode.parse?_name (code : IssueCode) : IssueCode.parse? code.name = some code := by
  cases code <;> decide

/-- Codes are told apart by their names. -/
theorem IssueCode.name_injective {code other : IssueCode} (h : code.name = other.name) :
    code = other :=
  Option.some.inj (by rw [← code.parse?_name, ← other.parse?_name, h])

namespace Report

variable {report : Report} {code other : IssueCode} {path message : String}

/-- What is recorded is there. -/
theorem has_record_self : (report.record code path message).has code = true := by
  unfold has count record
  rw [NameTable.get?_insertWith, if_pos rfl]
  cases report.counts.get? code.name <;> simp [Option.merge]

/-- Nothing that is recorded is lost. -/
theorem has_record (h : report.has other = true) :
    (report.record code path message).has other = true := by
  unfold has count record at *
  rw [NameTable.get?_insertWith]
  split
  · rename_i hname
    cases report.counts.get? code.name <;> simp [Option.merge]
  · exact h

/-- Other codes keep their counts. -/
theorem count_record_of_ne (h : code ≠ other) :
    (report.record code path message).count other = report.count other := by
  have hname : other.name ≠ code.name := fun hsame => h (IssueCode.name_injective hsame.symm)
  unfold count record
  rw [NameTable.get?_insertWith, if_neg hname]

/-- An issue is listed at a place. -/
def Lists (report : Report) (code : IssueCode) (path : String) : Prop :=
  ∃ issue ∈ report.issues, issue.code = code ∧ issue.path = path

theorem lists_record_self : (report.record code path message).Lists code path := by
  unfold Lists record list
  dsimp only
  split
  · rename_i hknown
    obtain ⟨issue, hissue, hsame⟩ := List.any_eq_true.mp hknown
    simp only [Bool.and_eq_true, beq_iff_eq] at hsame
    exact ⟨issue, hissue, hsame⟩
  · exact ⟨_, List.mem_append_right _ (List.mem_singleton_self _), rfl, rfl⟩

theorem Lists.record {place : String} (h : report.Lists other place) :
    (report.record code path message).Lists other place := by
  obtain ⟨issue, hissue, hsame⟩ := h
  refine ⟨issue, ?_, hsame⟩
  unfold Report.record list
  dsimp only
  split
  · exact hissue
  · exact List.mem_append_left _ hissue

/-- A place is listed that was listed before, or the one that is recorded. -/
theorem Lists.of_record {place : String} (h : (report.record code path message).Lists other place) :
    report.Lists other place ∨ code = other ∧ path = place := by
  obtain ⟨issue, hissue, hsame⟩ := h
  unfold Report.record list at hissue
  dsimp only at hissue
  split at hissue
  · exact .inl ⟨issue, hissue, hsame⟩
  · rcases List.mem_append.mp hissue with hmem | hmem
    · exact .inl ⟨issue, hmem, hsame⟩
    · obtain rfl := List.mem_singleton.mp hmem
      exact .inr hsame

/-- Two reports that differ in their issues at most, where the second one lists none that the first
one does not list. -/
structure Echoes (report other : Report) : Prop where
  seed : other.seed = report.seed
  nodes : other.nodesGenerated = report.nodesGenerated
  depth : other.maxDepthReached = report.maxDepthReached
  lists : ∀ code path, other.Lists code path → report.Lists code path

/-- Reports that echo each other go on to do so. -/
theorem Echoes.record {echo : Report} (h : report.Echoes echo) :
    (report.record code path message).Echoes (echo.record code path message) where
  seed := h.seed
  nodes := h.nodes
  depth := h.depth
  lists other place hlists := by
    rcases hlists.of_record with hlists | ⟨rfl, rfl⟩
    · exact (h.lists other place hlists).record
    · exact lists_record_self

/-- Somewhere a value was produced without regard to all of its schema: too far down, or behind a
reference back to where it came from. -/
def StopsShort (report : Report) : Prop :=
  report.has .depthTruncated = true ∨ report.has .cycleBroken = true

/-- That a run has stopped short stays recorded. -/
theorem StopsShort.record (h : report.StopsShort) :
    (report.record code path message).StopsShort := h.imp has_record has_record

theorem stopsShort_record_depthTruncated :
    (report.record .depthTruncated path message).StopsShort := .inl has_record_self

theorem stopsShort_record_cycleBroken :
    (report.record .cycleBroken path message).StopsShort := .inr has_record_self

/-- A report tells at least as much as an earlier one. -/
structure Grows (before after : Report) : Prop where
  nodes : before.nodesGenerated ≤ after.nodesGenerated
  depth : before.maxDepthReached ≤ after.maxDepthReached
  issues : ∀ code, before.has code = true → after.has code = true

theorem Grows.refl (report : Report) : report.Grows report :=
  ⟨Nat.le_refl _, Nat.le_refl _, fun _ h => h⟩

theorem Grows.record {before : Report} (h : before.Grows report) :
    before.Grows (report.record code path message) where
  nodes := h.nodes
  depth := h.depth
  issues other hother := has_record (h.issues other hother)

/-! ### Joining reports -/

/-- Two issues of one sort at one place. -/
def sameIssue (issue known : Issue) : Bool := known.code == issue.code && known.path == issue.path

/-- Listing issues one by one, unless they are known, drops all but the first of one sort at one
place. -/
theorem foldl_list_eq_loop (issues known : List Issue) :
    issues.foldl list known = List.eraseDupsBy.loop sameIssue issues known.reverse := by
  induction issues generalizing known with
  | nil => rw [List.foldl_nil, List.eraseDupsBy.loop, List.reverse_reverse]
  | cons issue rest ih =>
    have hknown : known.reverse.any (sameIssue issue) = known.any (sameIssue issue) :=
      List.any_reverse
    rw [List.foldl_cons, ih, List.eraseDupsBy.loop, hknown]
    unfold list
    change List.eraseDupsBy.loop sameIssue rest
      (if known.any (sameIssue issue) = true then known else known ++ [issue]).reverse = _
    cases known.any (sameIssue issue) with
    | true => rfl
    | false => simp

/-- Listing issues one by one drops those that repeat a place. -/
theorem foldl_list_nil (issues : List Issue) :
    issues.foldl list [] = issues.eraseDupsBy sameIssue := foldl_list_eq_loop issues []

/-- A report tells of some others together: how many values they have, how deep the deepest of them
lies, how often each sort of issue occurred, and the first issue of each sort at each place. -/
structure Joins (report : Report) (parts : List Report) : Prop where
  nodes : report.nodesGenerated = (parts.map (·.nodesGenerated)).sum
  depth : report.maxDepthReached = (parts.map (·.maxDepthReached)).foldl max 0
  counts : ∀ name, (report.counts.get? name).getD 0 =
    (parts.map fun part => (part.counts.get? name).getD 0).sum
  names : ∀ name, report.counts.has name = parts.any fun part => part.counts.has name
  issues : report.issues = (parts.flatMap (·.issues)).eraseDupsBy sameIssue

theorem joins_start (seed : UInt64) : (start seed).Joins [] where
  nodes := rfl
  depth := rfl
  counts _ := rfl
  names _ := rfl
  issues := rfl

/-- One more report is joined. -/
theorem Joins.absorb {parts : List Report} {last : Report} (h : report.Joins parts) :
    (report.absorb last).Joins (parts ++ [last]) where
  nodes := by
    rw [List.map_append, List.sum_append, ← h.nodes]
    rfl
  depth := by
    rw [List.map_append, List.foldl_append, ← h.depth]
    rfl
  counts name := by
    rw [List.map_append, List.sum_append, ← h.counts name]
    show ((NameTable.unionWith (· + ·) report.counts last.counts).get? name).getD 0 = _
    rw [NameTable.get?_unionWith]
    cases report.counts.get? name <;> cases hlast : last.counts.get? name <;>
      simp [Option.merge, hlast]
  names name := by
    rw [List.any_append, ← h.names name]
    show (NameTable.unionWith (· + ·) report.counts last.counts).has name = _
    unfold NameTable.has
    rw [NameTable.get?_unionWith]
    cases report.counts.get? name <;> cases hlast : last.counts.get? name <;>
      simp [Option.merge, hlast]
  issues := by
    rw [List.flatMap_append, ← foldl_list_nil, List.foldl_append, foldl_list_nil, ← h.issues,
      List.flatMap_singleton]
    rfl

/-- A report that has absorbed some others joins them. -/
theorem Joins.foldl_absorb {parts : List Report} (h : report.Joins parts) (others : List Report) :
    (others.foldl Report.absorb report).Joins (parts ++ others) := by
  induction others generalizing report parts with
  | nil => rwa [List.append_nil]
  | cons other rest ih =>
    rw [List.foldl_cons, ← List.singleton_append, ← List.append_assoc]
    exact ih h.absorb

theorem seed_foldl_absorb (report : Report) (others : List Report) :
    (others.foldl Report.absorb report).seed = report.seed := by
  induction others generalizing report with
  | nil => rfl
  | cons other rest ih => exact ih (report.absorb other)

/-- There is one report, for a seed, that joins some others. -/
theorem Joins.eq {other : Report} {parts : List Report} (h : report.Joins parts)
    (ho : other.Joins parts) (hseed : report.seed = other.seed) : report = other := by
  have hcounts : report.counts = other.counts := by
    refine NameTable.ext_get? fun name => ?_
    have hvalues := (h.counts name).trans (ho.counts name).symm
    have hnames := (h.names name).trans (ho.names name).symm
    unfold NameTable.has at hnames
    cases hr : report.counts.get? name <;> cases hs : other.counts.get? name <;>
      simp_all
  cases report with | mk seed nodes depth counts issues =>
  cases other with | mk seed' nodes' depth' counts' issues' =>
  obtain rfl : seed = seed' := hseed
  obtain rfl : nodes = nodes' := h.nodes.trans ho.nodes.symm
  obtain rfl : depth = depth' := h.depth.trans ho.depth.symm
  obtain rfl : counts = counts' := hcounts
  obtain rfl : issues = issues' := h.issues.trans ho.issues.symm
  rfl

end Report

end Specimen
