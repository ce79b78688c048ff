import Mathlib.Data.Finset.Insert
import Specimen.Proofs.Report

/-!
# Specimen.Proofs.Report.History

Reports that keep the sites of their issues beside the issues (`Ledger`).

A report need not be searched for an issue if it remembers where it has listed one. It then holds
its history three times over: the counts, the issues and the sites. Recording and absorbing change
all three, each in a way of its own, and they stay in step: whatever is built in these two ways
tells what recording the same issues one by one tells (`Ledger.Tells`, `absorb_recordAll`), and its
report is the one that is searched (`Ledger.Indexed.report_record`, `Ledger.Indexed.report_absorb`).
-/

namespace Specimen

/-- The sort and the place of an issue; for each of them one issue is listed. -/
def Issue.site (issue : Issue) : IssueCode × String := (issue.code, issue.path)

/-- A report with the sites of the issues that it has listed. -/
structure Ledger where
  report : Report
  seen : Finset (IssueCode × String)

/-- How a report comes about. -/
inductive History where
  | start (seed : UInt64)
  | record (history : History) (issue : Issue)
  | absorb (history other : History)

namespace Report

variable {report : Report} {issue : Issue} {issues known : List Issue}

theorem sameIssue_iff {other : Issue} : sameIssue issue other = true ↔ other.site = issue.site := by
  simp [sameIssue, Issue.site]

/-- An issue is known when its site is one of those listed. -/
theorem any_sameIssue_iff :
    known.any (sameIssue issue) = true ↔ issue.site ∈ known.map Issue.site := by
  simp only [List.any_eq_true, List.mem_map, sameIssue_iff]

/-- An issue is listed unless one is listed for the same place already. -/
theorem list_eq (known : List Issue) (issue : Issue) :
    list known issue = if issue.site ∈ known.map Issue.site then known else known ++ [issue] := by
  unfold list
  simp only [← any_sameIssue_iff]
  rfl

/-- Listing an issue adds its place. -/
theorem mem_sites_list {site : IssueCode × String} :
    site ∈ (list known issue).map Issue.site ↔
      site ∈ known.map Issue.site ∨ site = issue.site := by
  rw [list_eq]
  split
  · rename_i hknown
    exact ⟨.inl, fun h => h.elim id fun hsite => hsite ▸ hknown⟩
  · simp

theorem mem_sites_foldl_list {site : IssueCode × String} :
    site ∈ (issues.foldl list known).map Issue.site ↔
      site ∈ known.map Issue.site ∨ site ∈ issues.map Issue.site := by
  induction issues generalizing known with
  | nil => simp
  | cons issue rest ih =>
    rw [List.foldl_cons, ih, mem_sites_list, List.map_cons, List.mem_cons, or_assoc]

/-- No place is listed twice. -/
theorem nodup_sites_list (h : (known.map Issue.site).Nodup) :
    ((list known issue).map Issue.site).Nodup := by
  rw [list_eq]
  split
  · exact h
  · rename_i hnew
    rw [List.map_append, List.nodup_append']
    exact ⟨h, List.nodup_singleton _, by simpa using hnew⟩

theorem nodup_sites_foldl_list (h : (known.map Issue.site).Nodup) :
    ((issues.foldl list known).map Issue.site).Nodup := by
  induction issues generalizing known with
  | nil => exact h
  | cons issue rest ih => exact ih (nodup_sites_list h)

/-- Listing some issues is the same as listing those of them that are left without the known ones. -/
theorem foldl_list_foldl_list (issues known : List Issue) :
    (issues.foldl list []).foldl list known = issues.foldl list known := by
  -- From the end, so that what is listed so far is the same on both sides.
  induction issues using List.reverseRecOn with
  | nil => rfl
  | append_singleton rest issue ih =>
    rw [List.foldl_append, List.foldl_append, ← ih, List.foldl_cons, List.foldl_nil,
      List.foldl_cons, List.foldl_nil]
    by_cases hknown : issue.site ∈ (rest.foldl list []).map Issue.site
    · have hlisted : issue.site ∈ ((rest.foldl list []).foldl list known).map Issue.site :=
        mem_sites_foldl_list.mpr (.inr hknown)
      rw [list_eq (rest.foldl list []), if_pos hknown, list_eq, if_pos hlisted]
    · rw [list_eq (rest.foldl list []), if_neg hknown, List.foldl_append]
      rfl

end Report

/-- The number of issues whose sort has a name, if there are any. -/
def tally (issues : List Issue) (name : String) : Option Nat :=
  if issues.countP (·.code.name == name) = 0 then none
  else some (issues.countP (·.code.name == name))

/-- Counts of two stretches are added. -/
theorem tally_append (first second : List Issue) (name : String) :
    tally (first ++ second) name =
      Option.merge (· + ·) (tally first name) (tally second name) := by
  unfold tally
  rw [List.countP_append]
  by_cases hfirst : first.countP (·.code.name == name) = 0 <;>
    by_cases hsecond : second.countP (·.code.name == name) = 0 <;>
      simp [hfirst, hsecond]

theorem tally_singleton (issue : Issue) (name : String) :
    tally [issue] name = if name = issue.code.name then some 1 else none := by
  unfold tally
  by_cases hname : issue.code.name = name
  · simp [hname]
  · simp [hname, Ne.symm hname]

/-- The tally of a name counts the issues with that code. -/
theorem getD_tally (issues : List Issue) (name : String) :
    (tally issues name).getD 0 = issues.countP (·.code.name == name) := by
  unfold tally
  split
  · rename_i hzero
    exact hzero.symm
  · rfl

namespace Ledger

/-- The ledger of a run that has not begun. -/
def start (seed : UInt64) : Ledger := ⟨.start seed, ∅⟩

/-- Lists an issue unless its site has been seen. -/
def list (ledger : Ledger) (issue : Issue) : Ledger :=
  if issue.site ∈ ledger.seen then ledger
  else {
    report := { ledger.report with issues := ledger.report.issues ++ [issue] }
    seen := insert issue.site ledger.seen }

/-- Records an occurrence of an issue. -/
def record (ledger : Ledger) (issue : Issue) : Ledger :=
  list { ledger with
    report := { ledger.report with
      counts := ledger.report.counts.insertWith (· + ·) issue.code.name 1 } } issue

/-- Joins the ledger of another run; the seed stays. -/
def absorb (ledger other : Ledger) : Ledger :=
  other.report.issues.foldl list { ledger with
    report := { ledger.report with
      nodesGenerated := ledger.report.nodesGenerated + other.report.nodesGenerated
      maxDepthReached := max ledger.report.maxDepthReached other.report.maxDepthReached
      counts := .unionWith (· + ·) ledger.report.counts other.report.counts } }

/-- A ledger after some more issues. -/
def recordAll (ledger : Ledger) (issues : List Issue) : Ledger := issues.foldl record ledger

variable {ledger other : Ledger} {issue : Issue} {issues events : List Issue}

/-! ### The sites and the issues -/

/-- The sites are those of the issues. -/
def Indexed (ledger : Ledger) : Prop :=
  ∀ site, site ∈ ledger.seen ↔ site ∈ ledger.report.issues.map Issue.site

/-- To look an issue up among the sites is to search the issues. -/
theorem Indexed.report_list (h : ledger.Indexed) (issue : Issue) :
    (ledger.list issue).report =
      { ledger.report with issues := Report.list ledger.report.issues issue } := by
  unfold list
  rw [Report.list_eq]
  by_cases hseen : issue.site ∈ ledger.seen
  · rw [if_pos hseen, if_pos ((h _).mp hseen)]
  · rw [if_neg hseen, if_neg fun hlisted => hseen ((h _).mpr hlisted)]

/-- Listing an issue keeps the set of places in step with the list. -/
theorem Indexed.list (h : ledger.Indexed) (issue : Issue) : (ledger.list issue).Indexed := by
  intro site
  rw [h.report_list, Report.mem_sites_list, ← h site]
  unfold Ledger.list
  split
  · rename_i hseen
    exact ⟨.inl, fun hsite => hsite.elim id fun heq => heq ▸ hseen⟩
  · rw [Finset.mem_insert, or_comm]

theorem Indexed.foldl_list (h : ledger.Indexed) (issues : List Issue) :
    (issues.foldl Ledger.list ledger).Indexed ∧
      (issues.foldl Ledger.list ledger).report =
        { ledger.report with issues := issues.foldl Report.list ledger.report.issues } := by
  induction issues generalizing ledger with
  | nil => exact ⟨h, rfl⟩
  | cons issue rest ih =>
    obtain ⟨hindexed, hreport⟩ := ih (h.list issue)
    rw [h.report_list] at hreport
    exact ⟨hindexed, hreport⟩

/-- Counting does not touch the issues. -/
theorem Indexed.withReport (h : ledger.Indexed) {report : Report}
    (hissues : report.issues = ledger.report.issues) : Indexed { ledger with report } := by
  intro site
  rw [hissues]
  exact h site

/-- Recording by means of the set is recording by means of the list. -/
theorem Indexed.report_record (h : ledger.Indexed) (issue : Issue) :
    (ledger.record issue).report =
      ledger.report.record issue.code issue.path issue.message :=
  Indexed.report_list (h.withReport (by rfl)) issue

/-- Absorbing by means of the set is absorbing by means of the list. -/
theorem Indexed.report_absorb (h : ledger.Indexed) (other : Ledger) :
    (ledger.absorb other).report = ledger.report.absorb other.report :=
  (Indexed.foldl_list (h.withReport (by rfl)) _).2

/-! ### What a ledger tells -/

/-- A ledger tells of some issues: how often each sort occurred, the first issue of each site, and the
sites. -/
structure Tells (ledger : Ledger) (events : List Issue) : Prop where
  counts : ∀ name, ledger.report.counts.get? name = tally events name
  issues : ledger.report.issues = events.foldl Report.list []
  indexed : ledger.Indexed

theorem tells_start (seed : UInt64) : (start seed).Tells [] :=
  ⟨fun _ => rfl, rfl, fun _ => by simp [start, Report.start]⟩

/-- After one more issue the ledger tells of it too. -/
theorem Tells.record (h : ledger.Tells events) (issue : Issue) :
    (ledger.record issue).Tells (events ++ [issue]) where
  counts name := by
    rw [h.indexed.report_record, tally_append, tally_singleton, ← h.counts name]
    show (NameTable.insertWith _ _ _ _).get? name = _
    rw [NameTable.get?_insertWith]
    split
    · rename_i hname
      rw [hname]
    · cases ledger.report.counts.get? name <;> rfl
  issues := by
    rw [h.indexed.report_record, List.foldl_append, ← h.issues]
    rfl
  indexed := (h.indexed.withReport (by rfl)).list issue

/-- A ledger that has absorbed another tells of the issues of both. -/
theorem Tells.absorb {others : List Issue} (h : ledger.Tells events) (ho : other.Tells others) :
    (ledger.absorb other).Tells (events ++ others) where
  counts name := by
    rw [h.indexed.report_absorb, tally_append, ← h.counts name, ← ho.counts name]
    exact NameTable.get?_unionWith
  issues := by
    rw [h.indexed.report_absorb, List.foldl_append, ← h.issues, ← Report.foldl_list_foldl_list,
      ← ho.issues]
    rfl
  indexed := (Indexed.foldl_list (h.indexed.withReport (by rfl)) _).1

theorem Tells.recordAll (h : ledger.Tells events) (issues : List Issue) :
    (ledger.recordAll issues).Tells (events ++ issues) := by
  induction issues generalizing ledger events with
  | nil => rwa [List.append_nil]
  | cons issue rest ih =>
    rw [List.append_cons]
    exact ih (h.record issue)

/-- Two ledgers have the same counts, issues and sites. -/
structure Agrees (ledger other : Ledger) : Prop where
  counts : ledger.report.counts = other.report.counts
  issues : ledger.report.issues = other.report.issues
  seen : ledger.seen = other.seen

/-- Two ledgers that tell of the same issues agree. -/
theorem Tells.agrees (h : ledger.Tells events) (ho : other.Tells events) : ledger.Agrees other where
  counts := NameTable.ext_get? fun name => (h.counts name).trans (ho.counts name).symm
  issues := h.issues.trans ho.issues.symm
  seen := by
    ext site
    rw [h.indexed site, ho.indexed site, h.issues, ho.issues]

/-- The counts, the issues and the sites of a ledger are in step. -/
structure Coherent (ledger : Ledger) : Prop where
  /-- No site is listed twice. -/
  nodup : (ledger.report.issues.map Issue.site).Nodup
  seen : ∀ site, site ∈ ledger.seen ↔ ∃ issue ∈ ledger.report.issues, issue.site = site
  counted : ∀ code, ledger.report.count code ≠ 0 ↔
    ∃ issue ∈ ledger.report.issues, issue.code = code

/-- What a ledger tells of makes its three views agree. -/
theorem Tells.coherent (h : ledger.Tells events) : ledger.Coherent where
  nodup := by
    rw [h.issues]
    exact Report.nodup_sites_foldl_list List.nodup_nil
  seen site := by
    rw [h.indexed site]
    exact List.mem_map
  counted code := by
    have hcount : ledger.report.count code = events.countP (·.code.name == code.name) := by
      rw [Report.count, h.counts, getD_tally]
    have hsites (issue : Issue) :
        issue.site ∈ ledger.report.issues.map Issue.site ↔ issue.site ∈ events.map Issue.site := by
      rw [h.issues, Report.mem_sites_foldl_list, List.map_nil, or_iff_right List.not_mem_nil]
    rw [hcount, ← Nat.pos_iff_ne_zero, List.countP_pos_iff]
    -- An issue need not be listed with its own message, but one is at its site.
    constructor
    · intro hevent
      obtain ⟨event, hevent, hname⟩ := hevent
      obtain ⟨issue, hissue, hsite⟩ :=
        List.mem_map.mp ((hsites event).mpr (List.mem_map_of_mem hevent))
      have hcode : event.code = code := IssueCode.name_injective (beq_iff_eq.mp hname)
      exact ⟨issue, hissue, (congrArg Prod.fst hsite).trans hcode⟩
    · intro hissue
      obtain ⟨issue, hissue, rfl⟩ := hissue
      obtain ⟨event, hevent, hsite⟩ :=
        List.mem_map.mp ((hsites issue).mp (List.mem_map_of_mem hissue))
      have hcode : event.code = issue.code := congrArg Prod.fst hsite
      exact ⟨event, hevent, beq_iff_eq.mpr (congrArg IssueCode.name hcode)⟩

end Ledger

/-! ### Histories -/

namespace History

/-- The issues that were recorded, in order. -/
def events : History → List Issue
  | start _ => []
  | record history issue => history.events ++ [issue]
  | absorb history other => history.events ++ other.events

/-- The ledger that comes about. -/
def ledger : History → Ledger
  | start seed => .start seed
  | record history issue => history.ledger.record issue
  | absorb history other => history.ledger.absorb other.ledger

/-- The report that comes about without a record of the sites. -/
def report : History → Report
  | start seed => .start seed
  | record history issue => history.report.record issue.code issue.path issue.message
  | absorb history other => history.report.absorb other.report

/-- However a ledger comes about, it tells of the issues that were recorded. -/
theorem tells_ledger (history : History) : history.ledger.Tells history.events := by
  induction history with
  | start seed => exact Ledger.tells_start seed
  | record history issue ih => exact ih.record issue
  | absorb history other ih iho => exact ih.absorb iho

/-- The ledger of a history has the report of that history. -/
theorem report_ledger (history : History) : history.ledger.report = history.report := by
  induction history with
  | start seed => rfl
  | record history issue ih =>
    exact (history.tells_ledger.indexed.report_record issue).trans (by rw [ih]; rfl)
  | absorb history other ih iho =>
    exact (history.tells_ledger.indexed.report_absorb other.ledger).trans (by rw [ih, iho]; rfl)

end History

namespace Ledger

/-- **Absorbing is recording.** To absorb the ledger of some issues is the same as to record these
issues, as far as counts, issues and sites go. However a ledger comes about, it agrees with the one in
which the same issues are recorded one by one, its counts, issues and sites are in step, and its report
is the one without a record of the sites. -/
theorem absorb_recordAll :
    (∀ (seed other : UInt64) (first second : List Issue),
      (((start seed).recordAll first).absorb ((start other).recordAll second)).Agrees
        ((start seed).recordAll (first ++ second))) ∧
    ∀ (history : History) (seed : UInt64),
      history.ledger.Agrees ((start seed).recordAll history.events) ∧ history.ledger.Coherent ∧
        history.ledger.report = history.report := by
  refine ⟨fun seed other first second => ?_, fun history seed => ⟨?_, ?_, ?_⟩⟩
  · have hfirst := (tells_start seed).recordAll first
    have hsecond := (tells_start other).recordAll second
    have hwhole := (tells_start seed).recordAll (first ++ second)
    exact (hfirst.absorb hsecond).agrees hwhole
  · exact history.tells_ledger.agrees ((tells_start seed).recordAll history.events)
  · exact history.tells_ledger.coherent
  · exact history.report_ledger

end Ledger

end Specimen
