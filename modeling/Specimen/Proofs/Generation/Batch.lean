import Mathlib.Data.List.Basic
import Specimen.Generation
import Specimen.Proofs.Instance.Step
import Specimen.Proofs.Options
import Specimen.Proofs.Report
import Specimen.Proofs.Seed

/-!
# Specimen.Proofs.Generation.Batch

Several values are single runs, one for each of the seeds of the instances
(`Session.generateMany_eq_runs`): they are what these runs give, with one report that joins theirs,
or the failure of the first run that fails.

Both halves follow the loop: `generateFrom_eq_ok_iff` and `generateFrom_eq_error_iff` say what is
left to do from an instance on, whatever has been collected before it.
-/

namespace Specimen.Generation.Session

open Instance (Failure)

variable {session : Session} {document : Document} {node : Pointer}

/-- The single run for an instance of a batch. -/
def instanceRun (session : Session) (document : Document) (node : Pointer) (base : UInt64)
    (index : Nat) : Except Failure (Json × Report) :=
  session.generate document node (Seed.number (Seed.ofInstance base index.toUInt64)).toUInt64

theorem generateFrom_succ (base : UInt64) (values : List Json) (report : Report)
    (index count : Nat) :
    session.generateFrom document node base values report index (count + 1) =
      (session.instanceRun document node base index >>= fun outcome =>
        session.generateFrom document node base (outcome.1 :: values) (report.absorb outcome.2)
          (index + 1) count) := rfl

/-- The runs from an instance on give these outcomes. -/
def Gives (session : Session) (document : Document) (node : Pointer) (base : UInt64) (index : Nat)
    (outcomes : List (Json × Report)) : Prop :=
  ∀ i (h : i < outcomes.length),
    session.instanceRun document node base (index + i) = .ok outcomes[i]

theorem gives_nil (base : UInt64) (index : Nat) :
    session.Gives document node base index [] := fun _ h => absurd h (Nat.not_lt_zero _)

theorem gives_cons {base : UInt64} {index : Nat} {outcome : Json × Report}
    {outcomes : List (Json × Report)} :
    session.Gives document node base index (outcome :: outcomes) ↔
      session.instanceRun document node base index = .ok outcome ∧
        session.Gives document node base (index + 1) outcomes := by
  constructor
  · intro h
    refine ⟨h 0 (Nat.zero_lt_succ _), fun i hi => ?_⟩
    rw [Nat.add_right_comm]
    exact h (i + 1) (Nat.succ_lt_succ hi)
  · rintro ⟨hfirst, hrest⟩ i hi
    cases i with
    | zero => exact hfirst
    | succ i =>
      have := hrest i (Nat.lt_of_succ_lt_succ hi)
      rwa [Nat.add_right_comm] at this

/-- What is left of a batch succeeds when its runs do. -/
theorem generateFrom_eq_ok_iff {base : UInt64} {values found : List Json}
    {report joined : Report} {index count : Nat} :
    session.generateFrom document node base values report index count = .ok (found, joined) ↔
      ∃ outcomes : List (Json × Report), outcomes.length = count ∧
        session.Gives document node base index outcomes ∧
        found = values.reverse ++ outcomes.map (·.1) ∧
        joined = (outcomes.map (·.2)).foldl Report.absorb report := by
  induction count generalizing values report index with
  | zero =>
    constructor
    · intro h
      cases h
      exact ⟨[], rfl, gives_nil base index, (List.append_nil _).symm, rfl⟩
    · rintro ⟨outcomes, hlength, -, rfl, rfl⟩
      rw [List.length_eq_zero_iff.mp hlength, List.map_nil, List.append_nil]
      rfl
  | succ count ih =>
    rw [generateFrom_succ]
    constructor
    · intro h
      cases hrun : session.instanceRun document node base index with
      | error failure => rw [hrun] at h; cases h
      | ok outcome =>
        rw [hrun] at h
        obtain ⟨outcomes, hlength, hgives, hfound, hjoined⟩ := ih.mp h
        refine ⟨outcome :: outcomes, congrArg (· + 1) hlength, gives_cons.mpr ⟨hrun, hgives⟩, ?_,
          hjoined⟩
        rw [hfound, List.reverse_cons, List.append_assoc, List.singleton_append, List.map_cons]
    · rintro ⟨outcomes, hlength, hgives, hfound, hjoined⟩
      cases outcomes with
      | nil => cases hlength
      | cons outcome outcomes =>
        obtain ⟨hrun, hgives⟩ := gives_cons.mp hgives
        rw [hrun]
        refine ih.mpr ⟨outcomes, Nat.succ.inj hlength, hgives, ?_, hjoined⟩
        rw [hfound, List.reverse_cons, List.append_assoc, List.singleton_append, List.map_cons]

/-- What is left of a batch fails as the first of its runs that fails. -/
theorem generateFrom_eq_error_iff {base : UInt64} {values : List Json} {report : Report}
    {index count : Nat} {failure : Failure} :
    session.generateFrom document node base values report index count = .error failure ↔
      ∃ i < count, session.instanceRun document node base (index + i) = .error failure ∧
        ∀ j < i, ∃ outcome, session.instanceRun document node base (index + j) = .ok outcome := by
  induction count generalizing values report index with
  | zero =>
    constructor
    · intro h
      cases h
    · rintro ⟨i, hi, -⟩
      exact absurd hi (Nat.not_lt_zero i)
  | succ count ih =>
    rw [generateFrom_succ]
    cases hrun : session.instanceRun document node base index with
    | error first =>
      constructor
      · intro h
        cases h
        exact ⟨0, Nat.zero_lt_succ count, hrun, fun j hj => absurd hj (Nat.not_lt_zero j)⟩
      · rintro ⟨i, -, hi, hbefore⟩
        cases i with
        | zero =>
          cases hrun.symm.trans hi
          rfl
        | succ i =>
          obtain ⟨outcome, hok⟩ := hbefore 0 (Nat.zero_lt_succ i)
          cases hrun.symm.trans hok
    | ok outcome =>
      refine ih.trans ⟨?_, ?_⟩
      · rintro ⟨i, hi, hfail, hbefore⟩
        rw [Nat.add_right_comm] at hfail
        refine ⟨i + 1, Nat.succ_lt_succ hi, hfail, fun j hj => ?_⟩
        cases j with
        | zero => exact ⟨outcome, hrun⟩
        | succ j =>
          have := hbefore j (Nat.lt_of_succ_lt_succ hj)
          rwa [Nat.add_right_comm] at this
      · rintro ⟨i, hi, hfail, hbefore⟩
        cases i with
        | zero => cases hrun.symm.trans hfail
        | succ i =>
          refine ⟨i, Nat.lt_of_succ_lt_succ hi, ?_, fun j hj => ?_⟩
          · rw [Nat.add_right_comm]
            exact hfail
          · rw [Nat.add_right_comm]
            exact hbefore (j + 1) (Nat.succ_lt_succ hj)

/-- A batch succeeds with the values of its runs and the report that joins theirs. -/
theorem generateMany_eq_ok_iff {base : UInt64} {count : Nat} {values : List Json}
    {report : Report} :
    session.generateMany document node base count = .ok (values, report) ↔
      ∃ outcomes : List (Json × Report), outcomes.length = count ∧
        (∀ i (h : i < outcomes.length),
          session.instanceRun document node base i = .ok outcomes[i]) ∧
        values = outcomes.map (·.1) ∧ report.seed = base ∧
        report.Joins (outcomes.map (·.2)) := by
  refine generateFrom_eq_ok_iff.trans (exists_congr fun outcomes => and_congr_right fun _ => ?_)
  have hjoins := (Report.joins_start base).foldl_absorb (outcomes.map (·.2))
  have hseed := Report.seed_foldl_absorb (Report.start base) (outcomes.map (·.2))
  rw [List.nil_append] at hjoins
  unfold Gives
  simp only [Nat.zero_add, List.reverse_nil, List.nil_append]
  refine and_congr_right fun _ => and_congr_right fun _ => ⟨?_, ?_⟩
  · rintro rfl
    exact ⟨hseed, hjoins⟩
  · rintro ⟨hs, hj⟩
    exact hj.eq hjoins (hs.trans hseed.symm)

/-- A batch fails as the first of its runs that fails. -/
theorem generateMany_eq_error_iff {base : UInt64} {count : Nat} {failure : Failure} :
    session.generateMany document node base count = .error failure ↔
      ∃ i < count, session.instanceRun document node base i = .error failure ∧
        ∀ j < i, ∃ outcome, session.instanceRun document node base j = .ok outcome := by
  have hleft := @generateFrom_eq_error_iff session document node base [] (Report.start base) 0 count
    failure
  simp only [Nat.zero_add] at hleft
  exact hleft

/-- **A batch is its single runs.** It succeeds when the run for the seed of every instance does,
and then gives their values, in order, and one report: the values counted by all of them, the
greatest of their depths, how often each sort of issue occurred in all of them, and the first issue
of each sort at each place. Otherwise it fails as the first run that fails. -/
theorem generateMany_eq_runs (session : Session) (document : Document) (node : Pointer)
    (base : Seed) (count : Nat) :
    ((∃ outcome, session.generateMany document node base.toUInt64 count = .ok outcome) ↔
      ∀ i < count, ∃ outcome, session.instanceRun document node base.toUInt64 i = .ok outcome) ∧
    (∀ failure, session.generateMany document node base.toUInt64 count = .error failure ↔
      ∃ i < count, session.instanceRun document node base.toUInt64 i = .error failure ∧
        ∀ j < i, ∃ outcome, session.instanceRun document node base.toUInt64 j = .ok outcome) ∧
    ∀ values report,
      session.generateMany document node base.toUInt64 count = .ok (values, report) ↔
        ∃ outcomes : List (Json × Report), outcomes.length = count ∧
          (∀ i (h : i < outcomes.length),
            session.instanceRun document node base.toUInt64 i = .ok outcomes[i]) ∧
          values = outcomes.map (·.1) ∧ report.seed = base.toUInt64 ∧
          report.Joins (outcomes.map (·.2)) := by
  refine ⟨⟨?_, ?_⟩, fun _ => generateMany_eq_error_iff, fun _ _ => generateMany_eq_ok_iff⟩
  · rintro ⟨⟨values, report⟩, h⟩ i hi
    obtain ⟨outcomes, hlength, hgives, -⟩ := generateMany_eq_ok_iff.mp h
    exact ⟨_, hgives i (hlength ▸ hi)⟩
  · intro hruns
    cases hmany : session.generateMany document node base.toUInt64 count with
    | ok outcome => exact ⟨outcome, rfl⟩
    | error failure =>
      obtain ⟨i, hi, hfail, -⟩ := generateMany_eq_error_iff.mp hmany
      obtain ⟨outcome, hok⟩ := hruns i hi
      cases hfail.symm.trans hok

/-! ### A batch with one issue -/

section Advisory

/-- A session with the options of the library. -/
def plain : Session :=
  ⟨.default, Provider.bundled default, .bundled,
    Options.validate_eq_ok_iff.mpr Options.isValid_default⟩

/-- A schema whose only keyword is not evaluated. -/
def conditional : Document := .ofJson (.object [("if", .bool true)])

/-- What is recorded of it. -/
def advisory : Issue :=
  ⟨.ifAdvisory, "`if` is not evaluated; `then` is applied and `else` ignored", "#"⟩

theorem instanceRun_conditional :
    ∀ index < 2, ∃ outcome, plain.instanceRun conditional .root 7 index = .ok outcome ∧
      outcome.2.nodesGenerated = 1 ∧ outcome.2.issues = [advisory] := by
  have hruns : ∀ index < 2, (plain.instanceRun conditional .root 7 index).toOption.map
      (fun outcome => (outcome.2.nodesGenerated, outcome.2.issues)) = some (1, [advisory]) := by
    have hroot (path : List Pointer) :=
      Normalization.alternatives.eq_1 conditional path [] .root
    have hdepth : plain.options.maxDepth = 24 + 1 := rfl
    simp only [instanceRun, generate, run, finish, hdepth, Instance.value_succ, Instance.valueWith,
      Instance.normalized_eq, Normalization.normalize, Normalization.demandsOn,
      Normalization.settledDemands, hroot]
    decide +kernel
  intro index hindex
  obtain ⟨outcome, hrun, hreport⟩ := Option.map_eq_some_iff.mp (hruns index hindex)
  obtain ⟨hnodes, hissues⟩ := Prod.mk.inj hreport
  exact ⟨outcome, eq_ok_of_toOption hrun, hnodes, hissues⟩

/-- Two runs with the same issue make a batch with one issue. -/
theorem generateMany_eq_runs_conditional :
    (∀ index < 2, ∃ outcome, plain.instanceRun conditional .root 7 index = .ok outcome) ∧
      ∃ values report,
        plain.generateMany conditional .root (Seed.number 7).toUInt64 2 = .ok (values, report) ∧
          values.length = 2 ∧ report.nodesGenerated = 2 ∧ report.issues = [advisory] := by
  have hruns (index : Nat) (h : index < 2) :
      ∃ outcome, plain.instanceRun conditional .root 7 index = .ok outcome := by
    obtain ⟨outcome, hrun, -⟩ := instanceRun_conditional index h
    exact ⟨outcome, hrun⟩
  obtain ⟨hok, -, hbatch⟩ := generateMany_eq_runs plain conditional .root (.number 7) 2
  obtain ⟨⟨values, report⟩, h⟩ := hok.mpr hruns
  refine ⟨hruns, values, report, h, ?_⟩
  obtain ⟨outcomes, hlength, hgives, rfl, -, hjoins⟩ := (hbatch values report).mp h
  obtain ⟨first, second, rfl⟩ := List.length_eq_two.mp hlength
  obtain ⟨_, hfirst, hn, hi⟩ := instanceRun_conditional 0 (by decide)
  obtain ⟨_, hsecond, hn', hi'⟩ := instanceRun_conditional 1 (by decide)
  have hgive : plain.instanceRun conditional .root 7 0 = .ok first := hgives 0 (by simp)
  have hgive' : plain.instanceRun conditional .root 7 1 = .ok second := hgives 1 (by simp)
  cases hfirst.symm.trans hgive
  cases hsecond.symm.trans hgive'
  refine ⟨rfl, ?_, ?_⟩
  · rw [hjoins.nodes]
    simp [hn, hn']
  · rw [hjoins.issues]
    simp only [List.map_cons, List.map_nil, List.flatMap_cons, List.flatMap_nil, hi, hi']
    decide

end Advisory

end Specimen.Generation.Session
