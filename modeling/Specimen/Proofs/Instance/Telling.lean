import Specimen.Proofs.Instance.Step
import Specimen.Proofs.Normalization.Origin

/-!
# Specimen.Proofs.Instance.Telling

What a single call tells, apart from what the calls before it and inside it do (`Records`).

A report lists each sort of issue once for a place, whichever call comes first. What a call records
by itself is therefore read off another run of it, in which nothing has been recorded yet and the
calls inside it are mute (`alone`). That run is the same otherwise, since nothing in a run depends
on the recorded issues (`echoing_alone`).
-/

namespace Specimen.Instance

variable {σ : Type}

/-! ### Runs that differ in their issues -/

/-- The same point of two runs, where the second one lists no other issues than the first one. -/
structure Progress.Echoes (progress other : Progress σ) : Prop where
  source : other.source = progress.source
  path : other.path = progress.path
  depth : other.depth = progress.depth
  report : progress.report.Echoes other.report

/-- After fewer issues the second part gives the same as the first one and lists no others; the
first one takes none back. -/
def Echoing (α : Type) (part other : Run σ α) : Prop :=
  ∀ progress echo, progress.Echoes echo →
    (part progress).1 = (other echo).1 ∧ (part progress).2.Echoes (other echo).2 ∧
      ∀ code place, progress.report.Lists code place → (part progress).2.report.Lists code place

theorem congruent_echoing : Congruent (Echoing : (α : Type) → Run σ α → Run σ α → Prop) where
  attempt := by
    intro α attempt progress echo h
    unfold Run.attempt
    rw [h.source]
    exact ⟨rfl, ⟨rfl, h.path, h.depth, h.report⟩, fun _ _ hlists => hlists⟩
  record := by
    intro code node message progress echo h
    exact ⟨rfl, ⟨h.source, h.path, h.depth, h.report.record⟩, fun _ _ hlists => hlists.record⟩
  bind := by
    intro α β part other next following h hn progress echo hecho
    obtain ⟨hsame, hafter, hkeeps⟩ := h progress echo hecho
    rw [bind_apply, bind_apply]
    cases hpart : part progress with
    | mk outcome reached =>
    cases hother : other echo with
    | mk otherOutcome otherReached =>
      rw [hpart] at hsame hafter hkeeps
      rw [hother] at hsame hafter
      obtain rfl : outcome = otherOutcome := hsame
      -- Both parts give the same, so both runs go on in the same way, or neither does.
      cases outcome with
      | error error => exact ⟨rfl, hafter, hkeeps⟩
      | ok a =>
        obtain ⟨hsame, hend, hkeeps'⟩ := hn a reached otherReached hafter
        exact ⟨hsame, hend, fun code place hlists => hkeeps' code place (hkeeps code place hlists)⟩

variable {part other : Run σ Json}

theorem echoing_countNode (budget : Option Nat) :
    Echoing Unit (countNode budget : Run σ Unit) (countNode budget) := by
  have hunlimited : Echoing Unit (countNode none : Run σ Unit) (countNode none) := by
    intro progress echo h
    refine ⟨rfl, ⟨h.source, h.path, h.depth, ?_⟩, fun _ _ hlists => hlists⟩
    exact ⟨h.report.seed, congrArg (· + 1) h.report.nodes, h.report.depth, h.report.lists⟩
  cases budget with
  | none => exact hunlimited
  | some limit =>
    intro progress echo h
    have hecho := hunlimited progress echo h
    rw [countNode_some, countNode_some, h.report.nodes]
    split
    · exact ⟨rfl, hecho.2⟩
    · exact hecho

theorem echoing_normalized (document : Document) (node : Pointer) :
    Echoing Normalization (normalized document node : Run σ Normalization)
      (normalized document node) := by
  intro progress ⟨source, path, depth, report⟩ h
  obtain ⟨rfl, rfl, rfl, hreport⟩ := h
  obtain ⟨hsame, hafter⟩ :=
    Normalization.normalize_echoes hreport document progress.path node
  rw [normalized_eq]
  refine ⟨?_, ⟨rfl, rfl, rfl, hafter⟩, fun code place hlists =>
    Normalization.lists_normalize hlists document progress.path node⟩
  dsimp only
  rw [hsame]

theorem echoing_below (entered : List Pointer) (h : Echoing Json part other) :
    Echoing Json (below entered part) (below entered other) := by
  intro progress echo hecho
  have hdescend : (progress.descend entered).Echoes (echo.descend entered) := by
    refine ⟨hecho.source, congrArg (· ++ entered) hecho.path, congrArg (· + 1) hecho.depth, ?_⟩
    refine ⟨hecho.report.seed, hecho.report.nodes, ?_, hecho.report.lists⟩
    show max echo.report.maxDepthReached (echo.depth + 1) =
      max progress.report.maxDepthReached (progress.depth + 1)
    rw [hecho.report.depth, hecho.depth]
  obtain ⟨hsame, hafter, hkeeps⟩ := h _ _ hdescend
  refine ⟨hsame, ⟨hafter.source, ?_, congrArg (· - 1) hafter.depth, hafter.report⟩, hkeeps⟩
  show (other (echo.descend entered)).2.path.take echo.path.length =
    (part (progress.descend entered)).2.path.take progress.path.length
  rw [hafter.path, hecho.path]

/-! ### Calls by themselves -/

/-- The same point of a run with nothing recorded so far. -/
def Progress.afresh (progress : Progress σ) : Progress σ :=
  { progress with report := { progress.report with counts := ∅, issues := [] } }

/-- Runs a part and takes back the issues that it has recorded. -/
def mute (part : Run σ α) : Run σ α := fun progress =>
  let (result, reached) := part progress
  (result, { reached with
    report :=
      { reached.report with
        counts := progress.report.counts
        issues := progress.report.issues } })

theorem Progress.echoes_afresh (progress : Progress σ) : progress.Echoes progress.afresh where
  source := rfl
  path := rfl
  depth := rfl
  report := ⟨rfl, rfl, rfl, fun _ _ h => by obtain ⟨issue, hissue, -⟩ := h; cases hissue⟩

/-- A mute part lists what was listed before, and that is listed by the other part as well. -/
theorem echoing_mute (h : Echoing Json part other) : Echoing Json part (mute other) := by
  intro progress echo hecho
  obtain ⟨hsame, hafter, hkeeps⟩ := h progress echo hecho
  refine ⟨hsame, ⟨hafter.source, hafter.path, hafter.depth, ?_⟩, hkeeps⟩
  refine ⟨hafter.report.seed, hafter.report.nodes, hafter.report.depth, ?_⟩
  exact fun code place hlists => hkeeps code place (hecho.report.lists code place hlists)

variable [Random.Source σ]

/-- A call in which the calls for the schemas below are mute. -/
def alone (setting : Setting σ) : (room : Nat) → (node : Pointer) → (property : Option String) →
    Run σ Json
  | 0, node, property => value setting 0 node property
  | room + 1, node, property =>
    valueWith setting below (fun node property => mute (value setting room node property)) node
      property

/-- A call by itself records an issue at a schema, and the report of the run lists it. -/
structure Records (setting : Setting σ) (room : Nat) (node : Pointer) (property : Option String)
    (progress : Progress σ) (code : IssueCode) (place : Pointer) : Prop where
  itself : (alone setting room node property progress.afresh).2.report.Lists code place.text
  listed : (value setting room node property progress).2.report.Lists code place.text

variable {setting : Setting σ}

theorem echoing_valueWith {child other : Pointer → Option String → Run σ Json} (node : Pointer)
    (property : Option String)
    (hc : ∀ node property, Echoing Json (child node property) (other node property)) :
    Echoing Json (valueWith setting below child node property)
      (valueWith setting below other node property) :=
  related_valueWith congruent_echoing congruent_echoing node property (echoing_countNode _)
    (echoing_normalized _ _) (fun entered _ _ h => echoing_below entered h) hc

/-- A call does not depend on the issues recorded before it. -/
theorem echoing_value (room : Nat) (node : Pointer) (property : Option String) :
    Echoing Json (value setting room node property) (value setting room node property) := by
  induction room generalizing node property with
  | zero =>
    refine congruent_echoing.bind (echoing_countNode _) fun _ => ?_
    exact congruent_echoing.bind (congruent_echoing.record _ _ _) fun _ =>
      congruent_echoing.pure _
  | succ room ih => exact echoing_valueWith node property ih

/-- **A call by itself.** Without the issues of the calls before it and inside it, a call gives the
same, and what it lists then is listed by the run. -/
theorem echoing_alone (room : Nat) (node : Pointer) (property : Option String) :
    Echoing Json (value setting room node property) (alone setting room node property) := by
  cases room with
  | zero => exact echoing_value 0 node property
  | succ room =>
    exact echoing_valueWith node property fun node property =>
      echoing_mute (echoing_value room node property)

variable {room : Nat} {node place : Pointer} {property : Option String} {progress : Progress σ}
variable {code : IssueCode}

theorem alone_fst : (alone setting room node property progress.afresh).1 =
    (value setting room node property progress).1 :=
  (echoing_alone room node property _ _ progress.echoes_afresh).1.symm

theorem records_of_alone
    (h : (alone setting room node property progress.afresh).2.report.Lists code place.text) :
    Records setting room node property progress code place where
  itself := h
  listed :=
    (echoing_alone room node property _ _ progress.echoes_afresh).2.1.report.lists _ _ h

end Specimen.Instance
