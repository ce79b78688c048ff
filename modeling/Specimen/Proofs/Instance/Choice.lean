import Specimen.Proofs.Instance.Failure
import Specimen.Proofs.Instance.Keys

/-!
# Specimen.Proofs.Instance.Choice

What choosing names comes to, whatever is drawn (`outcome_of_chooseNames`): names that an object may
have together (`IsPermitted`), or a failure for one of two reasons (`ChoiceFails`).

No step in between gives up a name that another one requires, and the number of names is compared
with the limit after each step. So names are only missing for want of room where those that cannot be
left out take more of it than there is.
-/

namespace Specimen.Instance

open NameSet (Closed IsClosure addMissing closure dependents missing)

variable {σ : Type} {set : Constraints} {forced chosen : NameSet}
variable {probability : Double} {failure : Failure}

/-- Names that an object may have together: the required ones are among them, each has all that it
requires, and there are no more of them than there may be properties. -/
structure IsPermitted (set : Constraints) (names : NameSet) : Prop where
  required : ∀ name ∈ set.required, name ∈ names
  closed : Closed set.dependentRequired names
  room : ∀ limit ∈ set.maxProperties, names.size ≤ limit

/-- Why no names are chosen. -/
inductive ChoiceFails (set : Constraints) (probability : Double) : Failure → Prop where
  /-- The names that cannot be left out are more than there may be properties. -/
  | crowded {limit : Nat} (hlimit : set.maxProperties = some limit) (forced : NameSet)
      (hforced : forced = closure set.dependentRequired set.required) (hsize : limit < forced.size) :
    ChoiceFails set probability (.schema (.unsatisfiable set.pointer
      s!"{forced.size} required properties (with dependencies) exceed maxProperties {limit}"))
  /-- Optional names are to be drawn with what is no probability. -/
  | improper (h : ¬(Double.zero ≤ probability ∧ probability ≤ Double.ofNat 1)) :
    ChoiceFails set probability (.fault .notProbability)

/-- With a probability, only the schema is at fault. -/
theorem ChoiceFails.isExcused {faults : Random.Fault → Prop} (h : ChoiceFails set probability failure)
    (hp : Double.zero ≤ probability ∧ probability ≤ Double.ofNat 1) :
    failure.IsExcused faults := by
  cases h with
  | crowded => trivial
  | improper himproper => exact absurd hp himproper

variable [Random.Source σ]

theorem failsOnly_drawNames (probability : Double) (optional : List String) (chosen : NameSet) :
    FailsOnly (drawNames probability optional chosen : Random.Draw σ NameSet) fun fault =>
      fault = .notProbability ∧ ¬(Double.zero ≤ probability ∧ probability ≤ Double.ofNat 1) := by
  induction optional generalizing chosen with
  | nil => exact failsOnly_pure _
  | cons name rest ih => exact (Random.failsOnly_chance probability).bind fun isChosen => ih _

theorem failsOnly_reduceNames (probability : Double)
    (hforced : forced = closure set.dependentRequired set.required) :
    FailsOnly (reduceNames set forced chosen : Attempt σ NameSet)
      (ChoiceFails set probability) := by
  have hshuffle (names : List String) :
      FailsOnly (Attempt.draw (Random.shuffle names) : Attempt σ (List String))
        (ChoiceFails set probability) :=
    failsOnly_attemptDraw_of_total (Random.total_shuffle names)
  unfold reduceNames
  split
  · exact failsOnly_pure _
  · rename_i limit hlimit
    split
    · rename_i hsize
      refine (failsOnly_throw ?_).bind fun _ => (hshuffle _).bind fun _ => failsOnly_pure _
      exact .crowded hlimit forced hforced hsize
    · exact (hshuffle _).bind fun _ => failsOnly_pure _

theorem total_extendNames (optional : List String) (chosen : NameSet) :
    Total (extendNames set optional chosen : Attempt σ NameSet) := by
  unfold extendNames
  split
  · exact failsOnly_pure _
  · exact (failsOnly_attemptDraw_of_total (Random.total_shuffle _)).bind fun _ => failsOnly_pure _

theorem failsOnly_chooseNames (document : Document) (set : Constraints) (probability : Double) :
    FailsOnly (chooseNames document set probability : Attempt σ NameSet)
      (ChoiceFails set probability) := by
  have hdraw (optional : List String) (chosen : NameSet) :
      FailsOnly (Attempt.draw (drawNames probability optional chosen) : Attempt σ NameSet)
        (ChoiceFails set probability) := by
    refine failsOnly_attemptDraw (failsOnly_drawNames probability optional chosen) ?_
    rintro fault ⟨rfl, hp⟩
    exact .improper hp
  unfold chooseNames
  refine (hdraw _ _).bind fun drawn => ?_
  refine (failsOnly_reduceNames probability rfl).bind fun chosen => ?_
  exact (total_extendNames _ chosen).failsOnly

/-- Names are always chosen where there may be as many as have to be there. -/
theorem total_chooseNames (document : Document)
    (hp : Double.zero ≤ probability ∧ probability ≤ Double.ofNat 1)
    (h : ∀ limit ∈ set.maxProperties, (closure set.dependentRequired set.required).size ≤ limit) :
    Total (chooseNames document set probability : Attempt σ NameSet) := by
  refine (failsOnly_chooseNames document set probability).mono fun failure hfails => ?_
  cases hfails with
  | crowded hlimit forced hforced hsize =>
    subst hforced
    exact Nat.not_lt_of_le (h _ hlimit) hsize
  | improper himproper => exact himproper hp

theorem yields_chooseNames_permitted (document : Document) (set : Constraints)
    (probability : Double) :
    Yields (chooseNames document set probability : Attempt σ NameSet) (IsPermitted set) := by
  refine ((yields_chooseNames document set probability).and
    (yields_chooseNames_size document set probability)).mono fun names ⟨hchoice, hsize⟩ => ?_
  exact ⟨fun name hname => hchoice.forced name (NameSet.subset_closure hname), hchoice.closed, hsize⟩

/-- **Names that require others, and the choice of names.** The smallest set that has some names with
all that they require is reached in finitely many rounds. Whatever is drawn, the chosen names
are permitted, and none are chosen only if those that cannot be left out are too many, or if optional
ones are to be drawn with what is no probability. -/
theorem outcome_of_chooseNames (document : Document) (set : Constraints) (probability : Double) :
    (∀ names, IsClosure set.dependentRequired names (closure set.dependentRequired names) ∧
      ∃ rounds ≤ (dependents set.dependentRequired).length,
        (addMissing set.dependentRequired)^[rounds] names = closure set.dependentRequired names ∧
          missing set.dependentRequired (closure set.dependentRequired names) = []) ∧
    ∀ source : σ,
      (∃ names, (chooseNames document set probability source).1 = .ok names ∧
        IsPermitted set names) ∨
      ∃ failure, (chooseNames document set probability source).1 = .error failure ∧
        ChoiceFails set probability failure := by
  refine ⟨fun names => ⟨NameSet.isClosure_closure _ _, NameSet.exists_rounds _ _⟩, fun source => ?_⟩
  cases houtcome : (chooseNames document set probability source).1 with
  | ok names =>
    have hpermitted := (yields_chooseNames_permitted document set probability).of_eq_ok houtcome
    exact .inl ⟨names, rfl, hpermitted⟩
  | error failure =>
    have hfails := failsOnly_chooseNames document set probability source failure houtcome
    exact .inr ⟨failure, rfl, hfails⟩

end Specimen.Instance
