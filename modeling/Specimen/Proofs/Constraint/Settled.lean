import Specimen.Constraint.Settle
import Specimen.Proofs.Constraint.Conjunction

/-!
# Specimen.Proofs.Constraint.Settled

What is known of a settled set of demands.

There are three ways in which demands are settled (`Constraints.settledAs_iff`). A kind that is left
has no reason against it (`Constraints.IsSettledFor.conflict?_eq_none`); and a set of one kind is
settled as it is, unless there is one (`Constraints.finalize_eq_of_single`,
`Constraints.isSettledFor_of_single`). Of listed values those are left that are of the kinds to produce
and not excluded (`Constraints.keeps_iff`).
-/

namespace Specimen.Constraints

variable {raw set : Constraints} {kind : Kind} {value : Json}

/-- Whether there is a reason against a kind does not depend on the kinds. -/
theorem conflict?_with_kinds (set : Constraints) (kinds : KindSet) (kind : Kind) :
    { set with kinds }.conflict? kind = set.conflict? kind := by
  cases kind <;> rfl

/-! ### How demands are settled -/

/-- The candidates that are of the kinds to produce and not excluded. -/
def viable (raw : Constraints) (candidates : List Json) : List Json :=
  candidates.filter fun value =>
    !Json.contains raw.excluded value && raw.effectiveKinds.accepts value

theorem mem_viable_iff {candidates : List Json} : value ∈ raw.viable candidates ↔
    value ∈ candidates ∧ Json.contains raw.excluded value = false ∧
      raw.effectiveKinds.accepts value = true := by
  unfold viable
  rw [List.mem_filter, Bool.and_eq_true, Bool.not_eq_true']

/-- The ways in which a set of demands is settled. -/
inductive SettledAs (raw : Constraints) : Constraints → Prop
  /-- Some candidates are left. -/
  | listed (candidates : List Json) :
      raw.candidates = some candidates → raw.viable candidates ≠ [] →
        SettledAs raw
          { raw with kinds := raw.effectiveKinds, candidates := some (raw.viable candidates) }
  /-- Nothing is known of the kind. -/
  | unknown :
      raw.candidates = none → raw.effectiveKinds.isUnknown = true →
        SettledAs raw { raw with kinds := raw.effectiveKinds }
  /-- Those kinds are left that there is no reason against. -/
  | kinds (left : KindSet) :
      raw.candidates = none → raw.effectiveKinds.isUnknown = false →
        KindSet.filter? (fun kind =>
          raw.effectiveKinds.contains kind && (raw.conflict? kind).isNone) = some left →
        SettledAs raw { raw with kinds := left }

theorem settledAs_iff : raw.SettledAs set ↔ raw.finalize = .ok set := by
  constructor
  · intro h
    unfold finalize
    cases h with
    | listed candidates hlist hviable =>
      simp only [hlist]
      exact if_neg fun hempty => hviable (List.isEmpty_iff.mp hempty)
    | unknown hnone hunknown =>
      simp only [hnone, hunknown]
      rfl
    | kinds left hnone hknown hleft =>
      have hkinds : { raw with kinds := raw.effectiveKinds }.conflict? = raw.conflict? :=
        funext fun kind => conflict?_with_kinds raw _ kind
      dsimp only
      rw [hkinds]
      split
      · rename_i hlist
        cases hnone.symm.trans hlist
      · rw [if_neg (Bool.eq_false_iff.mp hknown), hleft]
  · intro h
    unfold finalize at h
    dsimp only at h
    split at h
    · rename_i candidates hlist
      split at h
      · cases h
      · rename_i hviable
        cases h
        exact .listed candidates hlist fun hnil => hviable (List.isEmpty_iff.mpr hnil)
    · rename_i hnone
      split at h
      · rename_i hunknown
        cases h
        exact .unknown hnone hunknown
      · rename_i hknown
        split at h
        · rename_i left hleft
          cases h
          exact .kinds left hnone (Bool.eq_false_iff.mpr hknown) hleft
        · cases h

/-- A settled set of demands by which values of a kind are made: no candidates are listed, and the
kind is among those that are left. -/
structure IsSettledFor (set : Constraints) (kind : Kind) : Prop where
  settled : ∃ raw : Constraints, raw.finalize = .ok set
  candidates : set.candidates = none
  kind : set.kinds.contains kind = true

theorem IsSettledFor.conflict?_eq_none (h : set.IsSettledFor kind) : set.conflict? kind = none := by
  obtain ⟨⟨raw, hfinal⟩, hcandidates, hkind⟩ := h
  cases settledAs_iff.mpr hfinal with
  | listed candidates hlist => cases hcandidates
  | unknown hnone hunknown =>
    -- Nothing can be held against the unknown kind, which is the only one here.
    have halone := raw.effectiveKinds.unknown_alone
      (by simpa [KindSet.isUnknown, KindSet.contains] using hunknown)
    have hk : kind = .unknown := by simpa [KindSet.contains, halone] using hkind
    rw [hk]
    rfl
  | kinds left hnone hknown hleft =>
    have hmem : kind ∈ left.kinds := by simpa [KindSet.contains] using hkind
    rw [KindSet.kinds_of_filter?_eq_some hleft] at hmem
    have hviable := (List.mem_filter.mp hmem).2
    rw [Bool.and_eq_true, Option.isNone_iff_eq_none] at hviable
    rw [conflict?_with_kinds]
    exact hviable.2

/-- A set of one kind is settled as it is, unless there is a reason against the kind. -/
theorem finalize_eq_of_single (kind : Kind) (hknown : kind ∈ Kind.known) (hkinds : set.kinds = .of [kind])
    (hcandidates : set.candidates = none) :
    set.finalize = match set.conflict? kind with
      | some reason => .error (.unsatisfiable set.pointer reason)
      | none => .ok set := by
  have hlist : set.kinds.kinds = [kind] := by
    rw [hkinds]
    revert hknown
    cases kind <;> decide
  have hknown' : set.kinds.isUnknown = false := by
    unfold KindSet.isUnknown KindSet.contains
    rw [hlist]
    revert hknown
    cases kind <;> decide
  have hsame : { set with kinds := set.effectiveKinds } = set := by simp [effectiveKinds, hknown']
  have hcondition (other : Kind) : (set.kinds.contains other && (set.conflict? other).isNone) =
      (other == kind && (set.conflict? kind).isNone) := by
    unfold KindSet.contains
    rw [hlist]
    by_cases hother : other = kind <;> simp [hother]
  have hfilter (viable : Bool) : KindSet.filter? (fun other => other == kind && viable) =
      if viable then some set.kinds else none := by
    rw [hkinds]
    revert hknown
    cases kind <;> cases viable <;> decide
  have hreasons : set.kinds.kinds.filterMap set.conflict? = (set.conflict? kind).toList := by
    rw [hlist]
    cases h : set.conflict? kind <;> simp [h]
  unfold finalize
  rw [hsame]
  dsimp only
  rw [hcandidates]
  simp only [hcondition]
  rw [hknown', hfilter, hreasons]
  cases set.conflict? kind with
  | some reason => rfl
  | none =>
    show Except.ok { set with candidates := none } = .ok set
    rw [← hcandidates]

theorem isSettledFor_of_single (kind : Kind) (hknown : kind ∈ Kind.known)
    (hkinds : set.kinds = .of [kind]) (hcandidates : set.candidates = none)
    (hnone : set.conflict? kind = none) : set.IsSettledFor kind := by
  have hfinal : set.finalize = .ok set := by
    rw [finalize_eq_of_single kind hknown hkinds hcandidates, hnone]
  refine ⟨⟨set, hfinal⟩, hcandidates, ?_⟩
  rw [hkinds]
  revert hknown
  cases kind <;> decide

/-! ### Listed values -/

/-- A value is left among the candidates when the demands are settled. -/
def Keeps (set : Constraints) (value : Json) : Prop :=
  ∃ settled candidates, set.finalize = .ok settled ∧ settled.candidates = some candidates ∧
    value ∈ candidates

/-- Settling leaves the candidates that are of the kinds to produce and not excluded. -/
theorem keeps_iff : set.Keeps value ↔ ∃ candidates, set.candidates = some candidates ∧
    value ∈ candidates ∧ Json.contains set.excluded value = false ∧
      set.effectiveKinds.accepts value = true := by
  constructor
  · intro h
    obtain ⟨settled, left, hfinal, hleft, hmem⟩ := h
    cases settledAs_iff.mpr hfinal with
    | listed candidates hlist =>
      cases hleft
      exact ⟨candidates, hlist, mem_viable_iff.mp hmem⟩
    | unknown hnone => cases hnone.symm.trans hleft
    | kinds left hnone => cases hnone.symm.trans hleft
  · intro h
    obtain ⟨candidates, hlist, hkept⟩ := h
    have hmem := mem_viable_iff.mpr hkept
    exact ⟨_, _, settledAs_iff.mp (.listed candidates hlist (List.ne_nil_of_mem hmem)), rfl, hmem⟩

theorem not_keeps_of_excluded (h : Json.contains set.excluded value = true) : ¬set.Keeps value := by
  intro hkeeps
  obtain ⟨-, -, -, hfree, -⟩ := keeps_iff.mp hkeeps
  exact Bool.noConfusion (h.symm.trans hfree)

end Specimen.Constraints
