import Specimen.Instance.Number
import Specimen.Proofs.Double.Order
import Specimen.Proofs.Instance.Failure

/-!
# Specimen.Proofs.Instance.Number

Integers and numbers are drawn from ranges that hold one.

Every span that is computed from the bounds has its ends in order, or else the schema is
unsatisfiable. For the factors of a step of numbers that takes an argument: the ends are doubles, one
of them may be `nan`, and both are moved into the 64-bit range (`numberFactorSpan_le`).
-/

namespace Specimen.Instance

variable {σ : Type} {set : Constraints}

/-! ### Spans -/

theorem toInt64_range (value : Double) :
    Constraints.minInteger ≤ value.toInt64 ∧ value.toInt64 ≤ Constraints.maxInteger :=
  ⟨Double.le_toIntClamped (by decide) (by decide), Double.toIntClamped_le (by decide) (by decide)⟩

theorem toInt64_minInteger : (Double.ofInt Constraints.minInteger).toInt64 = Constraints.minInteger := by
  decide +kernel

theorem toInt64_maxInteger : (Double.ofInt Constraints.maxInteger).toInt64 = Constraints.maxInteger := by
  decide +kernel

theorem numberFactorSpan_le {lo hi step : Double} {span : Int × Int}
    (h : numberFactorSpan set lo hi step = .ok span) : span.1 ≤ span.2 := by
  unfold numberFactorSpan at h
  dsimp only at h
  split at h
  · cases h
  rename_i hordered
  cases h
  generalize (lo / step).ceil = least at hordered ⊢
  generalize (hi / step).floor = greatest at hordered ⊢
  dsimp only
  -- Where an end is `nan` or is moved, it is the end of the 64-bit range.
  have hleast : (least.max (.ofInt Constraints.minInteger)).toInt64 = Constraints.minInteger ∨
      least.isNaN = false ∧ least.max (.ofInt Constraints.minInteger) = least := by
    unfold Double.max
    split
    · exact .inl toInt64_minInteger
    · rename_i hnan
      split
      · exact .inr ⟨by simpa using hnan, rfl⟩
      · split
        · exact .inl toInt64_minInteger
        · exact .inr ⟨by simpa using hnan, rfl⟩
  have hgreatest : (greatest.min (.ofInt Constraints.maxInteger)).toInt64 = Constraints.maxInteger ∨
      greatest.isNaN = false ∧ greatest.min (.ofInt Constraints.maxInteger) = greatest := by
    unfold Double.min
    split
    · exact .inl toInt64_maxInteger
    · rename_i hnan
      split
      · exact .inr ⟨by simpa using hnan, rfl⟩
      · split
        · exact .inl toInt64_maxInteger
        · exact .inr ⟨by simpa using hnan, rfl⟩
  rcases hleast with hleast | ⟨hnan, hleast⟩
  · rw [hleast]
    exact (toInt64_range _).1
  · rcases hgreatest with hgreatest | ⟨hnan', hgreatest⟩
    · rw [hgreatest]
      exact (toInt64_range _).2
    · rw [hleast, hgreatest]
      exact Double.toInt64_le_toInt64 hnan hnan' (Double.scaled_le_of_not_lt hnan hnan' hordered)

/-! ### Draws -/

variable [Random.Source σ] {faults : Random.Fault → Prop}

theorem total_drawMultiple (accept : Int → Option Int) {least greatest : Int}
    (h : least ≤ greatest) (attempts : Nat) :
    Total (drawMultiple accept least greatest attempts : Random.Draw σ (Option Int)) := by
  induction attempts with
  | zero => exact failsOnly_pure _
  | succ attempts ih =>
    unfold drawMultiple
    refine (Random.total_wideInteger h).bind fun factor => ?_
    split
    · exact failsOnly_pure _
    · exact ih

theorem total_between (lo hi : Double) : Total (between lo hi : Random.Draw σ Double) := by
  unfold between
  split
  · exact failsOnly_pure _
  · exact Random.total_unit.bind fun _ => failsOnly_pure _

theorem failsOnly_number (set : Constraints) (fallback : Double × Double) :
    FailsOnly (number set fallback : Attempt σ Double) (Failure.IsExcused faults) := by
  have hfinite (value : Double) :
      FailsOnly (do
        if value.isFinite then return value
        throw (.schema (.invalidSchema set.pointer
          s!"bounds produce a non-finite number {value.plainText}")) : Attempt σ Double)
        (Failure.IsExcused faults) := by
    split
    · exact failsOnly_pure _
    · exact failsOnly_throw trivial
  unfold number
  refine (failsOnly_attemptCheck _).bind fun (lo, hi) => ?_
  dsimp only
  split
  · exact (failsOnly_attemptDraw_of_total (total_between lo hi)).bind hfinite
  · refine (failsOnly_attemptCheck _).bind_of (yields_attemptCheck _) ?_
    intro (least, greatest) hfactors
    have hordered : least ≤ greatest := numberFactorSpan_le hfactors
    refine (failsOnly_attemptDraw_of_total (Random.total_integer hordered)).bind fun factor => ?_
    exact (failsOnly_pure _).bind hfinite

end Specimen.Instance
