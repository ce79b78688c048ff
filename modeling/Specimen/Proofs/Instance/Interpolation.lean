import Specimen.Proofs.Constraint.NumberBounds
import Specimen.Proofs.Instance.Number
import Specimen.Proofs.Random.Draws

/-!
# Specimen.Proofs.Instance.Interpolation

Numbers between two ends (`between`).

A number is drawn as a mixture of the ends. Each of its operations is rounded, so the mixture may lie
outside; it is moved back, and what is not a number after all is found out in the end. So nothing has
to be known of the rounding errors.
-/

namespace Specimen

namespace Double

variable {x y z : Double}

theorem isNaN_add_of_left (h : x.isNaN = true) : (x + y).isNaN = true := by
  cases x <;> cases h
  rfl

theorem isNaN_add_of_right (h : y.isNaN = true) : (x + y).isNaN = true := by
  cases y <;> cases h
  cases x <;> rfl

theorem isNaN_mul_of_left (h : x.isNaN = true) : (x * y).isNaN = true := by
  cases x <;> cases h
  rfl

/-- `nan` lies in no range and is not moved. -/
theorem clamp_eq_self_of_isNaN (h : z.isNaN = true) : z.clamp x y = z := by
  cases z <;> cases h
  cases x <;> cases y <;> rfl

end Double

namespace Instance

open Constraints

variable {σ : Type} [Random.Source σ] {set : Constraints} {lo hi : Double}

theorem yields_unit : Yields (Random.unit : Random.Draw σ Double) Double.IsShare := by
  unfold Random.unit
  refine Random.yields_draw64.bind fun bits => ends_pure fun hbits => ?_
  refine Double.isShare_ofRatio (Nat.two_pow_pos 53) ?_
  rw [Nat.mul_comm]
  exact Nat.mul_le_mul_left _ (by omega)

/-- What is neither moved nor `nan` lies between the ends; a `nan` among the ends would show. -/
theorem mixture_between {z : Double} (h : ¬hi < lo) (hlo : lo.isNaN = true → z.isNaN = true)
    (hhi : hi.isNaN = true → z.isNaN = true) (hfinite : (z.clamp lo hi).isFinite = true) :
    lo ≤ z.clamp lo hi ∧ z.clamp lo hi ≤ hi := by
  have hz : z.isNaN = false := by
    by_contra hnan
    rw [Bool.not_eq_false] at hnan
    rw [Double.clamp_eq_self_of_isNaN hnan] at hfinite
    simp [Double.isNaN_of_isFinite hfinite] at hnan
  have hlo' : lo.isNaN = false := by simpa [hz] using hlo
  have hhi' : hi.isNaN = false := by simpa [hz] using hhi
  exact Double.clamp_between hz hlo' hhi' (Double.scaled_le_of_not_lt hlo' hhi' h)

theorem yields_between (h : ¬hi < lo) :
    Yields (between lo hi : Random.Draw σ Double) fun value =>
      value.isFinite = true → lo ≤ value ∧ value ≤ hi := by
  unfold between
  split
  · rename_i hequal
    refine ends_pure fun _ => ?_
    obtain ⟨hlo, hhi, hscaled⟩ := Double.beq_iff.mp hequal
    rw [Double.le_iff hlo hlo, Double.le_iff hlo hhi]
    exact ⟨Int.le_refl _, Int.le_of_eq hscaled⟩
  · refine (yields_any _).bind fun part => ends_pure fun _ => ?_
    refine mixture_between h (fun hnan => ?_) (fun hnan => ?_)
    · exact Double.isNaN_add_of_left (Double.isNaN_mul_of_left hnan)
    · exact Double.isNaN_add_of_right (Double.isNaN_mul_of_left hnan)

/-- Between two finite ends there is always something to draw. -/
theorem yields_between_of_isFinite (hlo : lo.isFinite = true) (hhi : hi.isFinite = true)
    (h : lo ≤ hi) :
    Yields (between lo hi : Random.Draw σ Double) fun value =>
      value.isFinite = true ∧ lo ≤ value ∧ value ≤ hi := by
  have hordered := Double.scaled_le_of_le h
  unfold between
  split
  · rename_i hequal
    refine ends_pure ⟨hlo, ?_, h⟩
    rw [Double.le_iff (Double.isNaN_of_isFinite hlo) (Double.isNaN_of_isFinite hlo)]
  · refine yields_unit.bind fun part => ends_pure fun hpart => ?_
    have hmixture := Double.isNaN_add (hpart.one_sub.isFinite_mul hlo) (hpart.isFinite_mul hhi)
    obtain ⟨hge, hle⟩ := Double.clamp_between hmixture (Double.isNaN_of_isFinite hlo)
      (Double.isNaN_of_isFinite hhi) hordered
    exact ⟨Double.isFinite_of_between hlo hhi (Double.isNaN_of_le hle).1
      (Double.scaled_le_of_le hge) (Double.scaled_le_of_le hle), hge, hle⟩

/-- Without a step, a number between two finite ends in order is drawn. -/
theorem number_drawn {fallback : Double × Double} (hmultiple : set.multipleOf = none)
    (hspan : numberSpan set fallback = .ok (lo, hi)) (hlo : lo.isFinite = true)
    (hhi : hi.isFinite = true) (h : lo ≤ hi) :
    Total (number set fallback : Attempt σ Double) ∧
      Yields (number set fallback : Attempt σ Double) fun value => lo ≤ value ∧ value ≤ hi := by
  have hbetween := yields_attemptDraw (yields_between_of_isFinite (σ := σ) hlo hhi h)
  unfold number
  rw [hspan, attemptCheck_ok_bind, hmultiple]
  constructor
  · refine (failsOnly_attemptDraw_of_total (total_between lo hi)).bind_of hbetween ?_
    intro value hvalue
    simp only [hvalue.1, if_true]
    exact failsOnly_pure _
  · refine hbetween.bind_of fun value hvalue => ?_
    simp only [hvalue.1, if_true]
    exact ends_pure hvalue.2

end Instance

end Specimen
