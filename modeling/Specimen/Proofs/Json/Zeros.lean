import Specimen.Proofs.Double.Order
import Specimen.Proofs.Json.Equality

/-!
# Specimen.Proofs.Json.Zeros

How equal values may still differ: in the signs of their zeros alone
(`Json.plainZeros_eq_of_beq`).

Both zeros have one value and so are equal, but each of them has a text of its own. All else in a value
is settled by equality.
-/

namespace Specimen

namespace Double

/-- The same double, with the sign of a zero dropped. -/
def plainZero : Double → Double
  | .finite negative magnitude =>
    if magnitude.units = 0 then zero else .finite negative magnitude
  | value => value

theorem scaled_infinite_ne_scaled_finite {negative other : Bool} {magnitude : Magnitude} :
    (infinite negative).scaled ≠ (finite other magnitude).scaled := by
  intro h
  have hwithin : -(2 ^ limitBits) < (finite other magnitude).scaled ∧
      (finite other magnitude).scaled < 2 ^ limitBits := scaled_lt_limit
  rw [← h] at hwithin
  cases negative with
  | true => exact Int.lt_irrefl _ hwithin.1
  | false => exact Int.lt_irrefl _ hwithin.2

theorem plainZero_eq_of_beq {x y : Double} (h : (x == y) = true) : x.plainZero = y.plainZero := by
  obtain ⟨hx, hy, hscaled⟩ := beq_iff.mp h
  cases x with
  | nan => cases hx
  | infinite negative =>
    cases y with
    | nan => cases hy
    | finite other magnitude => exact absurd hscaled scaled_infinite_ne_scaled_finite
    | infinite other =>
      have hsign : negative = other := by
        have hpos : (0 : Int) < 2 ^ limitBits := Int.pow_pos (by decide)
        unfold scaled at hscaled
        cases negative <;> cases other <;> simp at hscaled ⊢ <;> omega
      rw [hsign]
  | finite negative magnitude =>
    cases y with
    | nan => cases hy
    | infinite other => exact absurd hscaled.symm scaled_infinite_ne_scaled_finite
    | finite other magnitude' =>
      -- The units are the same, and so is the sign unless there are none.
      have hunits : magnitude.units = magnitude'.units ∧
          (magnitude.units = 0 ∨ negative = other) := by
        unfold scaled at hscaled
        cases negative <;> cases other <;> simp at hscaled ⊢ <;> omega
      obtain ⟨hsame, hzero | rfl⟩ := hunits
      · unfold plainZero
        simp only [← hsame, hzero]
        rfl
      · cases magnitude
        cases magnitude'
        cases hsame
        rfl

end Double

namespace Json

mutual

/-- The same value, with the signs of all zeros dropped. -/
def plainZeros : Json → Json
  | .num (.double value) => .num (.double value.plainZero)
  | .arr elements => .arr (elementsPlainZeros elements)
  | .obj members => .obj (membersPlainZeros members)
  | value => value

/-- The same elements, with the signs of all zeros dropped. -/
def elementsPlainZeros : List Json → List Json
  | [] => []
  | value :: rest => plainZeros value :: elementsPlainZeros rest

/-- The same members, with the signs of all zeros dropped. -/
def membersPlainZeros : List (String × Json) → List (String × Json)
  | [] => []
  | (key, value) :: rest => (key, plainZeros value) :: membersPlainZeros rest

end

theorem plainZeros_eq_of_number_beq {a b : Number} (h : (a == b) = true) :
    (Json.num a).plainZeros = (Json.num b).plainZeros := by
  change Number.beq a b = true at h
  cases a <;> cases b <;> simp only [Number.beq, Bool.false_eq_true] at h
  · rw [beq_iff_eq.mp h]
  · simp only [plainZeros]
    rw [Double.plainZero_eq_of_beq h]

mutual

theorem plainZeros_eq_of_same : {a b : Json} → same a b = true → a.plainZeros = b.plainZeros
  | .null, b, h => by
    cases b <;> simp only [same, Bool.false_eq_true] at h
    rfl
  | .bool a, b, h => by
    cases b <;> simp only [same, Bool.false_eq_true, beq_iff_eq] at h
    rw [h]
  | .str a, b, h => by
    cases b <;> simp only [same, Bool.false_eq_true, beq_iff_eq] at h
    rw [h]
  | .num a, b, h => by
    cases b <;> simp only [same, Bool.false_eq_true] at h
    exact plainZeros_eq_of_number_beq h
  | .arr a, b, h => by
    cases b <;> simp only [same, Bool.false_eq_true] at h
    exact congrArg Json.arr (elementsPlainZeros_eq_of_same h)
  | .obj a, b, h => by
    cases b <;> simp only [same, Bool.false_eq_true] at h
    exact congrArg Json.obj (membersPlainZeros_eq_of_same h)

theorem elementsPlainZeros_eq_of_same : {a b : List Json} → sameElements a b = true →
    elementsPlainZeros a = elementsPlainZeros b
  | [], b, h => by
    cases b <;> simp only [sameElements, Bool.false_eq_true] at h
    rfl
  | a :: as, b, h => by
    cases b <;> simp only [sameElements, Bool.false_eq_true, Bool.and_eq_true] at h
    simp only [elementsPlainZeros]
    rw [plainZeros_eq_of_same h.1, elementsPlainZeros_eq_of_same h.2]

theorem membersPlainZeros_eq_of_same : {a b : List (String × Json)} → sameMembers a b = true →
    membersPlainZeros a = membersPlainZeros b
  | [], b, h => by
    cases b <;> simp only [sameMembers, Bool.false_eq_true] at h
    rfl
  | (_, a) :: as, b, h => by
    cases b <;> simp only [sameMembers, Bool.false_eq_true, Bool.and_eq_true, beq_iff_eq] at h
    obtain ⟨⟨hkey, hvalue⟩, hrest⟩ := h
    simp only [membersPlainZeros]
    rw [hkey, plainZeros_eq_of_same hvalue, membersPlainZeros_eq_of_same hrest]

end

/-- Equal values are the same but for the signs of their zeros. -/
theorem plainZeros_eq_of_beq {a b : Json} (h : (a == b) = true) : a.plainZeros = b.plainZeros :=
  plainZeros_eq_of_same h

end Json

end Specimen
