import Specimen.Json.Basic

/-!
# Specimen.Proofs.Json.Equality

Equality of values is symmetric and transitive. It is not reflexive: a value that holds a `nan`
differs from itself. What follows about lists of values (`Json.contains_filter_contains`) therefore
rests on symmetry and transitivity alone.
-/

namespace Specimen

namespace Double

theorem beq_comm (a b : Double) : (a == b) = (b == a) := by
  show Double.beq a b = Double.beq b a
  unfold Double.beq
  rw [Bool.and_comm (!a.isNaN), Bool.beq_comm (a := a.scaled)]

theorem beq_trans {a b c : Double} (hab : (a == b) = true) (hbc : (b == c) = true) :
    (a == c) = true := by
  change Double.beq a b = true at hab
  change Double.beq b c = true at hbc
  show Double.beq a c = true
  unfold Double.beq at hab hbc ⊢
  simp only [Bool.and_eq_true, beq_iff_eq] at hab hbc ⊢
  exact ⟨⟨hab.1.1, hbc.1.2⟩, hab.2.trans hbc.2⟩

end Double

namespace Number

theorem beq_comm (a b : Number) : (a == b) = (b == a) := by
  show Number.beq a b = Number.beq b a
  cases a <;> cases b <;> simp only [Number.beq]
  · exact Bool.beq_comm
  · exact Double.beq_comm _ _

theorem beq_trans {a b c : Number} (hab : (a == b) = true) (hbc : (b == c) = true) :
    (a == c) = true := by
  change Number.beq a b = true at hab
  change Number.beq b c = true at hbc
  show Number.beq a c = true
  cases a <;> cases b <;> simp only [Number.beq, Bool.false_eq_true] at hab <;>
    cases c <;> simp only [Number.beq, Bool.false_eq_true] at hbc ⊢
  · exact beq_iff_eq.mpr ((beq_iff_eq.mp hab).trans (beq_iff_eq.mp hbc))
  · exact Double.beq_trans hab hbc

end Number

namespace Json

/-! ### Symmetry -/

mutual

theorem same_comm : (a b : Json) → same a b = same b a
  | .num a, .num b => by simpa only [same] using Number.beq_comm a b
  | .arr a, .arr b => by simpa only [same] using sameElements_comm a b
  | .obj a, .obj b => by simpa only [same] using sameMembers_comm a b
  | .null, b => by cases b <;> rfl
  | .bool a, b => by cases b <;> simp only [same, Bool.beq_comm]
  | .str a, b => by cases b <;> simp only [same, Bool.beq_comm]
  | .num a, .null | .num a, .bool _ | .num a, .str _ | .num a, .arr _ | .num a, .obj _ => rfl
  | .arr a, .null | .arr a, .bool _ | .arr a, .str _ | .arr a, .num _ | .arr a, .obj _ => rfl
  | .obj a, .null | .obj a, .bool _ | .obj a, .str _ | .obj a, .num _ | .obj a, .arr _ => rfl

theorem sameElements_comm : (a b : List Json) → sameElements a b = sameElements b a
  | [], [] | [], _ :: _ | _ :: _, [] => rfl
  | a :: as, b :: bs => by
    simp only [sameElements]
    rw [same_comm a b, sameElements_comm as bs]

theorem sameMembers_comm : (a b : List (String × Json)) → sameMembers a b = sameMembers b a
  | [], [] | [], _ :: _ | _ :: _, [] => rfl
  | (k, a) :: as, (l, b) :: bs => by
    simp only [sameMembers]
    rw [same_comm a b, sameMembers_comm as bs, Bool.beq_comm (a := k)]

end

/-! ### Transitivity -/

mutual

theorem same_trans : {a b c : Json} → same a b = true → same b c = true → same a c = true
  | .null, b, c, hab, hbc => by
    cases b <;> simp only [same, Bool.false_eq_true] at hab
    exact hbc
  | .bool a, b, c, hab, hbc => by
    cases b <;> simp only [same, Bool.false_eq_true, beq_iff_eq] at hab
    exact hab ▸ hbc
  | .str a, b, c, hab, hbc => by
    cases b <;> simp only [same, Bool.false_eq_true, beq_iff_eq] at hab
    exact hab ▸ hbc
  | .num a, b, c, hab, hbc => by
    cases b <;> simp only [same, Bool.false_eq_true] at hab
    cases c <;> simp only [same, Bool.false_eq_true] at hbc ⊢
    exact Number.beq_trans hab hbc
  | .arr a, b, c, hab, hbc => by
    cases b <;> simp only [same, Bool.false_eq_true] at hab
    cases c <;> simp only [same, Bool.false_eq_true] at hbc ⊢
    exact sameElements_trans hab hbc
  | .obj a, b, c, hab, hbc => by
    cases b <;> simp only [same, Bool.false_eq_true] at hab
    cases c <;> simp only [same, Bool.false_eq_true] at hbc ⊢
    exact sameMembers_trans hab hbc

theorem sameElements_trans :
    {a b c : List Json} → sameElements a b = true → sameElements b c = true →
      sameElements a c = true
  | [], b, c, hab, hbc => by
    cases b <;> simp only [sameElements, Bool.false_eq_true] at hab
    exact hbc
  | a :: as, b, c, hab, hbc => by
    cases b <;> simp only [sameElements, Bool.false_eq_true, Bool.and_eq_true] at hab
    cases c <;> simp only [sameElements, Bool.false_eq_true, Bool.and_eq_true] at hbc ⊢
    exact ⟨same_trans hab.1 hbc.1, sameElements_trans hab.2 hbc.2⟩

theorem sameMembers_trans :
    {a b c : List (String × Json)} → sameMembers a b = true → sameMembers b c = true →
      sameMembers a c = true
  | [], b, c, hab, hbc => by
    cases b <;> simp only [sameMembers, Bool.false_eq_true] at hab
    exact hbc
  | (_, a) :: as, b, c, hab, hbc => by
    cases b <;> simp only [sameMembers, Bool.false_eq_true, Bool.and_eq_true, beq_iff_eq] at hab
    cases c <;>
      simp only [sameMembers, Bool.false_eq_true, Bool.and_eq_true, beq_iff_eq] at hbc ⊢
    exact ⟨⟨hab.1.1.trans hbc.1.1, same_trans hab.1.2 hbc.1.2⟩, sameMembers_trans hab.2 hbc.2⟩

end

theorem beq_comm (a b : Json) : (a == b) = (b == a) := same_comm a b

theorem beq_trans {a b c : Json} (hab : (a == b) = true) (hbc : (b == c) = true) :
    (a == c) = true :=
  same_trans hab hbc

/-! ### Lists of values -/

theorem contains_iff {values : List Json} {value : Json} :
    contains values value = true ↔ ∃ other ∈ values, (other == value) = true :=
  List.any_eq_true

theorem contains_append {a b : List Json} {value : Json} :
    contains (a ++ b) value = (contains a value || contains b value) :=
  List.any_append

/-- The values of one list that another one has are the values of both. -/
theorem contains_filter_contains {a b : List Json} {value : Json} :
    contains (a.filter (contains b)) value = true ↔
      contains a value = true ∧ contains b value = true := by
  simp only [contains_iff, List.mem_filter]
  constructor
  · intro h
    obtain ⟨x, ⟨hxa, y, hyb, hyx⟩, hx⟩ := h
    exact ⟨⟨x, hxa, hx⟩, y, hyb, beq_trans hyx hx⟩
  · intro h
    obtain ⟨⟨x, hxa, hx⟩, y, hyb, hy⟩ := h
    rw [beq_comm] at hx
    exact ⟨x, ⟨hxa, y, hyb, beq_trans hy hx⟩, beq_comm x value ▸ hx⟩

end Json

end Specimen
