import Specimen.Proofs.Instance.Array
import Specimen.Proofs.Instance.Object
import Specimen.Proofs.Instance.Text

/-!
# Specimen.Proofs.Instance.Value

Values for demands: whichever kind is chosen and however often a value is drawn again, the value is
of a kind of the set and has its parts at their places (`ends_ofConstraints`).
-/

namespace Specimen.Instance

variable {σ α : Type} {set : Constraints} {fits : Pointer → Json → Prop}
variable {kept : Progress σ → Prop}
variable [Random.Source σ] {setting : Setting σ} {child : Pointer → Option String → Run σ Json}

/-- A value of a kind. -/
theorem ends_ofKind (hk : Unaffected kept)
    (hc : ∀ node, set.IsChild node → ∀ property, Ends kept (child node property) (fits node))
    (property : Option String) (kind : Kind) :
    Ends kept (ofKind setting set property child kind) (FitsKind fits set kind) := by
  cases kind with
  | null => exact ends_pure rfl
  | boolean => exact (ends_draw hk (yields_any _)).andThen fun _ => ends_pure rfl
  | integer => exact (ends_attempt hk (yields_any _)).andThen fun _ => ends_pure rfl
  | number => exact (ends_attempt hk (yields_any _)).andThen fun _ => ends_pure rfl
  | string => exact (ends_string hk setting set property).andThen fun _ => ends_pure rfl
  | array =>
    exact (ends_array hk (fun node hn => hc node hn none) _).bind fun elements => ends_pure fun h => h
  | object => exact (ends_object hk hc).bind fun members => ends_pure fun h => h
  | unknown =>
    refine (ends_draw hk (yields_any _)).mono fun value _ => ?_
    show Kind.unknown.accepts value = true
    cases value <;> rfl

theorem ends_pick (hk : Unaffected kept) (items : List α) :
    Ends kept (pick items : Run σ α) (· ∈ items) := by
  unfold pick
  refine (ends_draw hk (yields_any _)).andThen fun index => ?_
  split
  · rename_i item hitem
    exact ends_pure (List.mem_of_getElem? hitem)
  · exact ends_throw

/-- The last attempt counts when every one gives an excluded value; without any attempt, the value
from before does. -/
theorem ends_drawAdmissible (hk : Unaffected kept)
    (hc : ∀ node, set.IsChild node → ∀ property, Ends kept (child node property) (fits node))
    (property : Option String) (last : Json) (attempts : Nat) :
    Ends kept (drawAdmissible setting set property child last attempts) fun value =>
      (attempts ≠ 0 ∨ ∃ kind ∈ set.kinds.kinds, FitsKind fits set kind last) →
        ∃ kind ∈ set.kinds.kinds, FitsKind fits set kind value := by
  induction attempts generalizing last with
  | zero =>
    refine (ends_record hk _ _ _).andThen fun _ => ends_pure fun h => ?_
    exact h.resolve_left fun hne => hne rfl
  | succ attempts ih =>
    unfold drawAdmissible
    refine (ends_pick hk set.kinds.kinds).bind fun kind => ?_
    refine (ends_ofKind hk hc property kind).bind fun value => ?_
    split
    · -- An excluded value is of a kind of the set all the same, which is what the next attempt needs.
      exact (ih value).mono fun _ h hv hkind _ => h (.inr ⟨kind, hkind, hv⟩)
    · exact ends_pure fun hv hkind _ => ⟨kind, hkind, hv⟩

/-- A value that meets a set of demands. -/
theorem ends_ofConstraints (hk : Unaffected kept)
    (hc : ∀ node, set.IsChild node → ∀ property, Ends kept (child node property) (fits node))
    (property : Option String) :
    Ends kept (ofConstraints setting set property child) fun value =>
      setting.options.uniqueAttempts ≠ 0 → FitsSet fits set value := by
  unfold ofConstraints FitsSet
  cases set.candidates with
  | some candidates => exact (ends_pick hk candidates).mono fun value h _ => h
  | none =>
    exact (ends_drawAdmissible hk hc property .null _).mono fun value h hne => h (.inl hne)

/-- What the values below keep, a value that meets a set of demands keeps. -/
theorem keeps_ofConstraints (hk : Unaffected kept)
    (hc : ∀ node, set.IsChild node → ∀ property, Ends kept (child node property) fun _ => True)
    (property : Option String) :
    Ends kept (ofConstraints setting set property child) fun _ => True :=
  (ends_ofConstraints hk hc property).mono fun _ _ => trivial

end Specimen.Instance
