import Specimen.Proofs.Instance.Places

/-!
# Specimen.Proofs.Instance.Text

The texts of a run: nothing is said of them but that drawing one changes nothing else.
-/

namespace Specimen.Instance

variable {σ : Type} {kept : Progress σ → Prop}

theorem ends_patterned (hk : Unaffected kept) (setting : Setting σ) (set : Constraints)
    (pattern : String) (lo hi : Nat) :
    Ends kept (patterned setting set pattern lo hi) fun _ => True := by
  unfold patterned
  split
  · exact (ends_record hk _ _ _).andThen fun _ => ends_pure trivial
  · refine (ends_draw hk (yields_any _)).andThen fun (isFitting, text) => ?_
    dsimp only
    split
    · exact ends_pure trivial
    · exact (ends_record hk _ _ _).andThen fun _ => ends_pure trivial

theorem ends_formatted (hk : Unaffected kept) (setting : Setting σ) (set : Constraints)
    (format : String) (lo hi : Nat) :
    Ends kept (formatted setting set format lo hi) fun _ => True := by
  unfold formatted
  split
  · refine (ends_draw hk (yields_any _)).andThen fun text? => ?_
    split
    · exact ends_pure trivial
    · exact (ends_record hk _ _ _).andThen fun _ => ends_pure trivial
  · exact (ends_record hk _ _ _).andThen fun _ => ends_pure trivial

theorem ends_meaningful (hk : Unaffected kept) (setting : Setting σ) (set : Constraints)
    (property : Option String) (lo hi : Nat) :
    Ends kept (meaningful setting set property lo hi) fun _ => True := by
  unfold meaningful
  split
  · exact ends_patterned hk _ _ _ _ _
  · exact ends_formatted hk _ _ _ _ _
  · split
    · exact ends_draw hk (yields_any _)
    · exact ends_pure trivial

theorem ends_string [Random.Source σ] (hk : Unaffected kept) (setting : Setting σ)
    (set : Constraints) (property : Option String) :
    Ends kept (string setting set property) fun _ => True := by
  unfold string
  refine (ends_attempt hk (yields_any _)).andThen fun (lo, hi) => ?_
  refine (ends_meaningful hk setting set property lo hi).andThen fun text? => ?_
  split
  · exact ends_pure trivial
  · exact ends_draw hk (yields_any _)

end Specimen.Instance
