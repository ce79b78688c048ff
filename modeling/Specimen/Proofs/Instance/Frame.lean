import Specimen.Proofs.Instance.Depth
import Specimen.Proofs.Instance.Step

/-!
# Specimen.Proofs.Instance.Frame

What a call leaves as it was: path and depth (`comes_back_within_maxDepth`).

However many targets a call puts on the path and however it ends, with a value or without one, it
takes off what it has put on, and so do all calls inside it. On the way no call is further down than
the greatest depth: an alarm that any of them would raise there is never raised (`watchedValue`).
-/

namespace Specimen.Instance

variable {σ : Type}

/-! ### Coming back -/

section Frame

variable [Random.Source σ] {setting : Setting σ} {path : List Pointer} {depth bound : Nat}

/-- A call comes back to the path and the depth where it was made, and goes no further down than
there is room. -/
theorem ends_value_room (room : Nat) (node : Pointer) (property : Option String)
    (hroom : depth + room ≤ bound) :
    Ends (At path depth bound) (value setting room node property) fun _ => True := by
  induction room generalizing path depth node property with
  | zero =>
    refine (ends_countNode unaffected_at _).andThen fun _ => ?_
    exact (ends_record unaffected_at _ _ _).andThen fun _ => ends_pure trivial
  | succ room ih =>
    have hnormalized : Ends (At path depth bound : Progress σ → Prop)
        (normalized setting.document node)
        fun normalization => ∀ set ∈ normalization.demands.sets, True :=
      (ends_normalized_at setting.document node).mono fun _ _ _ _ => trivial
    rw [value_succ]
    refine ends_valueWith unaffected_at hnormalized ?_ ?_
    · exact fun target message => (ends_record unaffected_at _ _ _).andThen fun _ =>
        ends_pure trivial
    · intro set entered
      have hchild (inner : Pointer) (_ : set.IsChild inner) (property : Option String) :
          Ends (At (path ++ entered) (depth + 1) bound) (value setting room inner property)
            fun _ => True :=
        ih inner property (by omega)
      exact (ends_below_at (by omega) (keeps_ofConstraints unaffected_at hchild property)).mono
        fun _ _ _ => trivial

theorem value_frame (setting : Setting σ) (room : Nat) (node : Pointer) (property : Option String)
    (progress : Progress σ) :
    (value setting room node property progress).2.path = progress.path ∧
      (value setting room node property progress).2.depth = progress.depth := by
  have hroom := Nat.le_max_left (progress.depth + room) progress.report.maxDepthReached
  have hat : At progress.path progress.depth _ (value setting room node property progress).2 :=
    (ends_value_room room node property hroom progress).1 ⟨rfl, rfl, Nat.le_max_right _ _⟩
  exact ⟨hat.path, hat.depth⟩

end Frame

/-! ### Staying within the limit -/

/-- Does something else in place of a part that starts or ends beyond a depth. -/
def watched (limit : Nat) (alarm part : Run σ Json) : Run σ Json := fun progress =>
  if progress.depth ≤ limit ∧ (part progress).2.depth ≤ limit then part progress
  else alarm progress

/-- A run that raises an alarm as soon as a call, or what it does one level further down, is beyond
the greatest depth. -/
def watchedValue [Random.Source σ] (setting : Setting σ) (alarm : Run σ Json) :
    (room : Nat) → (node : Pointer) → (property : Option String) → Run σ Json
  | 0, node, property =>
    watched setting.options.maxDepth alarm (value setting 0 node property)
  | room + 1, node, property =>
    watched setting.options.maxDepth alarm
      (valueWith setting
        (fun entered part => below entered (watched setting.options.maxDepth alarm part))
        (watchedValue setting alarm room) node property)

/-- From a depth on, two parts do the same, and they come back to that depth. -/
def SameAt (depth : Nat) (α : Type) (part other : Run σ α) : Prop :=
  ∀ progress, progress.depth = depth →
    other progress = part progress ∧ (part progress).2.depth = depth

theorem congruent_sameAt (depth : Nat) :
    Congruent (SameAt depth : (α : Type) → Run σ α → Run σ α → Prop) where
  attempt _ _ _ h := ⟨rfl, h⟩
  record _ _ _ _ h := ⟨rfl, h⟩
  bind := by
    intro α β part other next following h hn progress hdepth
    obtain ⟨hsame, hback⟩ := h progress hdepth
    rw [bind_apply, bind_apply, hsame]
    cases hpart : part progress with
    | mk outcome after =>
      rw [hpart] at hback
      cases outcome with
      | error error => exact ⟨rfl, hback⟩
      | ok a => exact hn a after hback

variable {depth limit : Nat} {alarm part other : Run σ Json}

theorem sameAt_watched (hdepth : depth ≤ limit) (h : SameAt depth Json part other) :
    SameAt depth Json part (watched limit alarm other) := by
  intro progress hp
  obtain ⟨hsame, hback⟩ := h progress hp
  refine ⟨?_, hback⟩
  unfold watched
  rw [hsame, hback, hp, if_pos ⟨hdepth, hdepth⟩]

theorem sameAt_below (entered : List Pointer) (h : SameAt (depth + 1) Json part other) :
    SameAt depth Json (below entered part) (below entered other) := by
  intro progress hp
  obtain ⟨hsame, hback⟩ := h (progress.descend entered) (congrArg (· + 1) hp)
  unfold below
  rw [hsame]
  refine ⟨rfl, ?_⟩
  show (part (progress.descend entered)).2.depth - 1 = depth
  rw [hback, Nat.add_sub_cancel]

theorem unaffected_depth : Unaffected fun progress : Progress σ => progress.depth = depth where
  source _ _ h := h
  record _ _ _ _ h := h
  count _ _ h := h

variable [Random.Source σ] {setting : Setting σ}

/-- No call raises the alarm as long as there is no more room than up to the greatest depth. -/
theorem sameAt_watchedValue (alarm : Run σ Json) (room depth : Nat) (node : Pointer)
    (property : Option String) (hroom : depth + room ≤ setting.options.maxDepth) :
    SameAt depth Json (value setting room node property)
      (watchedValue setting alarm room node property) := by
  induction room generalizing depth node property with
  | zero =>
    refine sameAt_watched hroom fun progress h => ⟨rfl, ?_⟩
    exact (value_frame setting 0 node property progress).2.trans h
  | succ room ih =>
    -- A step is watched at its own depth, what it does below and the calls there one level down.
    refine sameAt_watched (by omega) ?_
    rw [value_succ]
    refine related_valueWith (congruent_sameAt depth) (congruent_sameAt (depth + 1)) node property
      ?_ ?_ ?_ ?_
    · exact fun progress h => ⟨rfl, (ends_countNode unaffected_depth _ progress).1 h⟩
    · exact fun progress h => ⟨rfl, h⟩
    · intro entered part again h
      exact sameAt_below entered (sameAt_watched (by omega) h)
    · exact fun node property => ih (depth + 1) node property (by omega)

end Specimen.Instance

namespace Specimen.Generation

open Instance

variable {σ : Type} [Random.Source σ]

/-- **Calls come back, and never from too far down.** Every call leaves path and depth as they were,
whether or not it gives a value. In a run no call is ever further down than the greatest depth, so
that an alarm there would never be raised, and the report of the run says no other. -/
theorem comes_back_within_maxDepth (setting : Setting σ) :
    (∀ room node property progress,
      (Instance.value setting room node property progress).2.path = progress.path ∧
        (Instance.value setting room node property progress).2.depth = progress.depth) ∧
    ∀ source node seed,
      (∀ alarm, watchedValue setting alarm setting.options.maxDepth node none
          (start source node seed) = finish setting source node seed) ∧
        (finish setting source node seed).2.report.maxDepthReached ≤ setting.options.maxDepth := by
  refine ⟨value_frame setting, fun source node seed => ⟨fun alarm => ?_, ?_⟩⟩
  · have hroom : 0 + setting.options.maxDepth ≤ setting.options.maxDepth := by omega
    exact (sameAt_watchedValue alarm setting.options.maxDepth 0 node none hroom
      (start source node seed) rfl).1
  · have hroom : 0 + setting.options.maxDepth ≤ setting.options.maxDepth := by omega
    exact ((ends_value_room setting.options.maxDepth node none hroom
      (start source node seed)).1 ⟨rfl, rfl, Nat.zero_le _⟩).bounded

end Specimen.Generation
