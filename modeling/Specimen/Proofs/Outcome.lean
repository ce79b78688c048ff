import Specimen.Names

/-!
# Specimen.Proofs.Outcome

How computations end that may fail and that change a state.

A statement about a whole run has two halves: something about the state that no part of the run
loses, and something about the values that the parts give. `Ends` states both for one part, so that
one rule for sequences (`Ends.bind`) carries them through every part that is made of others. A value
is only described as long as the property of the state does not hold in the end; a property that
never holds therefore leaves a plain statement about values (`Yields`).

`FailsOnly` says beside it how a part may fail; a part that never does is `Total`.
-/

namespace Specimen

variable {s ε α β : Type} {kept : s → Prop} {part : ExceptT ε (StateM s) α}
variable {next : α → ExceptT ε (StateM s) β} {first result : α → Prop} {second : β → Prop}

/-- Wherever a computation starts, it does not lose a property of the state, and a value that it
gives is as described unless that property holds in the end. -/
def Ends (kept : s → Prop) (part : ExceptT ε (StateM s) α) (result : α → Prop) : Prop :=
  ∀ state, (kept state → kept (part state).2) ∧
    ∀ a, (part state).1 = .ok a → kept (part state).2 ∨ result a

/-- A value that a computation gives is as described. -/
abbrev Yields (part : ExceptT ε (StateM s) α) (result : α → Prop) : Prop :=
  Ends (fun _ => False) part result

/-- A sequence of two computations, from a state on. -/
theorem bind_apply (part : ExceptT ε (StateM s) α) (next : α → ExceptT ε (StateM s) β) (state : s) :
    (part >>= next) state =
      match part state with
      | (.ok a, after) => next a after
      | (.error error, after) => (.error error, after) := by
  show ExceptT.bind part next state = _
  simp only [ExceptT.bind, ExceptT.mk, bind, StateT.bind]
  cases part state with
  | mk outcome after => cases outcome <;> rfl

/-- A sequence fails where its first computation does. -/
theorem bind_fst_of_error {error : ε} {state : s} (h : (part state).1 = .error error) :
    ((part >>= next) state).1 = .error error := by
  rw [bind_apply]
  cases hpart : part state with
  | mk outcome after =>
    rw [hpart] at h
    cases h
    rfl

theorem ends_pure {a : α} (h : result a) : Ends kept (pure a : ExceptT ε (StateM s) α) result := by
  refine fun state => ⟨fun hk => hk, fun b hb => ?_⟩
  cases hb
  exact .inr h

theorem ends_throw {error : ε} : Ends kept (throw error : ExceptT ε (StateM s) α) result := by
  refine fun state => ⟨fun hk => hk, fun a ha => ?_⟩
  cases ha

/-- Where a property holds in the end, nothing is said about the value. -/
theorem ends_of_kept (h : ∀ state, kept (part state).2) : Ends kept part result :=
  fun state => ⟨fun _ => h state, fun _ _ => .inl (h state)⟩

/-- Nothing has to be known of a value. -/
theorem yields_any (part : ExceptT ε (StateM s) α) : Yields part fun _ => True :=
  fun _ => ⟨fun h => h, fun _ _ => .inr trivial⟩

theorem Ends.mono (h : Ends kept part first) (hr : ∀ a, first a → result a) :
    Ends kept part result :=
  fun state => ⟨(h state).1, fun a ha => ((h state).2 a ha).imp_right (hr a)⟩

/-- Two descriptions of a value hold together. -/
theorem Ends.and {other : α → Prop} (h : Ends kept part result) (ho : Ends kept part other) :
    Ends kept part fun a => result a ∧ other a := by
  refine fun state => ⟨(h state).1, fun a ha => ?_⟩
  rcases (h state).2 a ha with hk | hr
  · exact .inl hk
  · exact ((ho state).2 a ha).imp_right fun hother => ⟨hr, hother⟩

/-- What a run has given is as described. -/
theorem Yields.of_eq_ok {state : s} {a : α} (h : Yields part result)
    (ha : (part state).1 = .ok a) : result a :=
  ((h state).2 a ha).resolve_left fun hf => hf

/-- What the second computation gives may be described by what the first one has given. -/
theorem Ends.bind (h : Ends kept part first)
    (hn : ∀ a, Ends kept (next a) fun b => first a → second b) :
    Ends kept (part >>= next) second := by
  intro state
  obtain ⟨hkeep, hvalue⟩ := h state
  rw [bind_apply]
  cases hpart : part state with
  | mk outcome after =>
    rw [hpart] at hkeep hvalue
    cases outcome with
    | error error => exact ⟨hkeep, fun b hb => by cases hb⟩
    | ok a =>
      -- If the property holds in the middle, it holds in the end, and nothing else is to be shown.
      refine ⟨fun hk => (hn a after).1 (hkeep hk), fun b hb => ?_⟩
      rcases hvalue a rfl with hk | ha
      · exact .inl ((hn a after).1 hk)
      · exact ((hn a after).2 b hb).imp_right fun hs => hs ha

/-- As `Ends.bind`, where the value of the first computation does not matter. -/
theorem Ends.andThen (h : Ends kept part first) (hn : ∀ a, Ends kept (next a) second) :
    Ends kept (part >>= next) second :=
  h.bind fun a => (hn a).mono fun _ hb _ => hb

/-- Where nothing is kept, what the first computation gives is known to the second one. -/
theorem Yields.bind_of (h : Yields part first)
    (hn : ∀ a, first a → Yields (next a) second) : Yields (part >>= next) second := by
  refine Ends.bind h fun a state => ⟨fun hk => hk, fun b hb => .inr fun ha => ?_⟩
  exact ((hn a ha state).2 b hb).resolve_left fun hk => hk

/-- What follows a computation may be exchanged for what is the same for the values that it gives. -/
theorem Yields.bind_congr {following : α → ExceptT ε (StateM s) β} (h : Yields part first)
    (hn : ∀ a, first a → next a = following a) : part >>= next = part >>= following := by
  funext state
  rw [bind_apply, bind_apply]
  cases hpart : part state with
  | mk outcome after =>
    cases outcome with
    | error error => rfl
    | ok a =>
      dsimp only
      rw [hn a (h.of_eq_ok (congrArg Prod.fst hpart))]

/-- What a fact says of a value may be shown where the fact is known, once the state is taken care
of. -/
theorem Ends.of_known {fact : Prop} (hk : Ends kept part fun _ => True)
    (h : fact → Ends kept part result) : Ends kept part fun a => fact → result a := by
  refine fun state => ⟨(hk state).1, fun a ha => ?_⟩
  by_cases hfact : fact
  · exact ((h hfact state).2 a ha).imp_right fun hr _ => hr
  · exact .inr fun hknown => absurd hknown hfact

theorem Ends.map {f : α → β} (h : Ends kept part first) (hf : ∀ a, first a → second (f a)) :
    Ends kept (f <$> part) second := by
  rw [map_eq_pure_bind]
  exact h.bind fun a => ends_pure (hf a)

/-- As `Ends.bind`, where the second computation needs to know what it is given in order to keep a
property of the state. -/
theorem Ends.bind_known (h : Ends kept part fun _ => True)
    (hf : ∀ state, kept state → ∀ a, (part state).1 = .ok a → first a)
    (hn : ∀ a, first a → Ends kept (next a) fun _ => True) :
    Ends kept (part >>= next) fun _ => True := by
  refine fun state => ⟨fun hk => ?_, fun _ _ => .inr trivial⟩
  have hkeep := (h state).1 hk
  have hknown := hf state hk
  rw [bind_apply]
  cases hpart : part state with
  | mk outcome after =>
    rw [hpart] at hkeep hknown
    cases outcome with
    | error error => exact hkeep
    | ok a => exact (hn a (hknown a rfl) after).1 hkeep

theorem eq_ok_of_toOption {result : Except ε α} {a : α} (h : result.toOption = some a) :
    result = .ok a := by
  cases result with
  | error error => cases h
  | ok found => cases h; rfl

theorem exists_eq_ok_of_map_toOption {result : Except ε α} {f : α → β} {b : β}
    (h : result.toOption.map f = some b) : ∃ a, result = .ok a ∧ f a = b := by
  obtain ⟨a, ha, hf⟩ := Option.map_eq_some_iff.mp h
  exact ⟨a, eq_ok_of_toOption ha, hf⟩

/-! ### Failures -/

/-- Wherever a computation starts, it fails in no other way than described. -/
def FailsOnly (part : ExceptT ε (StateM s) α) (allowed : ε → Prop) : Prop :=
  ∀ state error, (part state).1 = .error error → allowed error

/-- A computation does not fail. -/
abbrev Total (part : ExceptT ε (StateM s) α) : Prop := FailsOnly part fun _ => False

variable {allowed wider : ε → Prop}

theorem failsOnly_pure (a : α) : FailsOnly (pure a : ExceptT ε (StateM s) α) allowed := by
  intro state error h
  cases h

theorem failsOnly_throw {error : ε} (h : allowed error) :
    FailsOnly (throw error : ExceptT ε (StateM s) α) allowed := by
  intro state other hother
  cases hother
  exact h

theorem FailsOnly.mono (h : FailsOnly part allowed) (hw : ∀ error, allowed error → wider error) :
    FailsOnly part wider :=
  fun state error herror => hw error (h state error herror)

/-- What does not fail at all fails only as described. -/
theorem Total.failsOnly (h : Total part) : FailsOnly part allowed :=
  h.mono fun _ hf => hf.elim

/-- The second computation may rely on what the first one yields. -/
theorem FailsOnly.bind_of (h : FailsOnly part allowed) (hy : Yields part first)
    (hn : ∀ a, first a → FailsOnly (next a) allowed) : FailsOnly (part >>= next) allowed := by
  intro state error herror
  have hfails := h state
  have hvalue := (hy state).2
  rw [bind_apply] at herror
  cases hpart : part state with
  | mk outcome after =>
    rw [hpart] at hfails hvalue herror
    cases outcome with
    | error other =>
      cases herror
      exact hfails error rfl
    | ok a =>
      have ha : first a := (hvalue a rfl).resolve_left fun hf => hf
      exact hn a ha after error herror

theorem FailsOnly.bind (h : FailsOnly part allowed) (hn : ∀ a, FailsOnly (next a) allowed) :
    FailsOnly (part >>= next) allowed := by
  exact h.bind_of (yields_any part) fun a _ => hn a

theorem FailsOnly.map (h : FailsOnly part allowed) (f : α → β) :
    FailsOnly (f <$> part) allowed := by
  rw [map_eq_pure_bind]
  exact h.bind fun a => failsOnly_pure (f a)

/-- A computation that does not fail gives a value, which is as described. -/
theorem exists_of_total (h : Total part) (hy : Yields part result) (state : s) :
    ∃ a after, part state = (.ok a, after) ∧ result a := by
  have hfails := h state
  have hvalue := (hy state).2
  cases hpart : part state with
  | mk outcome after =>
    rw [hpart] at hfails hvalue
    cases outcome with
    | error error => exact False.elim (hfails error rfl)
    | ok a => exact ⟨a, after, rfl, (hvalue a rfl).resolve_left fun hf => hf⟩

/-! ### Lists -/

theorem FailsOnly.mapM {list : List β} {step : β → ExceptT ε (StateM s) α}
    (h : ∀ b, FailsOnly (step b) allowed) : FailsOnly (list.mapM step) allowed := by
  induction list with
  | nil => exact failsOnly_pure []
  | cons b rest ih =>
    rw [List.mapM_cons]
    exact (h b).bind fun a => ih.bind fun others => failsOnly_pure _

theorem Ends.mapM {list : List β} {step : β → ExceptT ε (StateM s) α}
    (h : ∀ b, Ends kept (step b) first) :
    Ends kept (list.mapM step) fun results => ∀ a ∈ results, first a := by
  induction list with
  | nil => exact ends_pure fun _ h => absurd h List.not_mem_nil
  | cons b rest ih =>
    rw [List.mapM_cons]
    refine (h b).bind fun a => ih.bind fun others => ends_pure fun hothers ha => ?_
    exact List.forall_mem_cons.mpr ⟨ha, hothers⟩

/-- There are as many results as there are elements. -/
theorem yields_length_mapM (list : List β) (step : β → ExceptT ε (StateM s) α) :
    Yields (list.mapM step) (·.length = list.length) := by
  induction list with
  | nil => exact ends_pure rfl
  | cons b rest ih =>
    rw [List.mapM_cons]
    refine (yields_any (step b)).andThen fun a => ih.bind fun others => ?_
    exact ends_pure fun hothers => congrArg (· + 1) hothers

theorem Ends.foldlM {list : List β} {step : α → β → ExceptT ε (StateM s) α}
    (h : ∀ a b, Ends kept (step a b) fun after => first a → first after) (a : α) :
    Ends kept (list.foldlM step a) fun after => first a → first after := by
  induction list generalizing a with
  | nil => exact ends_pure fun h => h
  | cons b rest ih =>
    rw [List.foldlM_cons]
    exact (h a b).bind fun middle => (ih middle).mono fun _ hafter hmiddle ha => hafter (hmiddle ha)

end Specimen
