import Specimen.Proofs.Pattern.Language
import Specimen.Proofs.Pattern.Reader

/-!
# Specimen.Proofs.Pattern.Parser

Without the anchors and word boundaries of a text, an expression is read that has no texts but those
of the whole one (`Regex.texts_le_of_parseWith`), as long as blanks count.

Both texts are read at the same time (`Regex.Beside`). What has been read stays alike
(`Regex.State.Covers`): the items are the same but for the anchors, which are only in the one that
has all of them. When an item is repeated, it is the last one in both, because no anchor is directly
before the sign of a repetition (`Regex.Beside.step`).
-/

namespace Specimen.Pattern.Regex

variable {lexicon : Lexicon} {inClass last : Bool} {text thin rest : List Char}

/-! ### Repetitions -/

section Repetition

variable {flags : Flags} {min lower : Nat} {max upper : Option Nat} {greedy : Bool}

/-- A range of counts that is read is in order. -/
theorem le_of_upperBound? (h : upperBound? flags min text = some (max, rest)) :
    ∀ m ∈ max, min ≤ m := by
  unfold upperBound? at h
  split at h
  · cases h
    exact fun m hm => nomatch hm
  · split at h
    · split at h
      · rename_i hle
        cases h
        intro m hm
        cases hm
        exact hle
      · cases h
    · cases h

theorem le_of_bounds? (h : bounds? flags text = some (min, max, rest)) : ∀ m ∈ max, min ≤ m := by
  unfold bounds? at h
  split at h
  · cases h
    intro m hm
    cases hm
    exact Nat.le_refl _
  · obtain ⟨⟨upper, tail⟩, hupper, h⟩ := Option.bind_eq_some_iff.mp h
    cases h
    exact le_of_upperBound? hupper
  · cases h

/-- The sign behind a range of counts only says whether it is greedy. -/
theorem quantifier_eq (h : quantifier lower upper text = (.quantifier min max greedy, rest)) :
    lower = min ∧ upper = max := by
  unfold quantifier at h
  split at h
  · cases h
    exact ⟨rfl, rfl⟩
  · cases h
    exact ⟨rfl, rfl⟩

/-- A repetition is read at its sign, and its bounds are in order. -/
theorem quantifier_of_item?
    (h : item? lexicon flags text = some (.quantifier min max greedy, rest)) :
    startsQuantified text ∧ ∀ m ∈ max, min ≤ m := by
  unfold item? at h
  split at h
  case h_6 | h_7 | h_8 =>
    obtain ⟨rfl, rfl⟩ := quantifier_eq (Option.some.inj h)
    exact ⟨rfl, fun m hm => by cases hm <;> decide⟩
  case h_9 =>
    obtain ⟨⟨lower, upper, tail⟩, hbounds, h⟩ := Option.bind_eq_some_iff.mp h
    obtain ⟨rfl, rfl⟩ := quantifier_eq (Option.some.inj h)
    exact ⟨rfl, le_of_bounds? hbounds⟩
  case h_2 | h_5 | h_10 =>
    obtain ⟨found, -, h⟩ := Option.bind_eq_some_iff.mp h
    cases h
  all_goals cases h

end Repetition

/-! ### Groups -/

/-- The items of an alternative, the last one first, with the anchors and without them. Unless an
anchor is the last one, the last items belong together. -/
inductive Kept : (last : Bool) → List (Option Regex) → List (Option Regex) → Prop where
  | nil : Kept true [] []
  | regex {last : Bool} {full bare : Regex} {items bareItems : List (Option Regex)}
      (hc : bare.texts ≤ full.texts) (h : Kept last items bareItems) :
    Kept true (some full :: items) (some bare :: bareItems)
  | switches {last : Bool} {items bareItems : List (Option Regex)} (h : Kept last items bareItems) :
    Kept true (none :: items) (none :: bareItems)
  | anchor {last : Bool} {items bareItems : List (Option Regex)} (condition : Anchor)
      (h : Kept last items bareItems) :
    Kept false (some (.anchor condition) :: items) bareItems

/-- A group has been read with the anchors and without them. -/
structure Group.Covers (last : Bool) (full bare : Group) : Prop where
  outerFlags : bare.outerFlags = full.outerFlags
  index? : bare.index? = full.index?
  branches : List.Forall₂ (fun bare full : Regex => bare.texts ≤ full.texts) bare.branches
    full.branches
  items : Kept last full.items bare.items

/-- The texts of an alternative are those of its items in a row. -/
theorem Group.texts_current (group : Group) :
    group.current.texts = ((group.items.reverse.filterMap id).map texts).prod :=
  texts_sequence _

/-- Items that have been kept, without anchors, have no new texts. -/
theorem Kept.prod_le {items bareItems : List (Option Regex)} (h : Kept last items bareItems) :
    ((bareItems.reverse.filterMap id).map texts).prod ≤
      ((items.reverse.filterMap id).map texts).prod := by
  induction h with
  | nil => exact le_refl _
  | regex hc h ih =>
    simp only [List.reverse_cons, List.filterMap_append, List.map_append, List.prod_append]
    exact mul_le_mul' ih (by simpa using hc)
  | switches h ih =>
    simp only [List.reverse_cons, List.filterMap_append, List.map_append, List.prod_append]
    exact mul_le_mul' ih (le_refl _)
  | anchor condition h ih =>
    simp only [List.reverse_cons, List.filterMap_append, List.map_append, List.prod_append]
    simpa [texts_anchor] using ih

theorem Group.Covers.texts_current_le {full bare : Group} (h : Group.Covers last full bare) :
    bare.current.texts ≤ full.current.texts := by
  rw [texts_current, texts_current]
  exact h.items.prod_le

theorem isEmpty_eq {α : Type} {R : α → α → Prop} {items others : List α}
    (h : List.Forall₂ R items others) : items.isEmpty = others.isEmpty := by
  cases h <;> rfl

theorem texts_either_le {items others : List Regex}
    (h : List.Forall₂ (fun a b => a.texts ≤ b.texts) items others) :
    (either items).texts ≤ (either others).texts := by
  rw [texts_either, texts_either]
  exact List.Forall₂.sum_le_sum (List.forall₂_map_left_iff.mpr (List.forall₂_map_right_iff.mpr h))

/-- A group that covers another one has all of its texts. -/
theorem Group.Covers.texts_le {full bare : Group} (h : Group.Covers last full bare) :
    bare.expression.texts ≤ full.expression.texts := by
  have hbody : (if bare.branches.isEmpty then bare.current
        else either (bare.current :: bare.branches).reverse).texts ≤
      (if full.branches.isEmpty then full.current
        else either (full.current :: full.branches).reverse).texts := by
    rw [isEmpty_eq h.branches]
    split
    · exact h.texts_current_le
    · exact texts_either_le (List.forall₂_reverse_iff.mpr (.cons h.texts_current_le h.branches))
  unfold expression
  rw [h.index?]
  cases full.index? with
  | none => exact hbody
  | some index => exact hbody

/-! ### States -/

/-- A text and the text without its anchors have been read. -/
structure State.Covers (last : Bool) (full bare : State) : Prop where
  flags : bare.flags = full.flags
  captures : bare.captures = full.captures
  names : bare.names = full.names
  group : Group.Covers last full.group bare.group
  outer : List.Forall₂ (fun full bare => ∃ last, Group.Covers last full bare) full.outer bare.outer

namespace State.Covers

variable {full bare : State}

/-- Both texts begin alike. -/
theorem initial : State.Covers true .initial .initial :=
  ⟨rfl, rfl, rfl, ⟨rfl, rfl, .nil, .nil⟩, .nil⟩

/-- The items of the current alternative are all that changes. -/
theorem withItems {now : Bool} {items bareItems : List (Option Regex)}
    (h : State.Covers last full bare) (hi : Kept now items bareItems) :
    State.Covers now { full with group.items := items } { bare with group.items := bareItems } :=
  ⟨h.flags, h.captures, h.names, ⟨h.group.outerFlags, h.group.index?, h.group.branches, hi⟩,
    h.outer⟩

/-- One more item on both sides. -/
theorem push {regex bareRegex : Regex} (h : State.Covers last full bare)
    (hr : bareRegex.texts ≤ regex.texts) :
    State.Covers true (full.push regex) (bare.push bareRegex) :=
  h.withItems (.regex hr h.group.items)

/-- What the flags and a character or class say is the same. -/
theorem push_flags (f : Flags → Regex) (h : State.Covers last full bare) :
    State.Covers true (full.push (f full.flags)) (bare.push (f bare.flags)) := by
  rw [h.flags]
  exact h.push (le_refl _)

/-- One more anchor in the whole text only: a quantifier behind it has nothing to repeat on the
other side. -/
theorem pushAnchor (condition : Anchor) (h : State.Covers last full bare) :
    State.Covers false (full.push (Regex.anchor condition)) bare :=
  h.withItems (.anchor condition h.group.items)

theorem alternative (h : State.Covers last full bare) :
    State.Covers true full.alternative bare.alternative :=
  ⟨h.flags, h.captures, h.names, ⟨h.group.outerFlags, h.group.index?,
    .cons h.group.texts_current_le h.group.branches, .nil⟩, h.outer⟩

/-- A group is opened in both texts. -/
theorem enter (flags : Flags) (index? : Option Nat) (h : State.Covers last full bare) :
    State.Covers true (full.enter flags index?) (bare.enter flags index?) :=
  ⟨rfl, h.captures, h.names, ⟨h.flags, rfl, .nil, .nil⟩, .cons ⟨last, h.group⟩ h.outer⟩

theorem openCapture (h : State.Covers last full bare) :
    State.Covers true full.openCapture bare.openCapture := by
  have henter := h.enter full.flags (some (full.captures + 1))
  unfold State.openCapture
  rw [h.flags, h.captures]
  exact ⟨henter.flags, rfl, henter.names, henter.group, henter.outer⟩

/-- A group is opened in the one text exactly as in the other. -/
theorem openGroup? {head : GroupHead} {next : State} (h : State.Covers last full bare)
    (hfull : full.openGroup? head = some next) :
    ∃ bareNext, bare.openGroup? head = some bareNext ∧ State.Covers true next bareNext := by
  have hcapture := h.openCapture
  have hswitches (letters : List (Char × Bool)) :
      bare.switches letters = full.switches letters := by
    rw [State.switches, State.switches, h.flags]
  cases head with
  | capture =>
    cases hfull
    exact ⟨_, rfl, hcapture⟩
  | named name =>
    unfold State.openGroup? at hfull ⊢
    dsimp only at hfull ⊢
    rw [h.names]
    split at hfull
    · cases hfull
    · rename_i hname
      cases hfull
      rw [if_neg hname]
      exact ⟨_, rfl, hcapture.flags, hcapture.captures, rfl, hcapture.group, hcapture.outer⟩
  | scope letters =>
    cases hfull
    refine ⟨_, rfl, ?_⟩
    rw [hswitches]
    exact h.enter _ none
  | switches letters =>
    cases hfull
    refine ⟨_, rfl, ?_⟩
    rw [hswitches]
    exact ⟨rfl, h.captures, h.names, ⟨h.group.outerFlags, h.group.index?, h.group.branches,
      .switches h.group.items⟩, h.outer⟩

/-- A group is closed in both texts. -/
theorem close? {next : State} (h : State.Covers last full bare)
    (hfull : full.close? = some next) :
    ∃ bareNext, bare.close? = some bareNext ∧ State.Covers true next bareNext := by
  have houter := h.outer
  unfold State.close? at hfull ⊢
  split at hfull
  · cases hfull
  · rename_i group outer heq
    cases hfull
    rw [heq] at houter
    generalize hbare : bare.outer = bareOuter at houter
    cases houter with
    | cons hgroup houter =>
      obtain ⟨last, hgroup⟩ := hgroup
      refine ⟨_, rfl, ?_⟩
      refine push ⟨h.group.outerFlags, h.captures, h.names, hgroup, houter⟩ h.group.texts_le

/-- What is repeated is the last item in both. -/
theorem repeat? {min : Nat} {max : Option Nat} {greedy : Bool} {next : State}
    (hb : ∀ m ∈ max, min ≤ m) (h : State.Covers true full bare)
    (hfull : full.repeat? min max greedy = some next) :
    ∃ bareNext, bare.repeat? min max greedy = some bareNext ∧ State.Covers true next bareNext := by
  have hitems := h.group.items
  unfold State.repeat? at hfull ⊢
  split at hfull
  · rename_i item items heq
    cases hfull
    rw [heq] at hitems
    generalize hbare : bare.group.items = bareItems at hitems
    cases hitems with
    | regex hc hitems =>
      refine ⟨_, rfl, h.withItems (.regex ?_ hitems)⟩
      rw [texts_repeated hb, texts_repeated hb]
      exact timesBetween_mono hc
  · cases hfull

/-- An item that is read off both texts is added to both states; a repetition needs an item that is
the last one in both. -/
theorem take? {item : Item} {next : State} (h : State.Covers last full bare)
    (hquantifier : ∀ min max greedy, item = .quantifier min max greedy →
      last = true ∧ ∀ m ∈ max, min ≤ m)
    (hfull : full.take? lexicon item = some next) :
    ∃ bareNext, bare.take? lexicon item = some bareNext ∧ State.Covers true next bareNext := by
  cases item with
  | openGroup head => exact h.openGroup? hfull
  | closeGroup => exact h.close? hfull
  | quantifier min max greedy =>
    obtain ⟨rfl, hb⟩ := hquantifier min max greedy rfl
    exact h.repeat? hb hfull
  | bar =>
    cases hfull
    exact ⟨_, rfl, h.alternative⟩
  | set chars =>
    cases hfull
    exact ⟨_, rfl, h.push (le_refl _)⟩
  | escape escape =>
    cases hfull
    exact ⟨_, rfl, h.push_flags (escape.regex lexicon)⟩
  | point =>
    obtain ⟨regex, hregex, hfull⟩ := Option.bind_eq_some_iff.mp hfull
    cases hfull
    refine ⟨_, ?_, h.push (le_refl regex.texts)⟩
    rw [State.take?, h.flags, hregex]
    rfl
  | start =>
    cases hfull
    exact ⟨_, rfl, h.push_flags fun flags => .anchor (startAnchor flags)⟩
  | stop =>
    cases hfull
    exact ⟨_, rfl, h.push_flags fun flags => .anchor (endAnchor flags)⟩
  | char c =>
    cases hfull
    exact ⟨_, rfl, h.push_flags (charRegex lexicon · c)⟩

/-- An anchor may be left out. -/
theorem take?_anchor {item : Item} {next : State} (hi : item.IsAnchor)
    (h : State.Covers last full bare) (hfull : full.take? lexicon item = some next) :
    State.Covers false next bare := by
  cases item with
  | start =>
    cases hfull
    exact h.pushAnchor _
  | stop =>
    cases hfull
    exact h.pushAnchor _
  | escape escape =>
    cases escape with
    | anchor condition =>
      cases hfull
      exact h.pushAnchor condition
    | char c => cases hi
    | set chars => cases hi
  | _ => cases hi

end State.Covers

/-! ### Expressions -/

/-- Whether blanks count wherever an item of a text is read. -/
def blanksCount (lexicon : Lexicon) (state : State) : Nat → List Char → Bool
  | 0, _ => true
  | fuel + 1, text =>
    !state.flags.ignoreBlanks &&
      match item? lexicon state.flags text with
      | none => true
      | some (item, rest) =>
        match state.take? lexicon item with
        | none => true
        | some next => blanksCount lexicon next fuel rest

/-- Whether blanks count everywhere in a text. -/
def blanksCountIn (lexicon : Lexicon) (text : String) : Bool :=
  blanksCount lexicon .initial (text.length + 1) text.toList

theorem blanksCount_step {state next : State} {fuel : Nat} {item : Item}
    (h : blanksCount lexicon state (fuel + 1) text)
    (hitem : item? lexicon state.flags text = some (item, rest))
    (hnext : state.take? lexicon item = some next) : blanksCount lexicon next fuel rest := by
  rw [blanksCount, hitem] at h
  dsimp only at h
  rw [hnext, Bool.and_eq_true] at h
  exact h.2

/-- A text is read beside the text without its anchors. Where an anchor has just been left out, no
repetition follows. -/
def Beside (full : State) (text : List Char) (bare : State) (thin : List Char) : Prop :=
  ∃ last inClass, State.Covers last full bare ∧ Thinned inClass text thin ∧
    (last = false → startsQuantified text = false)

/-- An item is read off both texts, or it is an anchor that the thinned text does not have. -/
theorem Beside.step {full bare next : State} {item : Item} (h : Beside full text bare thin)
    (hf : full.flags.ignoreBlanks = false)
    (hitem : item? lexicon full.flags text = some (item, rest))
    (hnext : full.take? lexicon item = some next) :
    Beside next rest bare thin ∨
      (thin ≠ [] ∧ ∀ other more bareNext, item? lexicon bare.flags thin = some (other, more) →
        bare.take? lexicon other = some bareNext → Beside next rest bareNext more) := by
  obtain ⟨last, inClass, hcovers, hthin, hlast⟩ := h
  rcases item?_thinned hf hthin hitem with ⟨hanchor, hquantified, hmore⟩ | ⟨hne, hsame⟩
  · exact .inl ⟨false, false, hcovers.take?_anchor hanchor hnext, hmore, fun _ => hquantified⟩
  · refine .inr ⟨hne, fun other more bareNext hother hbareNext => ?_⟩
    rw [hcovers.flags] at hother
    obtain ⟨rfl, behind, hmore⟩ := hsame other more hother
    have hquantifier (min : Nat) (max : Option Nat) (greedy : Bool)
        (heq : other = .quantifier min max greedy) : last = true ∧ ∀ m ∈ max, min ≤ m := by
      obtain ⟨hquantified, hbounds⟩ := quantifier_of_item? (heq ▸ hitem)
      refine ⟨?_, hbounds⟩
      cases last with
      | true => rfl
      | false => exact absurd hquantified (Bool.eq_false_iff.mp (hlast rfl))
    obtain ⟨found, hfound, hcovers⟩ := hcovers.take? hquantifier hnext
    rw [hfound] at hbareNext
    cases hbareNext
    exact ⟨true, behind, hcovers, hmore, fun hlast => nomatch hlast⟩

/-- An expression has been read at the end of a text, or one item was read before. -/
theorem exists_of_parseWith {state : State} {fuel : Nat} {regex : Regex}
    (hf : state.flags.ignoreBlanks = false)
    (h : parseWith lexicon state fuel text = some regex) :
    (text = [] ∧ state.group.expression = regex) ∨
      (text ≠ [] ∧ ∃ rounds item rest next, fuel = rounds + 1 ∧
        item? lexicon state.flags text = some (item, rest) ∧ state.take? lexicon item = some next ∧
        parseWith lexicon next rounds rest = some regex) := by
  cases fuel with
  | zero => cases h
  | succ rounds =>
    rw [parseWith, skip_eq hf] at h
    split at h
    · split at h
      · exact .inl ⟨rfl, Option.some.inj h⟩
      · cases h
    · rename_i hne
      obtain ⟨⟨item, rest⟩, hitem, h⟩ := Option.bind_eq_some_iff.mp h
      obtain ⟨next, hnext, h⟩ := Option.bind_eq_some_iff.mp h
      exact .inr ⟨hne, rounds, item, rest, next, rfl, hitem, hnext, h⟩

/-- Without its anchors, a text is read as an expression that has no other texts. -/
theorem texts_le_of_parseWith {full bare : State} {fuel enough : Nat} {whole thinned : Regex}
    (h : Beside full text bare thin) (hblanks : blanksCount lexicon full fuel text)
    (hwhole : parseWith lexicon full fuel text = some whole)
    (hthinned : parseWith lexicon bare enough thin = some thinned) :
    thinned.texts ≤ whole.texts := by
  induction fuel generalizing full bare text thin enough with
  | zero => cases hwhole
  | succ fuel ih =>
    have hf : full.flags.ignoreBlanks = false := by
      rw [blanksCount, Bool.and_eq_true, Bool.not_eq_true'] at hblanks
      exact hblanks.1
    have hbare : bare.flags.ignoreBlanks = false := by
      obtain ⟨last, inClass, hcovers, -⟩ := h
      rw [hcovers.flags, hf]
    rcases exists_of_parseWith hf hwhole with
      ⟨rfl, rfl⟩ | ⟨-, rounds, item, rest, next, hfuel, hitem, hnext, hparse⟩
    · obtain ⟨last, inClass, hcovers, hthin, -⟩ := h
      obtain rfl := hthin.nil_left
      rcases exists_of_parseWith hbare hthinned with ⟨-, rfl⟩ | ⟨hne, -⟩
      · exact hcovers.group.texts_le
      · exact absurd rfl hne
    · obtain rfl := Nat.succ.inj hfuel
      have hrest := blanksCount_step hblanks hitem hnext
      rcases h.step hf hitem hnext with hleft | ⟨hne, hkept⟩
      · exact ih hleft hrest hparse hthinned
      · rcases exists_of_parseWith hbare hthinned with
          ⟨hnil, -⟩ | ⟨-, rounds, other, more, bareNext, -, hother, hbareNext, hmore⟩
        · exact absurd hnil hne
        · exact ih (hkept other more bareNext hother hbareNext) hrest hparse hmore

end Specimen.Pattern.Regex
