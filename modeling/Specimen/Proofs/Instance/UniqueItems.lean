import Specimen.Proofs.Instance.Recording
import Specimen.Proofs.Instance.Telling
import Specimen.Proofs.Json.Zeros

/-!
# Specimen.Proofs.Instance.UniqueItems

Items that have to be different (`recordsRepeat_of_array`).

Items are compared by their texts. An array whose items should differ is told of exactly when the text
of an item is that of an earlier one, however the items came about. Equal values mostly have one text,
but not all of them do: the signs of zeros are written, although they make no difference. Equal items
that nothing is told of differ in nothing else.
-/

namespace Specimen.Instance

open Specimen.Random (Highest)

variable {σ α β : Type} {place : Pointer}

/-! ### Texts that are new -/

/-- Some texts differ from each other and from the known ones. -/
structure AreNew (known texts : List String) : Prop where
  nodup : texts.Nodup
  unknown : ∀ text ∈ texts, text ∉ known

theorem areNew_nil {known : List String} : AreNew known [] :=
  ⟨.nil, fun _ h => absurd h List.not_mem_nil⟩

/-- One after the other, each text becomes known to those behind it. -/
theorem areNew_cons_iff {known rest : List String} {text : String} :
    AreNew known (text :: rest) ↔ text ∉ known ∧ AreNew (text :: known) rest := by
  constructor
  · intro h
    obtain ⟨hfirst, hrest⟩ := List.nodup_cons.mp h.nodup
    refine ⟨h.unknown text List.mem_cons_self, hrest, fun other hother hmem => ?_⟩
    rcases List.mem_cons.mp hmem with rfl | hknown
    · exact hfirst hother
    · exact h.unknown other (List.mem_cons_of_mem _ hother) hknown
  · intro h
    obtain ⟨htext, hnodup, hunknown⟩ := h
    refine ⟨List.nodup_cons.mpr ⟨fun hmem => ?_, hnodup⟩, fun other hother hknown => ?_⟩
    · exact hunknown text hmem List.mem_cons_self
    · rcases List.mem_cons.mp hother with rfl | hmem
      · exact htext hknown
      · exact hunknown other hmem (List.mem_cons_of_mem _ hknown)

/-! ### What is told of repeated items -/

/-- A part of a run tells nothing of repeated items at a place. -/
def Quiet (place : Pointer) (part : Run σ α) : Prop :=
  Leaves part fun before _ after =>
    after.Lists .uniqueItemsExhausted place.text ↔ before.Lists .uniqueItemsExhausted place.text

/-- A part of a run tells of repeated items at a place exactly when its result repeats some. -/
def TellsWhen (place : Pointer) (part : Run σ α) (repeats : α → Prop) : Prop :=
  Leaves part fun before a after =>
    after.Lists .uniqueItemsExhausted place.text ↔
      before.Lists .uniqueItemsExhausted place.text ∨ repeats a

theorem quiet_pure (a : α) : Quiet place (pure a : Run σ α) :=
  leaves_pure fun _ => Iff.rfl

theorem quiet_attempt (attempt : Attempt σ α) : Quiet place (Run.attempt attempt) :=
  (leaves_attempt (yields_any attempt)).mono fun _ _ _ h => by rw [h.1]

theorem quiet_draw (draw : Random.Draw σ α) : Quiet place (Run.draw draw) :=
  quiet_attempt (Attempt.draw draw)

theorem quiet_mute (part : Run σ α) : Quiet place (mute part) :=
  fun _ _ _ => Iff.rfl

variable {part : Run σ α} {next : α → Run σ β}

theorem Quiet.bind (h : Quiet place part) (hn : ∀ a, Quiet place (next a)) :
    Quiet place (part >>= next) :=
  Leaves.bind h fun a => (hn a).mono fun _ _ _ hnext _ hpart => hnext.trans hpart

/-- After a part that tells nothing, what is told is what the parts behind it tell. -/
theorem Quiet.andThen {repeats : β → Prop} (h : Quiet place part)
    (hn : ∀ a, TellsWhen place (next a) repeats) : TellsWhen place (part >>= next) repeats :=
  Leaves.bind h fun a => (hn a).mono fun _ _ _ hnext _ hpart =>
    hnext.trans (or_congr hpart Iff.rfl)

variable {set : Constraints} {draw : Run σ Json} {child : Pointer → Run σ Json}

theorem quiet_element (hc : ∀ node, Quiet place (child node)) (node? : Option Pointer) :
    Quiet place (element child node?) := by
  cases node? with
  | none => exact quiet_pure _
  | some node => exact hc node

theorem quiet_distinct (hd : Quiet place draw) (known : List String) (item : Json)
    (attempts : Nat) : Quiet place (distinct known draw item attempts) := by
  induction attempts generalizing item with
  | zero => exact quiet_pure _
  | succ attempts ih =>
    unfold distinct
    split
    · exact hd.bind fun other => ih other
    · exact quiet_pure _

theorem tellsWhen_itemFrom (hunique : set.uniqueItems = true) (hd : Quiet set.pointer draw)
    (options : Options) (known : List String) :
    TellsWhen set.pointer (itemFrom options set known draw) fun item => item.text ∈ known := by
  unfold itemFrom
  rw [if_pos hunique]
  -- Only what is drawn last counts; the draws before it tell nothing.
  refine hd.andThen fun first => Leaves.bind (quiet_distinct hd known first _) fun item => ?_
  split
  · rename_i hknown
    refine Leaves.bind (leaves_record _ _ _) fun _ => leaves_pure fun after => ?_
    intro between hafter before hdistinct
    rw [hafter]
    exact iff_of_true Report.lists_record_self (.inr (List.contains_iff_mem.mp hknown))
  · rename_i hunknown
    refine leaves_pure fun after => fun before hdistinct => ?_
    have hnew : item.text ∉ known := fun hmem => hunknown (List.contains_iff_mem.mpr hmem)
    exact hdistinct.trans (or_iff_left hnew).symm

/-- Each item is compared with all before it. -/
theorem tellsWhen_items (hunique : set.uniqueItems = true)
    (hc : ∀ node, Quiet set.pointer (child node)) (options : Options) (containsAt : Option Nat)
    (known : List String) (index count : Nat) :
    TellsWhen set.pointer (items options set child containsAt known index count) fun elements =>
      ¬AreNew known (elements.map Json.text) := by
  induction count generalizing known index with
  | zero => exact leaves_pure fun report => by simp [areNew_nil]
  | succ count ih =>
    have hdraw : Quiet set.pointer (element child (schemaAt? set containsAt index)) :=
      quiet_element hc _
    refine Leaves.bind (tellsWhen_itemFrom hunique hdraw options known) fun item => ?_
    rw [hunique, if_pos rfl]
    refine Leaves.bind (ih (item.text :: known) (index + 1)) fun rest => leaves_pure fun after => ?_
    intro between hrest before hitem
    show _ ↔ _ ∨ ¬AreNew known (item.text :: rest.map Json.text)
    rw [hrest, hitem, areNew_cons_iff, not_and_or, Decidable.not_not, or_assoc]

variable [Random.Source σ]

theorem quiet_lengthWithin (least greatest : Nat) :
    Quiet place (lengthWithin least greatest : Run σ Nat) := by
  unfold lengthWithin
  split
  · exact quiet_pure _
  · exact quiet_draw _

theorem quiet_containsPosition (set : Constraints) (length : Nat) :
    Quiet place (containsPosition set length : Run σ (Option Nat)) := by
  unfold containsPosition
  split
  · rw [map_eq_pure_bind]
    exact (quiet_draw _).bind fun _ => quiet_pure _
  · exact quiet_pure _

/-- When the items below tell nothing, an array is told of exactly when two items have one text. -/
theorem tellsWhen_array (hunique : set.uniqueItems = true)
    (hc : ∀ node, Quiet set.pointer (child node)) (options : Options) :
    TellsWhen set.pointer (array options set child) fun elements =>
      ¬(elements.map Json.text).Nodup := by
  unfold array
  refine (quiet_attempt _).andThen fun (least, greatest) => ?_
  refine (quiet_lengthWithin least greatest).andThen fun length => ?_
  refine (quiet_containsPosition set length).andThen fun containsAt => ?_
  refine (tellsWhen_items hunique hc options containsAt [] 0 length).mono ?_
  intro before elements after h
  have hnew : AreNew [] (elements.map Json.text) ↔ (elements.map Json.text).Nodup :=
    ⟨fun h => h.nodup, fun h => ⟨h, fun _ _ => List.not_mem_nil⟩⟩
  exact h.trans (or_congr Iff.rfl (not_congr hnew))

/-! ### An array by itself -/

variable {setting : Setting σ} {room : Nat} {progress : Progress σ} {elements : List Json}

/-- The array that a set of demands asks for; `room` is the number of levels that are left for its
items. -/
def arrayBelow (setting : Setting σ) (set : Constraints) (room : Nat) : Run σ (List Json) :=
  array setting.options set fun node => value setting room node none

/-- The same array with mute items. -/
def arrayAlone (setting : Setting σ) (set : Constraints) (room : Nat) : Run σ (List Json) :=
  array setting.options set fun node => mute (value setting room node none)

theorem echoing_arrayAlone (setting : Setting σ) (set : Constraints) (room : Nat) :
    Echoing (List Json) (arrayBelow setting set room) (arrayAlone setting set room) :=
  related_array congruent_echoing fun node _ => echoing_mute (echoing_value room node none)

/-- The making of an array by itself records that items are repeated, and the report of the run lists
it. -/
structure RecordsRepeat (setting : Setting σ) (set : Constraints) (room : Nat)
    (progress : Progress σ) : Prop where
  itself : (arrayAlone setting set room progress.afresh).2.report.Lists .uniqueItemsExhausted
    set.pointer.text
  listed : (arrayBelow setting set room progress).2.report.Lists .uniqueItemsExhausted
    set.pointer.text

theorem recordsRepeat_iff (hunique : set.uniqueItems = true)
    (h : (arrayBelow setting set room progress).1 = .ok elements) :
    RecordsRepeat setting set room progress ↔ ¬(elements.map Json.text).Nodup := by
  obtain ⟨hsame, hechoes, -⟩ :=
    echoing_arrayAlone setting set room _ _ progress.echoes_afresh
  have hnothing : ¬progress.afresh.report.Lists .uniqueItemsExhausted set.pointer.text := by
    intro hlists
    obtain ⟨issue, hissue, -⟩ := hlists
    cases hissue
  have htells := tellsWhen_array hunique (fun node => quiet_mute (value setting room node none))
    setting.options progress.afresh elements (hsame.symm.trans h)
  have hitself := htells.trans (or_iff_right hnothing)
  exact ⟨fun hrecords => hitself.mp hrecords.itself, fun hrepeats =>
    ⟨hitself.mpr hrepeats, hechoes.report.lists _ _ (hitself.mpr hrepeats)⟩⟩

/-- **Repeated items.** When items have to be different, an array tells of a repetition exactly when
two of its items have one text. So it tells of two equal items, unless they differ in the signs of
zeros, which their texts show, and in nothing else. -/
theorem recordsRepeat_of_array (hunique : set.uniqueItems = true)
    (h : (array setting.options set (fun node => value setting room node none) progress).1 =
      .ok elements) :
    (RecordsRepeat setting set room progress ↔ ¬(elements.map Json.text).Nodup) ∧
    ∀ (i j : Nat) (a b : Json), i ≠ j → elements[i]? = some a → elements[j]? = some b → (a == b) = true →
      RecordsRepeat setting set room progress ∨
        (a.text ≠ b.text ∧ a.plainZeros = b.plainZeros) := by
  have hrecords := recordsRepeat_iff hunique h
  refine ⟨hrecords, fun i j a b hne hi hj heq => ?_⟩
  by_cases htext : a.text = b.text
  · left
    rw [hrecords]
    intro hnodup
    have hlt : i < (elements.map Json.text).length := by
      rw [List.length_map]
      exact (List.getElem?_eq_some_iff.mp hi).1
    have hsame : (elements.map Json.text)[i]? = (elements.map Json.text)[j]? := by
      rw [List.getElem?_map, List.getElem?_map, hi, hj]
      exact congrArg some htext
    exact hne ((List.getElem?_inj hlt hnodup).mp hsame)
  · exact .inr ⟨htext, Json.plainZeros_eq_of_beq heq⟩

/-- Two schemas of zeros with different signs. -/
def bothZeros : Document := .ofJson (.object [("prefixItems", .arr [
  .object [("const", .double .zero)], .object [("const", .double (.finite true .zero))]])])

/-- A pair of different zeros. -/
def twoZeros : Constraints :=
  { Constraints.any .root with
    kinds := .of [.array]
    minItems := some 2
    maxItems := some 2
    uniqueItems := true
    prefixItems := bothZeros.subschemas .root "prefixItems" }

/-- No level is left below such a pair. -/
def ofZeros : Setting Highest where
  document := bothZeros
  options := { Options.default with maxDepth := 1 }
  provider := .ofTable []
  library := .bundled

/-- Both zeros are equal, but their texts differ, and nothing is recorded. -/
theorem recordsRepeat_of_array_ofZeros :
    ∃ elements a b, twoZeros.uniqueItems = true ∧
      (array ofZeros.options twoZeros (fun node => value ofZeros 0 node none)
        ⟨⟨⟩, [], 0, .start 0⟩).1 = .ok elements ∧
      elements[0]? = some a ∧ elements[1]? = some b ∧ (a == b) = true ∧
      a.text ≠ b.text ∧ a.plainZeros = b.plainZeros ∧
      ¬RecordsRepeat ofZeros twoZeros 0 ⟨⟨⟩, [], 0, .start 0⟩ := by
  have hunique : twoZeros.uniqueItems = true := rfl
  have hrun : (array ofZeros.options twoZeros (fun node => value ofZeros 0 node none)
      ⟨⟨⟩, [], 0, .start 0⟩).1 = .ok [.double .zero, .double (.finite true .zero)] := rfl
  obtain ⟨hrecords, hequal⟩ := recordsRepeat_of_array hunique hrun
  have hquiet : ¬RecordsRepeat ofZeros twoZeros 0 ⟨⟨⟩, [], 0, .start 0⟩ := by
    rw [hrecords, Decidable.not_not]
    decide +kernel
  have hsame : (Json.double .zero == Json.double (.finite true .zero)) = true := by decide
  obtain ⟨htexts, hzeros⟩ :=
    (hequal 0 1 _ _ (by decide) rfl rfl hsame).resolve_left hquiet
  exact ⟨_, _, _, hunique, hrun, rfl, rfl, hsame, htexts, hzeros, hquiet⟩

end Specimen.Instance
