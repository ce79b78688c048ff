import Mathlib.Data.List.Forall2
import Specimen.Proofs.Numeral
import Specimen.Proofs.Outcome
import Specimen.Schema.Reference

/-!
# Specimen.Proofs.Schema.Place

The places of a document, and the pointers that reach them.

A place is the way down to it, by the keys of objects and the indices of arrays (`Step`). A pointer
leads along its tokens (`Pointer.Reaches`), and since an index may have a plus sign and zeros in
front, several pointers may reach one place. Which ones they are is said without the document
(`Pointer.Spells`): a key is its own token, an index is written in decimal, or so behind a plus sign
and zeros.

Pointers that reach one place are therefore equal unless one of them writes an index with a plus
sign (`Pointer.reaches_same_place_iff`).
-/

namespace Specimen.Pointer

/-- A step down in a document. -/
inductive Step where
  | member (key : String)
  | element (index : Nat)
  deriving DecidableEq

/-- The tokens lead from a value along the steps to a part of it. -/
inductive Leads : Json → List String → List Step → Json → Prop where
  | here {value : Json} : Leads value [] [] value
  | member {members : List (String × Json)} {key : String} {child part : Json}
      {tokens : List String} {place : List Step} (hchild : members.lookup key = some child)
      (hrest : Leads child tokens place part) :
      Leads (.obj members) (key :: tokens) (.member key :: place) part
  | element {elements : List Json} {token : String} {index : Nat} {child part : Json}
      {tokens : List String} {place : List Step} (hindex : index? token = some index)
      (hchild : elements[index]? = some child) (hrest : Leads child tokens place part) :
      Leads (.arr elements) (token :: tokens) (.element index :: place) part

/-- A pointer reaches a place of a document. -/
def Reaches (pointer : Pointer) (document : Json) (place : List Step) : Prop :=
  ∃ part, Leads document pointer.tokens place part

/-- The tokens for a step. -/
inductive Spells : Step → String → Prop where
  | key (key : String) : Spells (.member key) key
  | decimal (index : Nat) : Spells (.element index) (toString index)
  | plus (index zeros : Nat) :
      Spells (.element index)
        (String.ofList ('+' :: (List.replicate zeros '0' ++ (toString index).toList)))

/-- The token of a step without a plus sign. -/
def Step.token : Step → String
  | member key => key
  | element index => toString index

/-- The pointer to a place that has no plus sign in its indices. -/
def ofPlace (place : List Step) : Pointer := ⟨place.map Step.token⟩

/-! ### Places and look-ups -/

section Lookup

variable {value part : Json} {tokens : List String}

theorem foldlM_of_leads {place : List Step} (h : Leads value tokens place part) :
    tokens.foldlM Json.child? value = some part := by
  induction h with
  | here => rfl
  | member hchild _ ih => exact Option.bind_eq_some_iff.mpr ⟨_, hchild, ih⟩
  | element hindex hchild _ ih =>
    have helement := Option.bind_eq_some_iff.mpr ⟨_, hindex, hchild⟩
    exact Option.bind_eq_some_iff.mpr ⟨_, helement, ih⟩

theorem exists_leads_of_foldlM (h : tokens.foldlM Json.child? value = some part) :
    ∃ place, Leads value tokens place part := by
  induction tokens generalizing value with
  | nil => cases h; exact ⟨[], .here⟩
  | cons token tokens ih =>
    obtain ⟨child, hchild, hrest⟩ := Option.bind_eq_some_iff.mp h
    obtain ⟨place, hplace⟩ := ih hrest
    unfold Json.child? at hchild
    split at hchild
    · exact ⟨_, .member hchild hplace⟩
    · obtain ⟨index, hindex, hchild⟩ := Option.bind_eq_some_iff.mp hchild
      exact ⟨_, .element hindex hchild hplace⟩
    · cases hchild

theorem Leads.place_eq {place other : List Step} {last : Json}
    (h : Leads value tokens place part) (ho : Leads value tokens other last) : place = other := by
  induction h generalizing other with
  | here =>
    cases ho
    rfl
  | member hchild _ ih =>
    cases ho with
    | member hother hrest =>
      cases hchild.symm.trans hother
      rw [ih hrest]
  | element hindex hchild _ ih =>
    cases ho with
    | element hindex' hother hrest =>
      cases hindex.symm.trans hindex'
      cases hchild.symm.trans hother
      rw [ih hrest]

/-- A pointer finds a part of a document exactly when it reaches a place, which is then the only
one. -/
theorem lookup_eq_some_iff_reaches {pointer : Pointer} {document : Json} :
    (∃ part, pointer.lookup document = some part) ↔ ∃! place, pointer.Reaches document place := by
  constructor
  · rintro ⟨part, h⟩
    obtain ⟨place, hplace⟩ := exists_leads_of_foldlM h
    refine ⟨place, ⟨part, hplace⟩, fun other hother => ?_⟩
    obtain ⟨_, hother⟩ := hother
    exact hother.place_eq hplace
  · rintro ⟨place, ⟨part, h⟩, -⟩
    exact ⟨part, foldlM_of_leads h⟩

end Lookup

/-! ### The tokens for a step -/

section Spelling

variable {token : String} {index : Nat}

theorem toList_toString (index : Nat) : (toString index).toList = Nat.toDigits 10 index := by
  rw [Nat.toString_eq_ofList_toDigits, String.toList_ofList]

theorem one_lt_utf8ByteSize_iff {rest : List Char} (h : token.toList = '0' :: rest) :
    1 < token.utf8ByteSize ↔ rest ≠ [] := by
  have htoken : token = String.singleton '0' ++ String.ofList rest := by
    apply String.toList_inj.mp
    simp [h]
  have hempty : (String.ofList rest).utf8ByteSize = 0 ↔ rest = [] := by
    rw [String.utf8ByteSize_eq_zero_iff, ← String.toList_inj, String.toList_ofList]
    rfl
  rw [htoken, String.utf8ByteSize_append, String.utf8ByteSize_singleton, ne_eq, ← hempty]
  show 1 < 1 + _ ↔ _
  omega

/-- The tokens for an index. -/
theorem index?_eq_some_iff :
    index? token = some index ↔ index < 2 ^ 64 ∧ Spells (.element index) token := by
  have hread := @Numeral.unsigned64?_eq_some_iff index token
  unfold index?
  constructor
  · intro h
    split at h
    · cases h
    · rename_i hzero
      obtain ⟨hlt, zeros, htoken | htoken⟩ := hread.mp h
      · cases zeros with
        | zero =>
          rw [List.replicate_zero, List.nil_append, ← toList_toString] at htoken
          rw [String.toList_inj.mp htoken]
          exact ⟨hlt, .decimal index⟩
        | succ zeros =>
          -- One more zero in front is the leading zero that an index must not have.
          rw [List.replicate_succ, List.cons_append] at htoken
          refine absurd ⟨(one_lt_utf8ByteSize_iff htoken).mpr ?_, ?_⟩ hzero
          · simp [Nat.toDigits_ne_nil]
          · rw [htoken, List.head?_cons]
      · rw [← toList_toString] at htoken
        rw [← String.ofList_toList (s := token), htoken]
        exact ⟨hlt, .plus index zeros⟩
  · rintro ⟨hlt, hspells⟩
    cases hspells with
    | decimal =>
      have htoken := toList_toString index
      rw [if_neg, hread]
      · exact ⟨hlt, 0, .inl htoken⟩
      · rintro ⟨hsize, hhead⟩
        obtain ⟨rest, hrest⟩ := List.head?_eq_some_iff.mp hhead
        exact Numeral.toDigits_ne_zero_cons ((one_lt_utf8ByteSize_iff hrest).mp hsize)
          (htoken.symm.trans hrest)
    | plus _ zeros =>
      rw [if_neg, hread]
      · refine ⟨hlt, zeros, .inr ?_⟩
        rw [String.toList_ofList, toList_toString]
      · simp

end Spelling

/-! ### The pointers to a place -/

section Place

variable {document : Json} {pointer other : Pointer} {place : List Step}

theorem spells_of_leads {value part : Json} {tokens : List String}
    (h : Leads value tokens place part) : List.Forall₂ Spells place tokens := by
  induction h with
  | here => exact .nil
  | member _ _ ih => exact .cons (.key _) ih
  | element hindex _ _ ih => exact .cons (index?_eq_some_iff.mp hindex).2 ih

/-- All other tokens for the same steps lead there as well. -/
theorem leads_of_spells {value part : Json} {tokens others : List String}
    (h : Leads value tokens place part) (hothers : List.Forall₂ Spells place others) :
    Leads value others place part := by
  induction h generalizing others with
  | here =>
    cases hothers
    exact .here
  | member hchild _ ih =>
    cases hothers with
    | cons hkey hrest =>
      cases hkey
      exact .member hchild (ih hrest)
  | element hindex hchild _ ih =>
    cases hothers with
    | cons hspells hrest =>
      have hlt := (index?_eq_some_iff.mp hindex).1
      exact .element (index?_eq_some_iff.mpr ⟨hlt, hspells⟩) hchild (ih hrest)

theorem spells_token (step : Step) : Spells step step.token := by
  cases step with
  | member key => exact .key key
  | element index => exact .decimal index

/-- The pointers to a place that a pointer reaches are those that spell it. -/
theorem reaches_iff_spells (h : pointer.Reaches document place) :
    other.Reaches document place ↔ List.Forall₂ Spells place other.tokens := by
  obtain ⟨part, hpart⟩ := h
  constructor
  · rintro ⟨_, hother⟩
    exact spells_of_leads hother
  · intro hother
    exact ⟨part, leads_of_spells hpart hother⟩

/-- A place that a pointer reaches is reached without a plus sign. -/
theorem reaches_ofPlace (h : pointer.Reaches document place) :
    (ofPlace place).Reaches document place :=
  (reaches_iff_spells h).mpr (List.forall₂_map_right_iff.mpr
    (List.forall₂_same.mpr fun step _ => spells_token step))

/-- Somewhere on the way to a place, an index is written in two ways, one of them with a plus
sign. -/
def DifferInSign (place : List Step) (tokens others : List String) : Prop :=
  ∃ (position index : Nat) (token another : String), place[position]? = some (.element index) ∧
    tokens[position]? = some token ∧ others[position]? = some another ∧ token ≠ another ∧
    (token.toList.head? = some '+' ∨ another.toList.head? = some '+')

theorem DifferInSign.cons {step : Step} {token another : String} {tokens others : List String}
    (h : DifferInSign place tokens others) :
    DifferInSign (step :: place) (token :: tokens) (another :: others) := by
  obtain ⟨position, h⟩ := h
  exact ⟨position + 1, h⟩

theorem head?_of_spells {index : Nat} {token : String} (h : Spells (.element index) token) :
    token = toString index ∨ token.toList.head? = some '+' := by
  cases h with
  | decimal => exact .inl rfl
  | plus _ zeros => exact .inr (by simp)

/-- Two tokens for one step are equal, or the step is an index and one of them has a plus sign. -/
theorem eq_or_plus_of_spells {step : Step} {token another : String} (h : Spells step token)
    (ha : Spells step another) : token = another ∨ ∃ index, step = .element index ∧
      (token.toList.head? = some '+' ∨ another.toList.head? = some '+') := by
  cases step with
  | member key =>
    cases h
    cases ha
    exact .inl rfl
  | element index =>
    rcases head?_of_spells h with heq | hplus
    · rcases head?_of_spells ha with heq' | hplus
      · exact .inl (heq.trans heq'.symm)
      · exact .inr ⟨index, rfl, .inr hplus⟩
    · exact .inr ⟨index, rfl, .inl hplus⟩

theorem eq_or_differInSign {tokens others : List String} (h : List.Forall₂ Spells place tokens)
    (ho : List.Forall₂ Spells place others) :
    tokens = others ∨ DifferInSign place tokens others := by
  induction h generalizing others with
  | nil =>
    cases ho
    exact .inl rfl
  | @cons step token place tokens htoken _ ih =>
    cases ho with
    | @cons _ another _ others hanother hrest =>
      by_cases heq : token = another
      · rcases ih hrest with hrest | hrest
        · exact .inl (by rw [heq, hrest])
        · exact .inr hrest.cons
      · obtain ⟨index, rfl, hplus⟩ := (eq_or_plus_of_spells htoken hanother).resolve_left heq
        exact .inr ⟨0, index, token, another, rfl, rfl, rfl, heq, hplus⟩

theorem exists_lookup_of_resolveReference {document : Document} {reference : String}
    {source target : Pointer} (h : document.resolveReference reference source = .ok target) :
    ∃ part, target.lookup document.root = some part := by
  have htarget := Document.target?_of_resolveReference h
  unfold Document.target? at htarget
  exact Option.isSome_iff_exists.mp (Option.filter_eq_some_iff.mp htarget).2

/-- **Pointers to one place differ in plus signs only.** A pointer that finds a part of a document,
as the target of every reference does, reaches one place. Of the pointers to a place one has no plus
sign in its indices, and the others are those that write some of the indices behind a plus sign and
zeros: two pointers that reach one place are equal unless they write an index of it in two ways, one
of them with a plus sign. -/
theorem reaches_same_place_iff (document : Document) (pointer : Pointer) :
    (∀ reference source, document.resolveReference reference source = .ok pointer →
      ∃ part, pointer.lookup document.root = some part) ∧
    ((∃ part, pointer.lookup document.root = some part) ↔
      ∃! place, pointer.Reaches document.root place) ∧
    ∀ place, pointer.Reaches document.root place →
      (ofPlace place).Reaches document.root place ∧
      ∀ other : Pointer,
        (other.Reaches document.root place ↔ List.Forall₂ Spells place other.tokens) ∧
        (other.Reaches document.root place →
          pointer = other ∨ DifferInSign place pointer.tokens other.tokens) := by
  refine ⟨fun _ _ => exists_lookup_of_resolveReference, lookup_eq_some_iff_reaches, ?_⟩
  intro place h
  refine ⟨reaches_ofPlace h, fun other => ⟨reaches_iff_spells h, fun hother => ?_⟩⟩
  have hspells := eq_or_differInSign ((reaches_iff_spells h).mp h)
    ((reaches_iff_spells h).mp hother)
  exact hspells.imp_left fun htokens => congrArg Pointer.mk htokens

end Place

/-! ### Two references to one place -/

section Signs

/-- A schema with an array of one schema. -/
def single : Document := .ofJson (.object [("allOf", .arr [.bool true])])

/-- The place of that schema. -/
def singlePlace : List Step := [.member "allOf", .element 0]

/-- The pointer to it with a plus sign. -/
def signed : Pointer := (Pointer.root.push "allOf").push "+0"

theorem reaches_signed : signed.Reaches single.root singlePlace := by
  have hindex : index? "+0" = some 0 := by decide +kernel
  have hmembers : [("allOf", Json.arr [.bool true])].lookup "allOf" =
      some (.arr [.bool true]) := rfl
  exact ⟨.bool true, .member hmembers (.element hindex rfl .here)⟩

theorem reaches_same_place_iff_signed :
    single.resolveReference "#/allOf/0" .root = .ok (ofPlace singlePlace) ∧
      single.resolveReference "#/allOf/+0" .root = .ok signed ∧
      (ofPlace singlePlace).Reaches single.root singlePlace ∧
      signed.Reaches single.root singlePlace ∧
      signed ≠ ofPlace singlePlace ∧
      DifferInSign singlePlace signed.tokens (ofPlace singlePlace).tokens := by
  obtain ⟨hplain, hothers⟩ := (reaches_same_place_iff single signed).2.2 _ reaches_signed
  have hne : signed ≠ ofPlace singlePlace := by decide
  refine ⟨eq_ok_of_toOption (by decide +kernel), eq_ok_of_toOption (by decide +kernel), hplain,
    reaches_signed, hne, ?_⟩
  exact ((hothers _).2 hplain).resolve_left hne

end Signs

end Specimen.Pointer
