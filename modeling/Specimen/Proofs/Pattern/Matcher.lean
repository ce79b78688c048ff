import Specimen.Pattern.Matcher
import Specimen.Proofs.Pattern.Language

/-!
# Specimen.Proofs.Pattern.Matcher

The matcher finds what an expression describes (`Regex.matchesPart_iff`): some part of a text is
matched exactly if it spells a word of the expression each of whose marks holds at its place.

A word leads from one position of a text to another (`Leads`). That the set of positions which
`Regex.advance` computes is the one that the words lead to is shown by induction on the expression.
The rounds of a repetition without limit are as many as the text can tell apart, because a round
that stays where it is may be left out (`exists_le_of_leads_pow`).
-/

namespace Specimen.Pattern

variable {text : List Char} {word : List Symbol} {words more : Language Symbol}
variable {starts i j n : Nat}

/-! ### Words in a text -/

/-- A condition holds at a position of a text. -/
def Anchor.HoldsAt (condition : Anchor) (text : List Char) (i : Nat) : Prop :=
  i ≤ text.length ∧ condition.holds (text.take i).getLast? text[i]?

/-- A word leads from a position of a text to another one: its characters are those of the text, and
its marks hold. -/
def Reads (text : List Char) : Nat → List Symbol → Nat → Prop
  | i, [], j => i = j
  | i, .char c :: word, j => text[i]? = some c ∧ Reads text (i + 1) word j
  | i, .mark condition :: word, j => condition.HoldsAt text i ∧ Reads text i word j

/-- Words in a row are read in a row. -/
theorem reads_append {u v : List Symbol} :
    Reads text i (u ++ v) j ↔ ∃ k, Reads text i u k ∧ Reads text k v j := by
  induction u generalizing i with
  | nil => simp only [List.nil_append, Reads, exists_eq_left']
  | cons symbol u ih =>
    cases symbol with
    | char c => simp only [List.cons_append, Reads, ih, and_assoc, exists_and_left]
    | mark condition => simp only [List.cons_append, Reads, ih, and_assoc, exists_and_left]

/-- A word does not lead back, and only to a place in the text. -/
theorem Reads.le (h : Reads text i word j) : i ≤ j ∧ (i < j → j ≤ text.length) := by
  induction word generalizing i with
  | nil =>
    obtain rfl : i = j := h
    exact ⟨Nat.le_refl i, fun hlt => absurd hlt (Nat.lt_irrefl i)⟩
  | cons symbol word ih =>
    cases symbol with
    | char c =>
      obtain ⟨hc, hword⟩ := h
      have hlt : i < text.length := (List.getElem?_eq_some_iff.mp hc).1
      obtain ⟨hle, hlast⟩ := ih hword
      omega
    | mark condition => exact ih h.2

/-- One of some words leads from a position of a text to another one. -/
def Leads (text : List Char) (words : Language Symbol) (i j : Nat) : Prop :=
  ∃ word ∈ words, Reads text i word j

theorem not_leads_zero : ¬Leads text 0 i j := by
  rintro ⟨word, hword, -⟩
  exact Language.notMem_zero word hword

theorem leads_singleton : Leads text {word} i j ↔ Reads text i word j := by
  constructor
  · rintro ⟨_, rfl, hreads⟩
    exact hreads
  · exact fun hreads => ⟨word, rfl, hreads⟩

theorem leads_one : Leads text 1 i j ↔ i = j :=
  leads_singleton

/-- A choice leads where either side does. -/
theorem leads_add : Leads text (words + more) i j ↔ Leads text words i j ∨ Leads text more i j := by
  simp only [Leads, Language.mem_add, or_and_right, exists_or]

/-- A sequence leads through a place in between. -/
theorem leads_mul :
    Leads text (words * more) i j ↔ ∃ k, Leads text words i k ∧ Leads text more k j := by
  constructor
  · rintro ⟨_, ⟨u, hu, v, hv, rfl⟩, hreads⟩
    obtain ⟨k, hku, hkv⟩ := reads_append.mp hreads
    exact ⟨k, ⟨u, hu, hku⟩, ⟨v, hv, hkv⟩⟩
  · rintro ⟨k, ⟨u, hu, hku⟩, ⟨v, hv, hkv⟩⟩
    exact ⟨u ++ v, ⟨u, hu, v, hv, rfl⟩, reads_append.mpr ⟨k, hku, hkv⟩⟩

/-- Rounds that stay where they are may be left out; the others advance in the text. -/
theorem exists_le_of_leads_pow (h : Leads text (words ^ n) i j) :
    ∃ m ≤ text.length, Leads text (words ^ m) i j := by
  have hshort : ∃ m ≤ j - i, i ≤ j ∧ (i < j → j ≤ text.length) ∧ Leads text (words ^ m) i j := by
    induction n generalizing i with
    | zero =>
      obtain rfl := leads_one.mp (pow_zero words ▸ h)
      exact ⟨0, Nat.zero_le _, Nat.le_refl i, fun hlt => absurd hlt (Nat.lt_irrefl i), h⟩
    | succ n ih =>
      rw [pow_succ'] at h
      obtain ⟨k, ⟨word, hword, hreads⟩, hrest⟩ := leads_mul.mp h
      obtain ⟨hle, hlast⟩ := hreads.le
      obtain ⟨m, hm, hkj, hjlast, hleads⟩ := ih hrest
      by_cases hstay : i = k
      · subst hstay
        exact ⟨m, hm, hkj, hjlast, hleads⟩
      · refine ⟨m + 1, by omega, by omega, fun _ => by omega, ?_⟩
        rw [pow_succ']
        exact leads_mul.mpr ⟨k, ⟨word, hword, hreads⟩, hleads⟩
  obtain ⟨m, hm, hij, hlast, hleads⟩ := hshort
  exact ⟨m, by omega, hleads⟩

/-- Whether a position is one that some words lead to from given positions. -/
def LeadsFrom (text : List Char) (words : Language Symbol) (starts j : Nat) : Prop :=
  ∃ i, starts.testBit i ∧ Leads text words i j

theorem leadsFrom_one : LeadsFrom text 1 starts j ↔ starts.testBit j := by
  simp only [LeadsFrom, leads_one, exists_eq_right]

/-- What leads through the places in between leads all the way. -/
theorem leadsFrom_mul {middle : Nat} (h : ∀ k, middle.testBit k ↔ LeadsFrom text words starts k) :
    LeadsFrom text (words * more) starts j ↔ LeadsFrom text more middle j := by
  simp only [LeadsFrom, leads_mul, h]
  constructor
  · rintro ⟨i, hi, k, hik, hkj⟩
    exact ⟨k, ⟨i, hi, hik⟩, hkj⟩
  · rintro ⟨k, ⟨i, hi, hik⟩, hkj⟩
    exact ⟨i, hi, k, hik, hkj⟩

/-! ### Words as a whole -/

/-- The marks of a word hold in the text of its characters. -/
def Holds (word : List Symbol) : Prop :=
  ∀ u condition v, word = u ++ .mark condition :: v →
    condition.holds (Symbol.letters u).getLast? (Symbol.letters v).head?

/-- A word whose marks hold leads from the beginning of its text to the end. -/
theorem Holds.reads (h : Holds word) :
    Reads (Symbol.letters word) 0 word (Symbol.letters word).length := by
  have hbehind (u v : List Symbol) (huv : word = u ++ v) :
      Reads (Symbol.letters word) (Symbol.letters u).length v (Symbol.letters word).length := by
    have htext : Symbol.letters word = Symbol.letters u ++ Symbol.letters v := by
      rw [huv, Symbol.letters_append]
    induction v generalizing u with
    | nil => exact congrArg List.length (htext.trans (List.append_nil _)).symm
    | cons symbol v ih =>
      have hnext : word = (u ++ [symbol]) ++ v := by rw [huv, List.append_assoc]; rfl
      have hrest := ih (u ++ [symbol]) hnext (by rw [hnext, Symbol.letters_append])
      cases symbol with
      | char c =>
        rw [Symbol.letters_append, List.length_append] at hrest
        refine ⟨?_, hrest⟩
        rw [htext, List.getElem?_append_right (Nat.le_refl _), Nat.sub_self]
        rfl
      | mark condition =>
        rw [Symbol.letters_append] at hrest
        change Reads _ (Symbol.letters u ++ []).length v _ at hrest
        rw [List.append_nil] at hrest
        refine ⟨⟨?_, ?_⟩, hrest⟩
        · rw [htext, List.length_append]
          exact Nat.le_add_right _ _
        · rw [htext, List.take_left, List.getElem?_append_right (Nat.le_refl _), Nat.sub_self,
            ← List.head?_eq_getElem?]
          exact h u condition v huv
  exact hbehind [] word rfl

namespace Regex

/-! ### Positions -/

/-- A position stands for itself if its condition holds. -/
theorem testBit_condition {holds : Bool} {index : Nat} :
    (if holds then 1 <<< index else 0).testBit j ↔ j = index ∧ holds := by
  cases holds with
  | false => simp only [Bool.false_eq_true, if_false, Nat.zero_testBit, and_false]
  | true =>
    simp only [if_true, Nat.one_shiftLeft, Nat.testBit_two_pow, decide_eq_true_iff, and_true]
    exact eq_comm

/-- A condition is tested between the characters, from the first gap to the last. -/
theorem testBit_positionsFrom {condition : Option Char → Option Char → Bool}
    {before : Option Char} {index : Nat} :
    (positionsFrom condition before index text).testBit j ↔
      ∃ k ≤ text.length, j = index + k ∧ condition ((text.take k).getLast?.or before) text[k]? := by
  induction text generalizing before index with
  | nil =>
    rw [positionsFrom, testBit_condition]
    constructor
    · rintro ⟨rfl, hcondition⟩
      exact ⟨0, Nat.le_refl 0, rfl, hcondition⟩
    · rintro ⟨k, hk, rfl, hcondition⟩
      obtain rfl := Nat.le_zero.mp hk
      exact ⟨rfl, hcondition⟩
  | cons c rest ih =>
    have hbefore (k : Nat) : ((rest.take k).getLast?.or (some c)) =
        (((c :: rest).take (k + 1)).getLast?.or before) := by
      rw [List.take_succ_cons, List.getLast?_cons, Option.some_or]
      cases (rest.take k).getLast? <;> rfl
    rw [positionsFrom, Nat.testBit_or, Bool.or_eq_true, testBit_condition, ih]
    constructor
    · rintro (⟨rfl, hcondition⟩ | ⟨k, hk, rfl, hcondition⟩)
      · exact ⟨0, Nat.zero_le _, rfl, hcondition⟩
      · exact ⟨k + 1, Nat.succ_le_succ hk, by omega, hbefore k ▸ hcondition⟩
    · rintro ⟨k, hk, rfl, hcondition⟩
      cases k with
      | zero => exact .inl ⟨rfl, hcondition⟩
      | succ k =>
        exact .inr ⟨k, Nat.le_of_succ_le_succ hk, by omega, (hbefore k).symm ▸ hcondition⟩

theorem testBit_positions {condition : Option Char → Option Char → Bool} :
    (positions text condition).testBit j ↔
      j ≤ text.length ∧ condition (text.take j).getLast? text[j]? := by
  unfold positions
  rw [testBit_positionsFrom]
  simp only [Nat.zero_add, Option.or_none]
  constructor
  · rintro ⟨k, hk, rfl, hcondition⟩
    exact ⟨hk, hcondition⟩
  · rintro ⟨hj, hcondition⟩
    exact ⟨j, hj, rfl, hcondition⟩

/-- A character leads from a position to the next one. -/
theorem testBit_advanceChar {accepts : Char → Bool} :
    (advanceChar text accepts starts).testBit j ↔
      ∃ i, starts.testBit i ∧ ∃ c, text[i]? = some c ∧ accepts c ∧ i + 1 = j := by
  unfold advanceChar
  rw [Nat.testBit_shiftLeft, Nat.testBit_and, Bool.and_eq_true, decide_eq_true_iff,
    Bool.and_eq_true, testBit_positions, Option.any_eq_true]
  constructor
  · rintro ⟨hj, hstart, -, c, hc, haccepts⟩
    exact ⟨j - 1, hstart, c, hc, haccepts, by omega⟩
  · rintro ⟨i, hi, c, hc, haccepts, rfl⟩
    have hlt : i < text.length := (List.getElem?_eq_some_iff.mp hc).1
    exact ⟨by omega, hi, Nat.le_of_lt hlt, c, hc, haccepts⟩

/-- The loop is the iterate of its step. -/
theorem iterate_eq (step : Nat → Nat) (count starts : Nat) :
    iterate step count starts = step^[count] starts := by
  induction count generalizing starts with
  | zero => rfl
  | succ count ih =>
    unfold iterate
    dsimp only
    split
    · rename_i hfixed
      exact (Function.iterate_fixed hfixed (count + 1)).symm
    · rw [ih, Function.iterate_succ_apply]

/-! ### Repetitions -/

section Repetition

variable {step : Nat → Nat}
variable (hstep : ∀ starts j, (step starts).testBit j ↔ LeadsFrom text words starts j)

include hstep

/-- A fixed number of steps leads through as many repetitions. -/
theorem testBit_iterate (n starts j : Nat) :
    (step^[n] starts).testBit j ↔ LeadsFrom text (words ^ n) starts j := by
  induction n generalizing starts with
  | zero => rw [pow_zero, leadsFrom_one, Function.iterate_zero_apply]
  | succ n ih =>
    rw [Function.iterate_succ_apply, ih, pow_succ', leadsFrom_mul fun k => hstep starts k]

/-- Steps that also keep the positions lead through any smaller number of repetitions. -/
theorem testBit_iterate_or (n starts j : Nat) :
    ((fun starts => starts ||| step starts)^[n] starts).testBit j ↔
      ∃ extra ≤ n, LeadsFrom text (words ^ extra) starts j := by
  induction n generalizing starts with
  | zero =>
    simp only [Function.iterate_zero_apply, Nat.le_zero, exists_eq_left, pow_zero, leadsFrom_one]
  | succ n ih =>
    have hbit (i : Nat) : (starts ||| step starts).testBit i ↔
        starts.testBit i ∨ LeadsFrom text words starts i := by
      rw [Nat.testBit_or, Bool.or_eq_true, hstep]
    rw [Function.iterate_succ_apply, ih]
    constructor
    · rintro ⟨extra, hextra, i, hi, hleads⟩
      rcases (hbit i).mp hi with hstart | ⟨k, hk, hki⟩
      · exact ⟨extra, by omega, i, hstart, hleads⟩
      · refine ⟨extra + 1, by omega, k, hk, ?_⟩
        rw [pow_succ']
        exact leads_mul.mpr ⟨i, hki, hleads⟩
    · rintro ⟨extra, hextra, i, hi, hleads⟩
      cases extra with
      | zero => exact ⟨0, Nat.zero_le n, i, (hbit i).mpr (.inl hi), hleads⟩
      | succ extra =>
        rw [pow_succ'] at hleads
        obtain ⟨k, hik, hkj⟩ := leads_mul.mp hleads
        exact ⟨extra, by omega, k, (hbit k).mpr (.inr ⟨i, hi, hik⟩), hkj⟩

/-- The rounds of a repetition lead to the same positions as its words. -/
theorem testBit_iterate_iterate (min : Nat) (max : Option Nat) (starts j : Nat) :
    (iterate (fun starts => starts ||| step starts) ((max.map (· - min)).getD (text.length + 1))
      (iterate step min starts)).testBit j ↔
      LeadsFrom text (timesBetween min max words) starts j := by
  rw [iterate_eq, iterate_eq, testBit_iterate_or hstep]
  have hrounds (extra : Nat) :
      LeadsFrom text (words ^ extra) (step^[min] starts) j ↔
        LeadsFrom text (words ^ (min + extra)) starts j := by
    rw [pow_add, leadsFrom_mul fun k => testBit_iterate hstep min starts k]
  constructor
  · rintro ⟨extra, hextra, hleads⟩
    obtain ⟨i, hi, word, hword, hreads⟩ := (hrounds extra).mp hleads
    refine ⟨i, hi, word, ⟨extra, fun m hm => ?_, hword⟩, hreads⟩
    obtain rfl : max = some m := hm
    exact hextra
  · rintro ⟨i, hi, word, ⟨extra, hextra, hword⟩, hreads⟩
    cases max with
    | some m => exact ⟨extra, hextra m rfl, (hrounds extra).mpr ⟨i, hi, word, hword, hreads⟩⟩
    | none =>
      -- Only the rounds behind the first ones may be left out.
      rw [pow_add] at hword
      obtain ⟨k, hik, hkj⟩ := leads_mul.mp ⟨word, hword, hreads⟩
      obtain ⟨least, hleast, hleads⟩ := exists_le_of_leads_pow hkj
      refine ⟨least, Nat.le_succ_of_le hleast, (hrounds least).mpr ⟨i, hi, ?_⟩⟩
      rw [pow_add]
      exact leads_mul.mpr ⟨k, hik, hleads⟩

end Repetition

/-! ### Expressions -/

/-- A set leads over one of its characters. -/
theorem leadsFrom_set {chars : CharSet} :
    LeadsFrom text (set chars).language starts j ↔
      ∃ i, starts.testBit i ∧ ∃ c, text[i]? = some c ∧ chars.contains c ∧ i + 1 = j := by
  constructor
  · rintro ⟨i, hi, _, ⟨c, hc, rfl⟩, hread, rfl⟩
    exact ⟨i, hi, c, hread, hc, rfl⟩
  · rintro ⟨i, hi, c, hread, hc, rfl⟩
    exact ⟨i, hi, _, ⟨c, hc, rfl⟩, hread, rfl⟩

/-- A literal leads over its characters one by one. -/
theorem testBit_foldl_advanceChar (chars : List Char) (starts j : Nat) :
    (chars.foldl (fun starts c => advanceChar text (· == c) starts) starts).testBit j ↔
      LeadsFrom text (literal chars).language starts j := by
  induction chars generalizing starts with
  | nil => exact leadsFrom_one.symm
  | cons c rest ih =>
    have hfirst (k : Nat) : (advanceChar text (· == c) starts).testBit k ↔
        LeadsFrom text (literal [c]).language starts k := by
      rw [testBit_advanceChar, ← language_singleton, leadsFrom_set]
      simp only [beq_iff_eq, CharSet.contains_singleton]
    rw [List.foldl_cons, ih, ← List.singleton_append, ← literal_mul_literal, leadsFrom_mul hfirst]

mutual

/-- The positions behind an expression are those that its words lead to. -/
theorem testBit_advance (regex : Regex) (starts j : Nat) :
    (advance text regex starts).testBit j ↔ LeadsFrom text regex.language starts j := by
  cases regex with
  | empty => exact leadsFrom_one.symm
  | literal chars => exact testBit_foldl_advanceChar chars starts j
  | set chars => rw [advance, testBit_advanceChar, leadsFrom_set]
  | anchor condition =>
    rw [advance, Nat.testBit_and, Bool.and_eq_true, testBit_positions]
    constructor
    · rintro ⟨hj, hlength, hholds⟩
      exact ⟨j, hj, _, rfl, ⟨hlength, hholds⟩, rfl⟩
    · rintro ⟨i, hi, _, rfl, ⟨hlength, hholds⟩, rfl⟩
      exact ⟨hi, hlength, hholds⟩
  | repetition min max greedy body =>
    exact testBit_iterate_iterate (testBit_advance body) min max starts j
  | capture index body => exact testBit_advance body starts j
  | concat parts => exact testBit_advanceAll parts starts j
  | alternation branches => exact testBit_advanceAny branches starts j

theorem testBit_advanceAll (parts : List Regex) (starts j : Nat) :
    (advanceAll text parts starts).testBit j ↔ LeadsFrom text (languageAll parts) starts j := by
  cases parts with
  | nil => exact leadsFrom_one.symm
  | cons part rest =>
    rw [advanceAll, languageAll, testBit_advanceAll rest,
      leadsFrom_mul fun k => testBit_advance part starts k]

theorem testBit_advanceAny (branches : List Regex) (starts j : Nat) :
    (advanceAny text branches starts).testBit j ↔
      LeadsFrom text (languageAny branches) starts j := by
  cases branches with
  | nil =>
    simp only [advanceAny, languageAny, LeadsFrom, not_leads_zero, Nat.zero_testBit,
      Bool.false_eq_true, and_false, exists_false]
  | cons branch rest =>
    rw [advanceAny, languageAny, Nat.testBit_or, Bool.or_eq_true, testBit_advance branch,
      testBit_advanceAny rest]
    simp only [LeadsFrom, leads_add, and_or_left, exists_or]

end

/-- The whole of a text is that of a word whose marks hold. -/
def DescribesWhole (regex : Regex) (text : String) : Prop :=
  ∃ word ∈ regex.language, Symbol.letters word = text.toList ∧ Holds word

/-- A word leads from one place in a text to another. -/
def DescribesPart (regex : Regex) (text : String) : Prop :=
  ∃ i j, i ≤ text.toList.length ∧ Leads text.toList regex.language i j

/-- What is described as a whole is a part that is described. -/
theorem DescribesWhole.describesPart {regex : Regex} {text : String}
    (h : regex.DescribesWhole text) : regex.DescribesPart text := by
  obtain ⟨word, hw, ht, hh⟩ := h
  refine ⟨0, text.toList.length, Nat.zero_le _, word, hw, ?_⟩
  rw [← ht]
  exact hh.reads

/-- The matcher finds exactly the parts that are described. -/
theorem matchesPart_iff {regex : Regex} {text : String} :
    regex.matchesPart text ↔ regex.DescribesPart text := by
  have hstart (i : Nat) :
      (2 ^ (text.toList.length + 1) - 1).testBit i ↔ i ≤ text.toList.length := by
    rw [Nat.testBit_two_pow_sub_one, decide_eq_true_iff]
    omega
  show (_ != 0) = true ↔ _
  rw [bne_iff_ne]
  constructor
  · intro hne
    obtain ⟨j, hj⟩ := Nat.exists_testBit_of_ne_zero hne
    obtain ⟨i, hi, hleads⟩ := (testBit_advance regex _ j).mp hj
    exact ⟨i, j, (hstart i).mp hi, hleads⟩
  · rintro ⟨i, j, hi, hleads⟩ hzero
    have hj := (testBit_advance regex _ j).mpr ⟨i, (hstart i).mpr hi, hleads⟩
    rw [hzero, Nat.zero_testBit] at hj
    cases hj

end Regex

end Specimen.Pattern
