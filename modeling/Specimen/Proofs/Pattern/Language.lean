import Mathlib.Algebra.Order.BigOperators.Group.List
import Mathlib.Algebra.Order.Monoid.Unbundled.Pow
import Mathlib.Computability.Language
import Mathlib.Data.Option.Basic
import Mathlib.Order.CompletePartialOrder
import Specimen.Pattern.Regex
import Specimen.Proofs.Pattern.CharSet

/-!
# Specimen.Proofs.Pattern.Language

What a regular expression describes.

Its words consist of characters and of marks: a mark stands where the expression has a condition on
the place in a text (`Regex.language`). Without their marks, the words are the texts that the
expression would match if every condition held (`Regex.texts`).

Expressions are brought into a normal form while they are built. The words stay the same where
expressions follow each other (`Regex.language_sequence`) and where one of them is taken
(`Regex.language_either`); a repetition of marks has fewer words, but the same texts
(`Regex.texts_repeated`).
-/

namespace Specimen.Pattern

/-- A character of a text, or a condition on the place between two characters. -/
inductive Symbol where
  | char (c : Char)
  | mark (condition : Anchor)

namespace Symbol

/-- The character that a symbol is. -/
def char? : Symbol → Option Char
  | .char c => some c
  | .mark _ => none

/-- A word without its marks. -/
def letters (word : List Symbol) : List Char := word.filterMap char?

theorem letters_nil : letters [] = [] := rfl

theorem letters_append (u v : List Symbol) : letters (u ++ v) = letters u ++ letters v :=
  List.filterMap_append

/-- A text without marks is all letters. -/
theorem letters_map_char (text : List Char) : letters (text.map .char) = text := by
  rw [letters, List.filterMap_map]
  exact List.filterMap_some

/-- Words without their marks. -/
def erased : Language Symbol →+* Language Char where
  toFun words := letters '' words
  map_zero' := Set.image_empty _
  map_one' := Set.image_singleton
  map_add' := Set.image_union _
  map_mul' _ _ := Set.image_image2_distrib letters_append

/-- The texts of one word are one text. -/
theorem erased_singleton (word : List Symbol) : erased {word} = {letters word} :=
  Set.image_singleton

end Symbol

/-! ### Repetitions of words -/

section Repetition

variable {α : Type} {min : Nat} {max : Option Nat} {words more : Language α}

/-- Between `min` and `max` words one behind the other, without limit when there is no `max`. -/
def timesBetween (min : Nat) (max : Option Nat) (words : Language α) : Language α :=
  {word | ∃ extra, (∀ m ∈ max, extra ≤ m - min) ∧ word ∈ words ^ (min + extra)}

/-- More words give more repetitions. -/
theorem timesBetween_mono (h : words ≤ more) :
    timesBetween min max words ≤ timesBetween min max more := by
  rintro word ⟨extra, hextra, hword⟩
  exact ⟨extra, hextra, pow_le_pow_left' h (min + extra) hword⟩

/-- No repetition at all is the empty word. -/
theorem timesBetween_none (words : Language α) : timesBetween 0 (some 0) words = 1 := by
  ext word
  constructor
  · rintro ⟨extra, hextra, hword⟩
    obtain rfl : extra = 0 := Nat.le_zero.mp (hextra 0 rfl)
    exact hword
  · intro hword
    exact ⟨0, fun m _ => Nat.zero_le _, hword⟩

/-- Exactly one repetition changes nothing. -/
theorem timesBetween_once (words : Language α) : timesBetween 1 (some 1) words = words := by
  ext word
  constructor
  · rintro ⟨extra, hextra, hword⟩
    obtain rfl : extra = 0 := Nat.le_zero.mp (hextra 1 rfl)
    rwa [pow_one] at hword
  · intro hword
    exact ⟨0, fun m _ => Nat.zero_le _, by rwa [pow_one]⟩

/-- The empty word is all that its repetitions give. -/
theorem timesBetween_one (min : Nat) (max : Option Nat) :
    timesBetween min max (1 : Language α) = 1 := by
  ext word
  constructor
  · rintro ⟨extra, -, hword⟩
    rwa [one_pow] at hword
  · intro hword
    exact ⟨0, fun m _ => Nat.zero_le _, by rwa [one_pow]⟩

/-- Without any words, only no repetition at all gives one. -/
theorem timesBetween_zero (min : Nat) (max : Option Nat) :
    timesBetween min max (0 : Language α) = if min = 0 then 1 else 0 := by
  ext word
  split
  · rename_i hmin
    subst hmin
    constructor
    · rintro ⟨extra, -, hword⟩
      cases extra with
      | zero => exact hword
      | succ extra =>
        rw [zero_pow (by omega)] at hword
        exact absurd hword (Language.notMem_zero word)
    · intro hword
      exact ⟨0, fun m _ => Nat.zero_le _, hword⟩
  · rename_i hmin
    constructor
    · rintro ⟨extra, -, hword⟩
      rwa [zero_pow (by omega)] at hword
    · intro hword
      exact absurd hword (Language.notMem_zero word)

/-- A choice is described by what describes each of its branches. -/
theorem sum_le {languages : List (Language α)} (h : ∀ l ∈ languages, l ≤ more) :
    languages.sum ≤ more := by
  induction languages with
  | nil => exact Set.empty_subset more
  | cons l rest ih =>
    obtain ⟨hl, hrest⟩ := List.forall_mem_cons.mp h
    rw [List.sum_cons]
    exact Set.union_subset hl (ih hrest)

end Repetition

/-- Marks can be left out before or after repeating. -/
theorem Symbol.erased_timesBetween (min : Nat) (max : Option Nat) (words : Language Symbol) :
    erased (timesBetween min max words) = timesBetween min max (erased words) := by
  ext text
  constructor
  · rintro ⟨word, ⟨extra, hextra, hword⟩, htext⟩
    refine ⟨extra, hextra, ?_⟩
    rw [← map_pow]
    exact ⟨word, hword, htext⟩
  · rintro ⟨extra, hextra, htext⟩
    rw [← map_pow] at htext
    obtain ⟨word, hword, htext⟩ := htext
    exact ⟨word, ⟨extra, hextra, hword⟩, htext⟩

namespace Regex

/-! ### Words and texts -/

mutual

/-- The words of an expression. -/
def language : Regex → Language Symbol
  | .empty => 1
  | .literal text => {text.map .char}
  | .set chars => {word | ∃ c, chars.contains c ∧ word = [.char c]}
  | .anchor condition => {[.mark condition]}
  | .repetition min max _ body => timesBetween min max (language body)
  | .capture _ body => language body
  | .concat parts => languageAll parts
  | .alternation branches => languageAny branches

/-- The words of some expressions, one behind the other. -/
def languageAll : List Regex → Language Symbol
  | [] => 1
  | part :: rest => language part * languageAll rest

/-- The words of any of some expressions. -/
def languageAny : List Regex → Language Symbol
  | [] => 0
  | branch :: rest => language branch + languageAny rest

end

/-- A sequence describes the words of its parts, one behind the other. -/
theorem languageAll_eq (parts : List Regex) : languageAll parts = (parts.map language).prod := by
  induction parts with
  | nil => rfl
  | cons part rest ih => rw [languageAll, ih, List.map_cons, List.prod_cons]

/-- A choice describes the words of its branches. -/
theorem languageAny_eq (branches : List Regex) :
    languageAny branches = (branches.map language).sum := by
  induction branches with
  | nil => rfl
  | cons branch rest ih => rw [languageAny, ih, List.map_cons, List.sum_cons]

/-- The texts of an expression, all of whose conditions are taken to hold. -/
def texts (regex : Regex) : Language Char := Symbol.erased regex.language

variable {items : List Regex} {body : Regex} {min : Nat} {max : Option Nat}

/-! ### Equal expressions -/

mutual

/-- Expressions that are compared as the same are equal. -/
theorem eq_of_same {a b : Regex} (h : same a b = true) : a = b := by
  unfold same at h
  split at h
  · rfl
  · rw [eq_of_beq h]
  · rw [eq_of_beq h]
  · rw [eq_of_beq h]
  · simp only [Bool.and_eq_true, beq_iff_eq] at h
    obtain ⟨⟨⟨rfl, rfl⟩, rfl⟩, hbody⟩ := h
    rw [eq_of_same hbody]
  · simp only [Bool.and_eq_true, beq_iff_eq] at h
    obtain ⟨rfl, hbody⟩ := h
    rw [eq_of_same hbody]
  · rw [eq_of_sameList h]
  · rw [eq_of_sameList h]
  · cases h

theorem eq_of_sameList {as bs : List Regex} (h : sameList as bs = true) : as = bs := by
  unfold sameList at h
  split at h
  · rfl
  · rw [Bool.and_eq_true] at h
    rw [eq_of_same h.1, eq_of_sameList h.2]
  · cases h

end

/-- As many items as two sequences have in common are the same. -/
theorem take_eq_of_le_commonLength {as bs : List Regex} {n : Nat} (h : n ≤ commonLength as bs) :
    bs.take n = as.take n := by
  fun_induction commonLength as bs generalizing n with
  | case1 a as b bs hsame ih =>
    cases n with
    | zero => rfl
    | succ n =>
      rw [List.take_succ_cons, List.take_succ_cons, eq_of_same hsame, ih (by omega)]
  | case2 a as b bs hsame =>
    obtain rfl : n = 0 := by omega
    rfl
  | case3 as bs hne =>
    obtain rfl : n = 0 := by omega
    rfl

/-! ### Sequences -/

/-- A sequence within a sequence is flattened without a change of words. -/
theorem prod_parts (regex : Regex) : ((parts regex).map language).prod = regex.language := by
  unfold parts
  split
  · rfl
  · exact (languageAll_eq _).symm
  · rw [List.map_singleton, List.prod_singleton]

theorem literal_mul_literal (text more : List Char) :
    (literal text).language * (literal more).language = (literal (text ++ more)).language := by
  simp only [language, List.map_append]
  exact Set.image2_singleton

/-- Literals that stand side by side are joined without a change of words. -/
theorem prod_joinLiterals (items : List Regex) :
    ((joinLiterals items).map language).prod = (items.map language).prod := by
  fun_induction joinLiterals items with
  | case1 text rest more others hjoin ih =>
    rw [hjoin, List.map_cons, List.prod_cons] at ih
    rw [List.map_cons, List.prod_cons, List.map_cons, List.prod_cons, ← ih, ← mul_assoc,
      literal_mul_literal]
  | case2 text rest hne ih =>
    rw [List.map_cons, List.prod_cons, List.map_cons, List.prod_cons, ih]
  | case3 part rest hne ih =>
    rw [List.map_cons, List.prod_cons, List.map_cons, List.prod_cons, ih]
  | case4 => rfl

/-- The words of a sequence are made of those of its items. -/
theorem language_sequence (items : List Regex) :
    (sequence items).language = (items.map language).prod := by
  have hparts (items : List Regex) :
      ((items.flatMap parts).map language).prod = (items.map language).prod := by
    induction items with
    | nil => rfl
    | cons item rest ih =>
      rw [List.flatMap_cons, List.map_append, List.prod_append, ih, prod_parts, List.map_cons,
        List.prod_cons]
  rw [← hparts, ← prod_joinLiterals]
  unfold sequence
  split
  · rename_i hnil
    rw [hnil]
    rfl
  · rename_i part hpart
    rw [hpart, List.map_singleton, List.prod_singleton]
  · exact languageAll_eq _

/-! ### Alternatives -/

/-- A choice within a choice is flattened without a change of words. -/
theorem sum_branches (regex : Regex) : ((branches regex).map language).sum = regex.language := by
  unfold branches
  split
  · exact (languageAny_eq _).symm
  · rw [List.map_singleton, List.sum_singleton]

theorem sum_flatMap_branches (items : List Regex) :
    ((items.flatMap branches).map language).sum = (items.map language).sum := by
  induction items with
  | nil => rfl
  | cons item rest ih =>
    rw [List.flatMap_cons, List.map_append, List.sum_append, ih, sum_branches, List.map_cons,
      List.sum_cons]

/-- A set of one character is written as a literal. -/
theorem language_ofSet (chars : CharSet) : (ofSet chars).language = (set chars).language := by
  unfold ofSet
  split
  · rename_i c hc
    ext word
    simp only [ofChar, language]
    constructor
    · rintro rfl
      exact ⟨c, (CharSet.contains_of_only? hc).mpr rfl, rfl⟩
    · rintro ⟨d, hd, rfl⟩
      obtain rfl := (CharSet.contains_of_only? hc).mp hd
      rfl
  · rfl

theorem language_singleton (c : Char) :
    (set (.singleton c)).language = (literal [c]).language := by
  ext word
  simp only [language]
  constructor
  · rintro ⟨d, hd, rfl⟩
    obtain rfl := CharSet.contains_singleton.mp hd
    rfl
  · rintro rfl
    exact ⟨c, CharSet.contains_singleton.mpr rfl, rfl⟩

theorem language_empty : (set .empty).language = 0 := by
  ext word
  constructor
  · rintro ⟨c, hc, -⟩
    exact absurd hc CharSet.not_contains_empty
  · intro h
    exact absurd h (Language.notMem_zero word)

theorem language_union (a b : CharSet) :
    (set (a.union b)).language = (set a).language + (set b).language := by
  ext word
  constructor
  · rintro ⟨c, hc, rfl⟩
    exact (CharSet.contains_union.mp hc).imp (⟨c, ·, rfl⟩) (⟨c, ·, rfl⟩)
  · rintro (⟨c, hc, rfl⟩ | ⟨c, hc, rfl⟩)
    · exact ⟨c, CharSet.contains_union.mpr (.inl hc), rfl⟩
    · exact ⟨c, CharSet.contains_union.mpr (.inr hc), rfl⟩

/-- The union of the sets that some expressions are described by. -/
theorem language_foldl_union {toSet : Regex → Option CharSet} {items : List Regex}
    {sets : List CharSet} (first : CharSet) (hm : items.mapM toSet = some sets)
    (hs : ∀ item chars, toSet item = some chars → item.language = (set chars).language) :
    (set (sets.foldl CharSet.union first)).language =
      (set first).language + (items.map language).sum := by
  induction items generalizing sets first with
  | nil =>
    cases hm
    exact (add_zero _).symm
  | cons item rest ih =>
    rw [List.mapM_cons] at hm
    obtain ⟨chars, hchars, hm⟩ := Option.bind_eq_some_iff.mp hm
    obtain ⟨others, hothers, hm⟩ := Option.bind_eq_some_iff.mp hm
    cases hm
    rw [List.foldl_cons, ih (first.union chars) hothers, language_union, List.map_cons,
      List.sum_cons, hs item chars hchars, add_assoc]

/-- Branches that are single characters are joined to one set. -/
theorem language_of_asSet? {items : List Regex} {chars : CharSet}
    (h : asSet? items = some chars) : (set chars).language = (items.map language).sum := by
  unfold asSet? at h
  obtain ⟨sets, hsets, h⟩ := Option.bind_eq_some_iff.mp h
  cases h
  rcases (Option.orElse_eq_some _ _ _).mp hsets with hm | ⟨-, hm⟩
  · rw [language_foldl_union _ hm, language_empty, zero_add]
    intro item chars h
    split at h
    · cases h
      exact (language_singleton _).symm
    · cases h
  · rw [language_foldl_union _ hm, language_empty, zero_add]
    intro item chars h
    split at h
    · cases h
      rfl
    · cases h

/-- What several sequences begin with may be taken out. -/
theorem sum_of_shared {shared : List Regex} {rests : List (List Regex)} :
    ((rests.map fun rest => concat (shared ++ rest)).map language).sum =
      (shared.map language).prod * ((rests.map sequence).map language).sum := by
  induction rests with
  | nil => exact (mul_zero _).symm
  | cons rest others ih =>
    simp only [List.map_cons, List.sum_cons, ih, mul_add, language_sequence, language,
      languageAll_eq, List.map_append, List.prod_append]

/-- What each item is read as can be put in its place. -/
theorem eq_map_of_mapM {β : Type} {f : Regex → Option β} {g : β → Regex} {found : List β}
    (hf : ∀ item b, f item = some b → item = g b) (h : items.mapM f = some found) :
    items = found.map g := by
  induction items generalizing found with
  | nil =>
    cases h
    rfl
  | cons item rest ih =>
    rw [List.mapM_cons] at h
    obtain ⟨b, hb, h⟩ := Option.bind_eq_some_iff.mp h
    obtain ⟨others, hothers, h⟩ := Option.bind_eq_some_iff.mp h
    cases h
    rw [List.map_cons, ← hf item b hb, ← ih hothers]

/-- The least of some numbers is at most each of them. -/
theorem foldl_min_le {β : Type} (f : β → Nat) (items : List β) (first : Nat) :
    items.foldl (fun least item => Min.min least (f item)) first ≤ first ∧
      ∀ item ∈ items, items.foldl (fun least item => Min.min least (f item)) first ≤ f item := by
  induction items generalizing first with
  | nil => exact ⟨Nat.le_refl _, fun item h => absurd h List.not_mem_nil⟩
  | cons item rest ih =>
    obtain ⟨hfirst, hrest⟩ := ih (Min.min first (f item))
    refine ⟨Nat.le_trans hfirst (Nat.min_le_left _ _), List.forall_mem_cons.mpr ⟨?_, hrest⟩⟩
    exact Nat.le_trans hfirst (Nat.min_le_right _ _)

/-- A prefix that is shared stands before each of the rests. -/
theorem eq_map_of_sharedPrefix? {shared : List Regex} {rests : List (List Regex)}
    (h : sharedPrefix? items = some (shared, rests)) :
    items = rests.map fun rest => concat (shared ++ rest) := by
  unfold sharedPrefix? at h
  obtain ⟨sequences, hsequences, h⟩ := Option.bind_eq_some_iff.mp h
  obtain ⟨first, hfirst, h⟩ := Option.bind_eq_some_iff.mp h
  have hitems : items = sequences.map concat := by
    refine eq_map_of_mapM (fun item parts hparts => ?_) hsequences
    split at hparts
    · cases hparts
      rfl
    · cases hparts
  have hlength := (foldl_min_le (commonLength first) sequences first.length).2
  dsimp only at h
  split at h
  · cases h
  · cases h
    rw [hitems, List.map_map]
    refine List.map_congr_left fun sequence hmem => congrArg concat ?_
    rw [← take_eq_of_le_commonLength (hlength sequence hmem), List.take_append_drop]

/-- The builder of choices joins sets and takes shared prefixes out, and keeps the words. -/
theorem language_eitherWith (fuel : Nat) (items : List Regex) :
    (eitherWith fuel items).language = (items.map language).sum := by
  fun_induction eitherWith fuel items with
  | case1 fuel branch => rw [List.map_singleton, List.sum_singleton]
  | case2 fuel items hne chars hset hempty =>
    obtain rfl := List.isEmpty_iff.mp hempty
    exact language_empty
  | case3 fuel items hne chars hset hempty =>
    rw [language_ofSet, language_of_asSet? hset]
  | case4 items hne hset fuel shared rests hshared ih =>
    rw [language_sequence, List.map_append, List.prod_append, List.map_singleton,
      List.prod_singleton, ih, sum_flatMap_branches, ← sum_of_shared,
      ← eq_map_of_sharedPrefix? hshared]
  | case5 fuel items hne hset hshared => exact languageAny_eq items

/-- The words of one of some expressions are those of any of them. -/
theorem language_either (items : List Regex) :
    (either items).language = (items.map language).sum := by
  rw [either, language_eitherWith, sum_flatMap_branches]

/-! ### Texts -/

/-- The builder of sequences keeps the texts. -/
theorem texts_sequence (items : List Regex) : (sequence items).texts = (items.map texts).prod := by
  rw [texts, language_sequence, map_list_prod, List.map_map]
  rfl

theorem texts_either (items : List Regex) : (either items).texts = (items.map texts).sum := by
  rw [texts, language_either, map_list_sum, List.map_map]
  rfl

/-- An anchor describes the empty text. -/
theorem texts_anchor (condition : Anchor) : (anchor condition).texts = 1 :=
  Symbol.erased_singleton _

theorem texts_repetition (min : Nat) (max : Option Nat) (greedy : Bool) (body : Regex) :
    (repetition min max greedy body).texts = timesBetween min max body.texts :=
  Symbol.erased_timesBetween min max body.language

theorem texts_concat (parts : List Regex) : (concat parts).texts = (parts.map texts).prod := by
  rw [texts, language, languageAll_eq, map_list_prod, List.map_map]
  rfl

theorem texts_alternation (branches : List Regex) :
    (alternation branches).texts = (branches.map texts).sum := by
  rw [texts, language, languageAny_eq, map_list_sum, List.map_map]
  rfl

mutual

/-- An expression of anchors only describes no text but the empty one. -/
theorem texts_le_one_of_onlyEmpty {regex : Regex} (h : regex.onlyEmpty) : regex.texts ≤ 1 := by
  cases regex with
  | empty => exact le_of_eq (map_one Symbol.erased)
  | literal text =>
    obtain rfl := List.isEmpty_iff.mp h
    exact le_of_eq (Symbol.erased_singleton [])
  | set chars => cases h
  | anchor condition => exact le_of_eq (texts_anchor condition)
  | repetition min max greedy body =>
    rw [texts_repetition, ← timesBetween_one min max]
    exact timesBetween_mono (texts_le_one_of_onlyEmpty h)
  | capture index body =>
    have hbody : body.texts ≤ 1 := texts_le_one_of_onlyEmpty h
    exact hbody
  | concat parts =>
    rw [texts_concat, ← one_pow (parts.map texts).length]
    exact List.prod_le_pow_card _ 1 (List.forall_mem_map.mpr (texts_le_one_of_onlyEmptyAll h))
  | alternation branches =>
    rw [texts_alternation]
    exact sum_le (List.forall_mem_map.mpr (texts_le_one_of_onlyEmptyAll h))

theorem texts_le_one_of_onlyEmptyAll {items : List Regex} (h : onlyEmptyAll items) :
    ∀ item ∈ items, item.texts ≤ 1 := by
  cases items with
  | nil => exact fun item h => absurd h List.not_mem_nil
  | cons item rest =>
    rw [onlyEmptyAll, Bool.and_eq_true] at h
    exact List.forall_mem_cons.mpr
      ⟨texts_le_one_of_onlyEmpty h.1, texts_le_one_of_onlyEmptyAll h.2⟩

end

/-- What matches at most the empty text gives the same texts when it is repeated at most once. -/
theorem timesBetween_le_one {words : Language Char} (h : words ≤ 1) :
    timesBetween min max words =
      timesBetween (Nat.min min 1) (some ((max.map (Nat.min · 1)).getD 1)) words := by
  rcases Set.subset_singleton_iff_eq.mp h with hzero | hone
  · obtain rfl : words = 0 := hzero
    rw [timesBetween_zero, timesBetween_zero]
    have hmin : Min.min min 1 = 0 ↔ min = 0 := by omega
    exact (if_congr hmin rfl rfl).symm
  · obtain rfl : words = 1 := hone
    rw [timesBetween_one, timesBetween_one]

/-- A repetition that is none, or only one, is left out. -/
theorem texts_repetition_of_le (h : ∀ m ∈ max, min ≤ m) (greedy : Bool) (body : Regex) :
    (if max = some 0 then .empty
      else if min = 1 ∧ max = some 1 then body else .repetition min max greedy body).texts =
      timesBetween min max body.texts := by
  split
  · rename_i hmax
    subst hmax
    obtain rfl : min = 0 := Nat.le_zero.mp (h 0 rfl)
    rw [timesBetween_none]
    exact map_one Symbol.erased
  · split
    · rename_i honce
      rw [honce.1, honce.2, timesBetween_once]
    · exact texts_repetition min max greedy body

/-- The texts of a repetition, whose bounds are in order. -/
theorem texts_repeated (h : ∀ m ∈ max, min ≤ m) (greedy : Bool) (body : Regex) :
    (repeated min max greedy body).texts = timesBetween min max body.texts := by
  unfold repeated
  split
  rename_i lo hi hbounds
  split at hbounds
  · rename_i hempty
    obtain ⟨rfl, rfl⟩ := Prod.mk.inj hbounds
    rw [timesBetween_le_one (texts_le_one_of_onlyEmpty hempty)]
    refine texts_repetition_of_le (fun m hm => ?_) greedy body
    cases hm
    cases max with
    | none => exact Nat.min_le_right min 1
    | some m => exact min_le_min_right 1 (h m rfl)
  · obtain ⟨rfl, rfl⟩ := Prod.mk.inj hbounds
    exact texts_repetition_of_le h greedy body

end Regex

end Specimen.Pattern
