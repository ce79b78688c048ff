import Mathlib.Data.List.Chain
import Specimen.PlainText
import Specimen.Proofs.Random.Total

/-!
# Specimen.Proofs.PlainText

What texts without a meaning are like (`draw_plain`): there is one if there is room for it, its length
lies between the bounds, and its blanks are single ones between other characters.

Words are drawn until they are long enough together, and cut to the length asked for; the letter that
takes the place of a blank at the end does not change it. Neither does it join two blanks, for before
a cut blank there is the end of a word.
-/

namespace Specimen.PlainText

open Specimen.Random (Draw total_choose total_size yields_choose)

variable {σ : Type} [Random.Source σ]

/-! ### Lengths -/

/-- Letters are drawn one by one. -/
theorem yields_drawLetters_length (count : Nat) :
    Yields (drawLetters count : Draw σ (List Char)) (·.length = count) := by
  induction count with
  | zero => exact ends_pure rfl
  | succ count ih =>
    refine (yields_any (Random.choose letters)).andThen fun first => ih.bind fun rest => ?_
    exact ends_pure fun hrest => congrArg (· + 1) hrest

/-- Words are drawn until nothing is missing and cut to what is. -/
theorem yields_drawWords_length (missing : Nat) :
    Yields (drawWords missing : Draw σ (List Char)) (·.length = missing) := by
  induction missing using Nat.strongRecOn with
  | ind missing ih =>
    rw [drawWords]
    refine (yields_any (Random.choose words)).andThen fun word => ?_
    dsimp only
    split
    · -- The word, a blank, and what is missing behind them.
      refine (ih _ (by omega)).bind fun rest => ends_pure fun hrest => ?_
      rw [List.length_append, List.length_cons, hrest]
      omega
    · exact ends_pure (List.length_take_of_le (by omega))

theorem yields_drawChars_length (length : Nat) :
    Yields (drawChars length : Draw σ (List Char)) (·.length = length) := by
  unfold drawChars
  split
  · exact yields_drawLetters_length length
  · refine (yields_any (Random.reserve (length + spareRoom))).andThen fun _ => ?_
    refine (yields_drawWords_length length).bind fun chars => ?_
    split
    · rename_i hblank
      have hpos : 0 < chars.length := List.length_pos_of_mem (List.mem_of_getLast? hblank)
      refine (yields_drawLetters_length 1).bind fun letter => ends_pure fun hletter hchars => ?_
      rw [List.length_append, List.length_dropLast, hletter]
      omega
    · exact ends_pure fun hchars => hchars

/-- The lengths that are drawn for two bounds. -/
def IsLength (minLength maxLength length : Nat) : Prop :=
  if maxLength ≤ minLength then length = minLength else minLength ≤ length ∧ length ≤ maxLength

/-- A length is at least the least one; it exceeds the greatest one only if that is out of order. -/
theorem IsLength.le_max {minLength maxLength length : Nat} (h : IsLength minLength maxLength length) :
    minLength ≤ length ∧ length ≤ max minLength maxLength := by
  unfold IsLength at h
  split at h
  · omega
  · omega

/-- The lower bound is the length where the bounds are not in order. -/
theorem yields_drawLength (minLength maxLength : Nat) :
    Yields (drawLength minLength maxLength : Draw σ Nat) (IsLength minLength maxLength) := by
  unfold drawLength IsLength
  split
  · exact ends_pure rfl
  · exact Random.yields_size minLength maxLength

/-- The length of a text lies between the bounds; where they are not in order, it is the lower one. -/
theorem yields_draw_length (minLength maxLength : Nat) :
    Yields (draw minLength maxLength : Draw σ String) fun text =>
      minLength ≤ text.length ∧ text.length ≤ max minLength maxLength := by
  refine (yields_drawLength minLength maxLength).bind fun length => ?_
  refine (yields_drawChars_length length).bind fun chars => ends_pure fun hchars hlength => ?_
  rw [String.length_ofList, hchars]
  exact hlength.le_max

/-! ### Success -/

theorem total_drawLetters (count : Nat) : Total (drawLetters count : Draw σ (List Char)) := by
  induction count with
  | zero => exact failsOnly_pure _
  | succ count ih =>
    have hletters : 0 < letters.size := by decide
    exact (total_choose hletters).bind fun _ => ih.bind fun _ => failsOnly_pure _

theorem total_drawWords (missing : Nat) : Total (drawWords missing : Draw σ (List Char)) := by
  have hwords : 0 < words.size := by decide
  induction missing using Nat.strongRecOn with
  | ind missing ih =>
    rw [drawWords]
    refine (total_choose hwords).bind ?_
    intro word
    dsimp only
    split
    · exact (ih _ (by omega)).bind fun _ => failsOnly_pure _
    · exact failsOnly_pure _

/-- Where there is room for the words, there is a text. -/
theorem total_drawChars {length : Nat} (h : length + spareRoom ≤ Random.maxRoom) :
    Total (drawChars length : Draw σ (List Char)) := by
  unfold drawChars
  split
  · exact total_drawLetters length
  · rw [Random.reserve_of_le h, pure_bind]
    refine (total_drawWords length).bind ?_
    intro chars
    split
    · exact (total_drawLetters 1).bind fun _ => failsOnly_pure _
    · exact failsOnly_pure _

/-- There is no room for a text of that length. -/
theorem drawChars_eq_throw {length : Nat} (h : Random.maxRoom < length + spareRoom) :
    (drawChars length : Draw σ (List Char)) = throw .overflow := by
  have hlong : ¬length < wordsFrom := by
    unfold Random.maxRoom spareRoom at h
    unfold wordsFrom
    omega
  unfold drawChars
  rw [if_neg hlong, Random.reserve_of_lt h]
  rfl

/-- A length is only drawn where the bounds are in order. -/
theorem total_drawLength (minLength maxLength : Nat) :
    Total (drawLength minLength maxLength : Draw σ Nat) := by
  unfold drawLength
  split
  · exact failsOnly_pure _
  · exact total_size (by omega)

/-- A text is only missing where there is no room for one of the greatest length. -/
theorem failsOnly_draw (minLength maxLength : Nat) :
    FailsOnly (draw minLength maxLength : Draw σ String) fun fault =>
      fault = .overflow ∧ Random.maxRoom < max minLength maxLength + spareRoom := by
  refine (total_drawLength minLength maxLength).failsOnly.bind_of
    (yields_drawLength minLength maxLength) fun length hbetween => ?_
  rcases Nat.lt_or_ge Random.maxRoom (length + spareRoom) with hlt | hle
  · have hle := hbetween.le_max.2
    rw [drawChars_eq_throw hlt]
    exact (failsOnly_throw ⟨rfl, by omega⟩).bind fun _ => failsOnly_pure _
  · exact (total_drawChars hle).failsOnly.bind fun _ => failsOnly_pure _

/-- With room for the longest text a draw succeeds. -/
theorem total_draw {minLength maxLength : Nat}
    (h : max minLength maxLength + spareRoom ≤ Random.maxRoom) :
    Total (draw minLength maxLength : Draw σ String) :=
  (failsOnly_draw minLength maxLength).mono fun _ hfails => Nat.not_lt.mpr h hfails.2

/-! ### Blanks -/

/-- Not both of two characters are blanks. -/
def Apart (first second : Char) : Prop := ¬(first = ' ' ∧ second = ' ')

/-- The blanks of a text are single ones between other characters. -/
structure IsSpaced (text : List Char) : Prop where
  starts : text.head? ≠ some ' '
  ends : text.getLast? ≠ some ' '
  single : text.IsChain Apart

variable {first : Char} {text word rest : List Char}

theorem isChain_cons_of_not_mem (h : ' ' ∉ text) : (first :: text).IsChain Apart := by
  induction text generalizing first with
  | nil => exact .singleton first
  | cons second text ih =>
    rw [List.mem_cons, not_or] at h
    exact .cons_cons (fun hboth => h.1 hboth.2.symm) (ih h.2)

/-- A blank may stand before a text that does not start with one. -/
theorem isSpaced_of_isChain (h : (' ' :: text).IsChain Apart) (ht : text.getLast? ≠ some ' ') :
    IsSpaced text := by
  obtain ⟨hstart, hsingle⟩ := List.isChain_cons.mp h
  exact ⟨fun hhead => hstart ' ' hhead ⟨rfl, rfl⟩, ht, hsingle⟩

/-- A text without blanks is spaced. -/
theorem isSpaced_of_not_mem (h : ' ' ∉ text) : IsSpaced text :=
  isSpaced_of_isChain (isChain_cons_of_not_mem h) fun hlast => h (List.mem_of_getLast? hlast)

/-- A blank may stand between a word and a text that does not start with one. -/
theorem isChain_word_append (hne : word ≠ []) (hw : ' ' ∉ word)
    (hr : (' ' :: rest).IsChain Apart) : (first :: (word ++ ' ' :: rest)).IsChain Apart := by
  rw [← List.cons_append, List.isChain_append]
  refine ⟨isChain_cons_of_not_mem hw, hr, fun last hlast second _ hboth => hw ?_⟩
  rw [List.getLast?_cons_of_ne_nil hne] at hlast
  exact hboth.1 ▸ List.mem_of_getLast? hlast

/-- The last character of a text may give way to one that is no blank. -/
theorem isChain_dropLast_append {last : List Char} (h : (first :: text).IsChain Apart)
    (hl : ' ' ∉ last) : (first :: (text.dropLast ++ last)).IsChain Apart := by
  rw [← List.cons_append, List.isChain_append]
  refine ⟨?_, (@isChain_cons_of_not_mem first last hl).tail, fun _ _ second hsecond hboth => ?_⟩
  · exact h.prefix ((List.prefix_cons_inj first).mpr text.dropLast_prefix)
  · exact hl (hboth.2 ▸ List.mem_of_head? hsecond)

theorem not_mem_letters : ' ' ∉ letters := by decide +kernel

/-- No word is empty or has a blank in it. -/
theorem words_unblanked : ∀ word ∈ words, word.toList ≠ [] ∧ ' ' ∉ word.toList := by decide +kernel

theorem yields_drawLetters_not_mem (count : Nat) :
    Yields (drawLetters count : Draw σ (List Char)) (' ' ∉ ·) := by
  induction count with
  | zero => exact ends_pure List.not_mem_nil
  | succ count ih =>
    refine (yields_choose letters).bind fun letter => ih.bind fun rest => ends_pure ?_
    intro hrest hletter hblank
    rcases List.mem_cons.mp hblank with rfl | hmem
    · exact not_mem_letters hletter
    · exact hrest hmem

/-- A blank may stand before drawn words. -/
theorem yields_drawWords_isChain (missing : Nat) :
    Yields (drawWords missing : Draw σ (List Char)) fun chars => (' ' :: chars).IsChain Apart := by
  induction missing using Nat.strongRecOn with
  | ind missing ih =>
    rw [drawWords]
    refine (yields_choose words).bind fun word => ?_
    dsimp only
    split
    · refine (ih _ (by omega)).bind fun rest => ends_pure fun hrest hword => ?_
      obtain ⟨hne, hblank⟩ := words_unblanked word hword
      exact isChain_word_append hne hblank hrest
    · refine ends_pure fun hword => isChain_cons_of_not_mem fun hmem => ?_
      exact (words_unblanked word hword).2 (List.mem_of_mem_take hmem)

/-- A blank stands between two words only; a text that would end with one ends with a letter. -/
theorem yields_drawChars_isSpaced (length : Nat) :
    Yields (drawChars length : Draw σ (List Char)) IsSpaced := by
  unfold drawChars
  split
  · exact (yields_drawLetters_not_mem length).mono fun _ => isSpaced_of_not_mem
  · refine (yields_any (Random.reserve (length + spareRoom))).andThen fun _ => ?_
    refine (yields_drawWords_isChain length).bind fun chars => ?_
    split
    · -- One letter is drawn, so the text ends with a letter.
      refine ((yields_drawLetters_not_mem 1).and (yields_drawLetters_length 1)).bind fun letter => ?_
      refine ends_pure fun hletter hchars => ?_
      refine isSpaced_of_isChain (isChain_dropLast_append hchars hletter.1) fun hlast => ?_
      have hne : letter ≠ [] := List.ne_nil_of_length_eq_add_one hletter.2
      rw [List.getLast?_append_of_ne_nil _ hne] at hlast
      exact hletter.1 (List.mem_of_getLast? hlast)
    · rename_i hlast
      exact ends_pure fun hchars => isSpaced_of_isChain hchars hlast

/-- **Texts without a meaning.** From any source a length between the bounds is drawn, or the lower one
is taken where they are not in order. If there is room for it, there is a text of that length; it
neither starts nor ends with a blank, and no two blanks in it follow each other. Beyond, there is
none. -/
theorem draw_plain (minLength maxLength : Nat) (source : σ) :
    ∃ length, IsLength minLength maxLength length ∧
      (length + spareRoom ≤ Random.maxRoom → ∃ text rest,
        draw minLength maxLength source = (.ok text, rest) ∧ text.length = length ∧
          text.toList.head? ≠ some ' ' ∧ text.toList.getLast? ≠ some ' ' ∧
          text.toList.IsChain fun first second => ¬(first = ' ' ∧ second = ' ')) ∧
      (Random.maxRoom < length + spareRoom → ∃ rest,
        draw minLength maxLength source = (.error .overflow, rest)) := by
  obtain ⟨length, after, hdrawn, hbetween⟩ := exists_of_total
    (total_drawLength minLength maxLength) (yields_drawLength minLength maxLength) source
  -- What is left to do depends on the length only.
  have hdraw : draw minLength maxLength source =
      (do return String.ofList (← drawChars length) : Draw σ String) after := by
    unfold draw
    rw [bind_apply, hdrawn]
  refine ⟨length, hbetween, fun hroom => ?_, fun hroom => ?_⟩
  · obtain ⟨chars, rest, hchars, hcount, hspaced⟩ := exists_of_total (total_drawChars hroom)
      ((yields_drawChars_length length).and (yields_drawChars_isSpaced length)) after
    refine ⟨String.ofList chars, rest, ?_, ?_, ?_⟩
    · rw [hdraw, bind_apply, hchars]
      rfl
    · rw [String.length_ofList, hcount]
    · rw [String.toList_ofList]
      exact ⟨hspaced.starts, hspaced.ends, hspaced.single⟩
  · refine ⟨after, ?_⟩
    rw [hdraw, drawChars_eq_throw hroom]
    rfl

end Specimen.PlainText
