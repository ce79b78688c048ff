import Specimen.Pattern.Sampler
import Specimen.Proofs.Pattern.Language
import Specimen.Proofs.Random.Total

/-!
# Specimen.Proofs.Pattern.Sampler

What is drawn for a regular expression is one of its texts (`Sampler.yields_draw`).

A sampler has texts of its own (`Sampler.texts`): repetitions directly around each other are one
node, whose counts are products (`Sampler.texts_repeated_le`), and nested choices are flat.
-/

namespace Specimen.Pattern.Sampler

variable {constant lo hi n count maxRepeat : Nat} {ranges : List (Nat × Nat)}
variable {body inner : Sampler} {samplers : List Sampler}

/-! ### Counts -/

/-- A count is the product of a constant and one number of each range. -/
def IsCount (constant : Nat) : List (Nat × Nat) → Nat → Prop
  | [], count => count = constant
  | (lo, hi) :: rest, count => ∃ n, (lo ≤ n ∧ n - lo ≤ hi - lo) ∧ IsCount (constant * n) rest count

/-- A common factor can be taken out of all counts. -/
theorem exists_isCount_of_mul (h : IsCount (constant * n) ranges count) :
    ∃ c, IsCount constant ranges c ∧ count = c * n := by
  induction ranges generalizing constant with
  | nil => exact ⟨constant, rfl, h⟩
  | cons range rest ih =>
    obtain ⟨m, hm, hrest⟩ := h
    rw [Nat.mul_right_comm] at hrest
    obtain ⟨c, hc, hcount⟩ := ih hrest
    exact ⟨c, ⟨m, hm, hc⟩, hcount⟩

/-- The last range is drawn on its own. -/
theorem exists_isCount_of_append (h : IsCount constant (ranges ++ [(lo, hi)]) count) :
    ∃ c n, IsCount constant ranges c ∧ (lo ≤ n ∧ n - lo ≤ hi - lo) ∧ count = c * n := by
  induction ranges generalizing constant with
  | nil =>
    obtain ⟨n, hn, hcount⟩ := h
    exact ⟨constant, n, rfl, hn, hcount⟩
  | cons range rest ih =>
    obtain ⟨m, hm, hrest⟩ := h
    obtain ⟨c, n, hc, hn, hcount⟩ := ih hrest
    exact ⟨c, n, ⟨m, hm, hc⟩, hn, hcount⟩

/-! ### Texts -/

mutual

/-- The texts that are drawn. -/
def texts : Sampler → Language Char
  | .text chars => {chars}
  | .oneOf chars =>
    {text | ∃ index ≤ chars.size - 1, text = ((chars.get? index).map ([·])).getD []}
  | .sequence parts => textsAll parts
  | .choice branches => if branches.isEmpty then 1 else textsAny branches
  | .times constant ranges body =>
    {text | ∃ count, IsCount constant ranges count ∧ text ∈ texts body ^ count}

/-- The texts of some samplers, one behind the other. -/
def textsAll : List Sampler → Language Char
  | [] => 1
  | part :: rest => texts part * textsAll rest

/-- The texts of any of some samplers. -/
def textsAny : List Sampler → Language Char
  | [] => 0
  | branch :: rest => texts branch + textsAny rest

end

/-- A choice has the texts of its branches. -/
theorem textsAny_eq (samplers : List Sampler) : textsAny samplers = (samplers.map texts).sum := by
  induction samplers with
  | nil => rfl
  | cons sampler rest ih => rw [textsAny, ih, List.map_cons, List.sum_cons]

/-- A number of repetitions is one more factor of the count. -/
theorem texts_times_le (h : ∀ c, IsCount constant ranges c → inner.texts ^ c ≤ body.texts) :
    (if lo = hi then times (constant * lo) ranges inner
      else times constant (ranges ++ [(lo, hi)]) inner).texts ≤
      timesBetween lo (some hi) body.texts := by
  have hbody (c n : Nat) (hc : IsCount constant ranges c) :
      inner.texts ^ (c * n) ≤ body.texts ^ n := by
    rw [pow_mul]
    exact pow_le_pow_left' (h c hc) n
  split
  · rintro text ⟨count, hcount, htext⟩
    obtain ⟨c, hc, rfl⟩ := exists_isCount_of_mul hcount
    exact ⟨0, fun m _ => Nat.zero_le _, hbody c lo hc htext⟩
  · rintro text ⟨count, hcount, htext⟩
    obtain ⟨c, n, hc, ⟨hlo, hhi⟩, rfl⟩ := exists_isCount_of_append hcount
    refine ⟨n - lo, fun m hm => ?_, ?_⟩
    · obtain rfl : hi = m := Option.some.inj hm
      exact hhi
    · rw [Nat.add_sub_cancel' hlo]
      exact hbody c n hc htext

/-- Nested repetitions are joined to one and have no new texts. -/
theorem texts_repeated_le (lo hi : Nat) (body : Sampler) :
    (repeated lo hi body).texts ≤ timesBetween lo (some hi) body.texts := by
  unfold repeated
  split
  rename_i constant ranges inner hparts
  split at hparts
  · cases hparts
    refine texts_times_le fun c hc text htext => ?_
    exact Set.mem_ofPred.mpr ⟨c, hc, htext⟩
  · cases hparts
    refine texts_times_le fun c hc => ?_
    obtain rfl : c = 1 := hc
    rw [pow_one]

theorem textsAny_append (samplers others : List Sampler) :
    textsAny (samplers ++ others) = textsAny samplers + textsAny others := by
  rw [textsAny_eq, textsAny_eq, textsAny_eq, List.map_append, List.sum_append]

/-- The branches of a sampler give nothing else than the sampler; a choice from nothing has none. -/
theorem textsAny_branches_le (sampler : Sampler) :
    textsAny sampler.branches ≤ sampler.texts ∧ (sampler.branches = [] → sampler.texts = 1) := by
  unfold branches
  split
  · rename_i branches
    rw [texts]
    split
    · rename_i hempty
      rw [List.isEmpty_iff.mp hempty]
      exact ⟨Set.empty_subset _, fun _ => rfl⟩
    · rename_i hne
      exact ⟨le_refl _, fun hnil => absurd (List.isEmpty_iff.mpr hnil) hne⟩
  · rw [textsAny, textsAny, add_zero]
    exact ⟨le_refl _, fun hnil => absurd hnil (List.cons_ne_nil _ _)⟩

/-- A choice from choices gives what one of them gives. -/
theorem texts_choice_flatMap_le (h : samplers ≠ []) :
    (choice (samplers.flatMap branches)).texts ≤ textsAny samplers := by
  have hany (samplers : List Sampler) :
      textsAny (samplers.flatMap branches) ≤ textsAny samplers := by
    induction samplers with
    | nil => exact le_refl _
    | cons sampler rest ih =>
      rw [List.flatMap_cons, textsAny_append, textsAny]
      exact add_le_add (textsAny_branches_le sampler).1 ih
  rw [texts]
  split
  · rename_i hempty
    obtain ⟨sampler, rest, rfl⟩ := List.exists_cons_of_ne_nil h
    have hnil : sampler.branches = [] :=
      List.flatMap_eq_nil_iff.mp (List.isEmpty_iff.mp hempty) sampler List.mem_cons_self
    rw [textsAny, (textsAny_branches_le sampler).2 hnil]
    exact Set.subset_union_left
  · exact hany samplers

/-! ### Regular expressions -/

/-- Each expression has a sampler of its own. -/
theorem eq_nil_of_ofRegexes? {regexes : List Regex}
    (h : ofRegexes? maxRepeat regexes = some []) : regexes = [] := by
  cases regexes with
  | nil => rfl
  | cons regex rest =>
    obtain ⟨sampler, -, h⟩ := Option.bind_eq_some_iff.mp h
    obtain ⟨others, -, h⟩ := Option.bind_eq_some_iff.mp h
    cases h

mutual

/-- A sampler gives texts of the expression that it is made for. -/
theorem texts_le_of_ofRegex? {regex : Regex} {sampler : Sampler}
    (h : ofRegex? maxRepeat regex = some sampler) : sampler.texts ≤ regex.texts := by
  cases regex with
  | empty =>
    cases h
    exact le_of_eq (map_one Symbol.erased).symm
  | literal chars =>
    cases h
    rw [Regex.texts, Regex.language, Symbol.erased_singleton, Symbol.letters_map_char]
    exact le_refl _
  | set chars =>
    rw [ofRegex?] at h
    split at h
    · cases h
    · rename_i hsize
      cases h
      rintro text ⟨index, hindex, rfl⟩
      have hlt : index < chars.size := by omega
      obtain ⟨c, hget, hc⟩ := CharSet.exists_get? hlt
      rw [hget]
      exact ⟨_, ⟨c, hc, rfl⟩, rfl⟩
  | anchor condition => cases h
  | repetition min max greedy body =>
    obtain ⟨inner, hinner, h⟩ := Option.bind_eq_some_iff.mp h
    cases h
    rw [Regex.texts_repetition]
    refine (texts_repeated_le _ _ inner).trans ?_
    refine le_trans (timesBetween_mono (texts_le_of_ofRegex? hinner)) ?_
    rintro text ⟨extra, hextra, htext⟩
    refine ⟨extra, fun m hm => ?_, htext⟩
    obtain rfl : max = some m := hm
    exact hextra m rfl
  | capture index body =>
    have hbody : sampler.texts ≤ body.texts := texts_le_of_ofRegex? h
    exact hbody
  | concat parts =>
    obtain ⟨samplers, hsamplers, h⟩ := Option.bind_eq_some_iff.mp h
    cases h
    rw [Regex.texts_concat]
    exact (texts_le_of_ofRegexes? hsamplers).1
  | alternation branches =>
    rw [ofRegex?] at h
    split at h
    · cases h
    · rename_i hne
      obtain ⟨samplers, hsamplers, h⟩ := Option.bind_eq_some_iff.mp h
      cases h
      rw [Regex.texts_alternation]
      refine (texts_choice_flatMap_le fun hnil => hne ?_).trans (texts_le_of_ofRegexes? hsamplers).2
      subst hnil
      exact List.isEmpty_iff.mpr (eq_nil_of_ofRegexes? hsamplers)

/-- The texts of samplers are texts of their expressions, in a sequence and in a choice. -/
theorem texts_le_of_ofRegexes? {regexes : List Regex} {samplers : List Sampler}
    (h : ofRegexes? maxRepeat regexes = some samplers) :
    textsAll samplers ≤ (regexes.map Regex.texts).prod ∧
      textsAny samplers ≤ (regexes.map Regex.texts).sum := by
  cases regexes with
  | nil =>
    cases h
    exact ⟨le_refl _, le_refl _⟩
  | cons regex rest =>
    obtain ⟨sampler, hsampler, h⟩ := Option.bind_eq_some_iff.mp h
    obtain ⟨others, hothers, h⟩ := Option.bind_eq_some_iff.mp h
    cases h
    have hfirst := texts_le_of_ofRegex? hsampler
    obtain ⟨hall, hany⟩ := texts_le_of_ofRegexes? hothers
    exact ⟨mul_le_mul' hfirst hall, add_le_add hfirst hany⟩

end

/-! ### Words without marks -/

/-- Words that have no marks. -/
def Unmarked (words : Language Symbol) : Prop :=
  ∀ word ∈ words, ∀ condition, Symbol.mark condition ∉ word

/-- The empty word has no marks. -/
theorem unmarked_one : Unmarked 1 := by
  rintro _ rfl condition
  exact List.not_mem_nil

/-- Words in a row have no marks if neither has. -/
theorem Unmarked.mul {words more : Language Symbol} (hw : Unmarked words) (hm : Unmarked more) :
    Unmarked (words * more) := by
  rintro _ ⟨u, hu, v, hv, rfl⟩ condition hmem
  rcases List.mem_append.mp hmem with hmark | hmark
  · exact hw u hu condition hmark
  · exact hm v hv condition hmark

theorem Unmarked.pow {words : Language Symbol} (h : Unmarked words) (n : Nat) :
    Unmarked (words ^ n) := by
  induction n with
  | zero => exact pow_zero words ▸ unmarked_one
  | succ n ih => exact pow_succ words n ▸ ih.mul h

theorem unmarked_literal (chars : List Char) : Unmarked (Regex.literal chars).language := by
  rintro _ rfl condition hmark
  obtain ⟨c, -, hc⟩ := List.mem_map.mp hmark
  cases hc

mutual

/-- An expression that has a sampler sets no conditions. -/
theorem unmarked_of_ofRegex? {regex : Regex} {sampler : Sampler}
    (h : ofRegex? maxRepeat regex = some sampler) : Unmarked regex.language := by
  cases regex with
  | empty => exact unmarked_one
  | literal chars => exact unmarked_literal chars
  | set chars =>
    rintro _ ⟨c, -, rfl⟩
    exact unmarked_literal [c] _ rfl
  | anchor condition => cases h
  | repetition min max greedy body =>
    obtain ⟨inner, hinner, -⟩ := Option.bind_eq_some_iff.mp h
    rintro word ⟨extra, -, hword⟩
    exact (unmarked_of_ofRegex? hinner).pow _ word hword
  | capture index body =>
    have hbody : Unmarked body.language := unmarked_of_ofRegex? h
    exact hbody
  | concat parts =>
    obtain ⟨samplers, hsamplers, -⟩ := Option.bind_eq_some_iff.mp h
    exact (unmarked_of_ofRegexes? hsamplers).1
  | alternation branches =>
    rw [ofRegex?] at h
    split at h
    · cases h
    · obtain ⟨samplers, hsamplers, -⟩ := Option.bind_eq_some_iff.mp h
      exact (unmarked_of_ofRegexes? hsamplers).2

/-- Samplers are made of expressions without anchors only. -/
theorem unmarked_of_ofRegexes? {regexes : List Regex} {samplers : List Sampler}
    (h : ofRegexes? maxRepeat regexes = some samplers) :
    Unmarked (Regex.languageAll regexes) ∧ Unmarked (Regex.languageAny regexes) := by
  cases regexes with
  | nil => exact ⟨unmarked_one, fun word hword => absurd hword (Language.notMem_zero word)⟩
  | cons regex rest =>
    obtain ⟨sampler, hsampler, h⟩ := Option.bind_eq_some_iff.mp h
    obtain ⟨others, hothers, -⟩ := Option.bind_eq_some_iff.mp h
    have hfirst := unmarked_of_ofRegex? hsampler
    obtain ⟨hall, hany⟩ := unmarked_of_ofRegexes? hothers
    refine ⟨hfirst.mul hall, ?_⟩
    rintro word (hword | hword)
    · exact hfirst word hword
    · exact hany word hword

end

/-! ### Draws -/

variable {σ : Type} [Random.Source σ]

/-- A count is drawn within its ranges. -/
theorem yields_drawCount (constant : Nat) (ranges : List (Nat × Nat)) :
    Yields (drawCount constant ranges : Random.Draw σ Nat) (IsCount constant ranges) := by
  induction ranges generalizing constant with
  | nil => exact ends_pure rfl
  | cons range rest ih =>
    refine (Random.yields_evenly range.1 range.2).bind_of fun n hn => ?_
    exact (ih (constant * n)).mono fun count hcount => ⟨n, hn, hcount⟩

omit [Random.Source σ] in
/-- Draws in a row give texts in a row. -/
theorem yields_drawTimes {draw : Random.Draw σ (List Char)} {texts : Language Char}
    (hd : Yields draw (· ∈ texts)) (count : Nat) :
    Yields (drawTimes draw count) (· ∈ texts ^ count) := by
  induction count with
  | zero => exact ends_pure rfl
  | succ count ih =>
    refine hd.bind_of fun first hfirst => ih.bind_of fun rest hrest => ends_pure ?_
    rw [pow_succ']
    exact Language.append_mem_mul hfirst hrest

mutual

/-- What is drawn is one of the texts. -/
theorem yields_drawChars (sampler : Sampler) :
    Yields (drawChars sampler : Random.Draw σ (List Char)) (· ∈ sampler.texts) := by
  cases sampler with
  | text chars => exact ends_pure rfl
  | oneOf chars =>
    refine (Random.yields_evenly 0 (chars.size - 1)).bind fun index => ends_pure fun hindex => ?_
    exact ⟨index, hindex.2, rfl⟩
  | sequence parts => exact yields_drawAll parts
  | choice branches =>
    refine (Random.yields_evenly 0 (branches.length - 1)).bind_of fun index hindex => ?_
    rw [texts]
    split
    · rename_i hempty
      rw [List.isEmpty_iff.mp hempty]
      exact ends_pure rfl
    · rename_i hne
      have hpos : 0 < branches.length := by
        rw [List.length_pos_iff]
        exact fun hnil => hne (List.isEmpty_iff.mpr hnil)
      exact yields_drawBranch branches index (by omega)
  | times constant ranges body =>
    refine (yields_drawCount constant ranges).bind_of fun count hcount => ?_
    exact (yields_drawTimes (yields_drawChars body) count).mono fun text htext =>
      ⟨count, hcount, htext⟩

theorem yields_drawAll (samplers : List Sampler) :
    Yields (drawAll samplers : Random.Draw σ (List Char)) (· ∈ textsAll samplers) := by
  cases samplers with
  | nil => exact ends_pure rfl
  | cons part rest =>
    refine (yields_drawChars part).bind_of fun first hfirst => ?_
    refine (yields_drawAll rest).bind_of fun others hothers => ends_pure ?_
    exact Language.append_mem_mul hfirst hothers

/-- A branch gives texts of the choice. -/
theorem yields_drawBranch (samplers : List Sampler) (index : Nat) (h : index < samplers.length) :
    Yields (drawBranch samplers index : Random.Draw σ (List Char)) (· ∈ textsAny samplers) := by
  cases samplers with
  | nil => cases h
  | cons branch rest =>
    cases index with
    | zero => exact (yields_drawChars branch).mono fun text htext => .inl htext
    | succ index =>
      refine (yields_drawBranch rest index ?_).mono fun text htext => .inr htext
      exact Nat.lt_of_succ_lt_succ h

end

/-- What is drawn for a regular expression is one of its texts. -/
theorem yields_draw {regex : Regex} {sampler : Sampler}
    (h : ofRegex? maxRepeat regex = some sampler) :
    Yields (draw sampler : Random.Draw σ String) fun text => text.toList ∈ regex.texts := by
  refine (yields_drawChars sampler).bind fun chars => ends_pure fun hchars => ?_
  rw [String.toList_ofList]
  exact texts_le_of_ofRegex? h hchars

/-! ### Failing draws -/

omit [Random.Source σ] in
theorem failsOnly_drawTimes {draw : Random.Draw σ (List Char)} {faults : Random.Fault → Prop}
    (hd : FailsOnly draw faults) (count : Nat) : FailsOnly (drawTimes draw count) faults := by
  induction count with
  | zero => exact failsOnly_pure _
  | succ count ih => exact hd.bind fun _ => ih.bind fun _ => failsOnly_pure _

theorem failsOnly_drawCount (constant : Nat) (ranges : List (Nat × Nat)) :
    FailsOnly (drawCount constant ranges : Random.Draw σ Nat) (Random.Stalls σ) := by
  induction ranges generalizing constant with
  | nil => exact failsOnly_pure _
  | cons range rest ih =>
    obtain ⟨lo, hi⟩ := range
    exact (Random.failsOnly_evenly lo hi).bind fun _ => ih _

mutual

/-- Only even draws can fail, and those where the source never gives a word that fits. -/
theorem failsOnly_drawChars : (sampler : Sampler) →
    FailsOnly (drawChars sampler : Random.Draw σ (List Char)) (Random.Stalls σ)
  | .text _ => by
    rw [drawChars]
    exact failsOnly_pure _
  | .oneOf _ => by
    rw [drawChars]
    exact (Random.failsOnly_evenly _ _).bind fun _ => failsOnly_pure _
  | .sequence parts => by
    rw [drawChars]
    exact failsOnly_drawAll parts
  | .choice branches => by
    rw [drawChars]
    exact (Random.failsOnly_evenly _ _).bind fun index => failsOnly_drawBranch branches index
  | .times constant ranges body => by
    rw [drawChars]
    exact (failsOnly_drawCount constant ranges).bind fun count =>
      failsOnly_drawTimes (failsOnly_drawChars body) count

theorem failsOnly_drawAll : (samplers : List Sampler) →
    FailsOnly (drawAll samplers : Random.Draw σ (List Char)) (Random.Stalls σ)
  | [] => by
    rw [drawAll]
    exact failsOnly_pure _
  | part :: rest => by
    rw [drawAll]
    exact (failsOnly_drawChars part).bind fun _ =>
      (failsOnly_drawAll rest).bind fun _ => failsOnly_pure _

theorem failsOnly_drawBranch : (samplers : List Sampler) → (index : Nat) →
    FailsOnly (drawBranch samplers index : Random.Draw σ (List Char)) (Random.Stalls σ)
  | [], _ => by
    rw [drawBranch]
    exact failsOnly_pure _
  | branch :: _, 0 => by
    rw [drawBranch]
    exact failsOnly_drawChars branch
  | _ :: rest, index + 1 => by
    rw [drawBranch]
    exact failsOnly_drawBranch rest index

end

theorem failsOnly_draw (sampler : Sampler) :
    FailsOnly (sampler.draw : Random.Draw σ String) (Random.Stalls σ) :=
  (failsOnly_drawChars sampler).bind fun _ => failsOnly_pure _

end Specimen.Pattern.Sampler
