import Mathlib
import Specimen.Proofs.Pattern.Library
import Specimen.Proofs.Pattern.Parser

/-!
# Specimen.Proofs.Pattern.Samples

Samples of a pattern, and the pattern with its anchors.

A sample is a text of the expression that a pattern is matched with, but its anchors and word
boundaries were not asked for (`draw_matched`). Only where one of them fails at its place may the
sample not match. None fails when those of a start stand only at the start of an expression and
those of an end at the end (`Regex.anchoredAtEdges`).

All this holds for every library of regular expressions that is faithful to their syntax.
-/

namespace Specimen.Pattern

variable {condition : Anchor} {word u v : List Symbol} {words more : Language Symbol}
variable {before behind : List Char} {first last : Bool} {lexicon : Lexicon}

/-! ### Marks between two texts -/

/-- The marks of a word hold between two texts. -/
def HoldsBetween (before : List Char) (word : List Symbol) (behind : List Char) : Prop :=
  ∀ u condition v, word = u ++ .mark condition :: v →
    condition.holds (before ++ Symbol.letters u).getLast? (Symbol.letters v ++ behind).head?

theorem HoldsBetween.holds (h : HoldsBetween [] word []) : Holds word := by
  intro u condition v heq
  have hmark := h u condition v heq
  rwa [List.nil_append, List.append_nil] at hmark

theorem holdsBetween_chars (text : List Char) : HoldsBetween before (text.map .char) behind := by
  intro u condition v heq
  have hmark : Symbol.mark condition ∈ text.map Symbol.char := by
    rw [heq]
    exact List.mem_append_right u List.mem_cons_self
  obtain ⟨c, -, hc⟩ := List.mem_map.mp hmark
  cases hc

theorem holdsBetween_mark (h : condition.holds before.getLast? behind.head?) :
    HoldsBetween before [.mark condition] behind := by
  intro u other v heq
  obtain ⟨rfl, hother⟩ | ⟨-, hnil⟩ := List.singleton_eq_append_iff.mp heq
  · cases hother
    rwa [Symbol.letters_nil, List.append_nil, List.nil_append]
  · cases hnil

theorem HoldsBetween.append (hu : HoldsBetween before u (Symbol.letters v ++ behind))
    (hv : HoldsBetween (before ++ Symbol.letters u) v behind) :
    HoldsBetween before (u ++ v) behind := by
  intro x condition y heq
  rcases List.append_eq_append_iff.mp heq with ⟨w, rfl, hright⟩ | ⟨w, rfl, hleft⟩
  · have hmark := hv w condition y hright
    rwa [List.append_assoc, ← Symbol.letters_append] at hmark
  · cases w with
    | nil =>
      rw [List.append_nil] at hv
      have hmark := hv [] condition y hleft.symm
      rwa [Symbol.letters_nil, List.append_nil] at hmark
    | cons symbol w =>
      obtain ⟨rfl, rfl⟩ := List.cons_eq_cons.mp hleft
      have hmark := hu x condition w rfl
      rwa [← List.append_assoc, ← Symbol.letters_append] at hmark

/-- The marks of all words hold between two texts, the first of which is empty if the place is the
start of a text, and the second one if it is the end. -/
def AllHold (first last : Bool) (words : Language Symbol) : Prop :=
  ∀ word ∈ words, ∀ before behind, (first → before = []) → (last → behind = []) →
    HoldsBetween before word behind

namespace AllHold

theorem one : AllHold first last 1 := by
  rintro _ rfl before behind - -
  exact holdsBetween_chars []

theorem mul {emptyWords emptyMore : Bool} (hw : emptyWords → Symbol.erased words ≤ 1)
    (hm : emptyMore → Symbol.erased more ≤ 1) (h : AllHold first (last && emptyMore) words)
    (h' : AllHold (first && emptyWords) last more) : AllHold first last (words * more) := by
  rintro _ ⟨u, hu, v, hv, rfl⟩ before behind hfirst hlast
  refine (h u hu _ _ hfirst fun hends => ?_).append (h' v hv _ _ (fun hstarts => ?_) hlast)
  · obtain ⟨hends, hempty⟩ := Bool.and_eq_true_iff.mp hends
    have hnil : Symbol.letters v = [] := hm hempty ⟨v, hv, rfl⟩
    rw [hnil, hlast hends, List.append_nil]
  · obtain ⟨hstarts, hempty⟩ := Bool.and_eq_true_iff.mp hstarts
    have hnil : Symbol.letters u = [] := hw hempty ⟨u, hu, rfl⟩
    rw [hnil, hfirst hstarts, List.append_nil]

theorem pow {empty : Bool} (hempty : empty → Symbol.erased words ≤ 1)
    (h : AllHold (first && empty) (last && empty) words) (n : Nat) :
    AllHold first last (words ^ n) := by
  induction n generalizing first last with
  | zero =>
    rw [pow_zero]
    exact one
  | succ n ih =>
    have hpow (he : empty) : Symbol.erased (words ^ n) ≤ 1 := by
      rw [map_pow]
      exact pow_le_one' (hempty he) n
    rw [pow_succ']
    refine mul hempty hpow (fun word hword before behind hfirst hlast => ?_) (ih ?_)
    · refine h word hword before behind (fun hstarts => ?_) hlast
      exact hfirst (Bool.and_eq_true_iff.mp hstarts).1
    · rwa [Bool.and_assoc, Bool.and_self]

end AllHold

/-! ### Anchors at the edges -/

/-- Whether a condition holds at the start of every text. -/
def Anchor.holdsAtStart : Anchor → Bool
  | .textStart | .lineStart | .anyLineStart | .wordStartHalf _ => true
  | _ => false

/-- Whether a condition holds at the end of every text. -/
def Anchor.holdsAtEnd : Anchor → Bool
  | .textEnd | .lineEnd | .anyLineEnd | .wordEndHalf _ => true
  | _ => false

theorem Anchor.holds_start (h : condition.holdsAtStart) (behind : Option Char) :
    condition.holds none behind := by
  cases condition with
  | textStart | lineStart | anyLineStart | wordStartHalf => rfl
  | _ => cases h

theorem Anchor.holds_end (h : condition.holdsAtEnd) (before : Option Char) :
    condition.holds before none := by
  cases condition with
  | textEnd | lineEnd | anyLineEnd | wordEndHalf => rfl
  | _ => cases h

namespace Regex

mutual

/-- Whether the anchors of an expression stand only at the places where they hold in every text:
`first` says that the expression is at the start of it, and `last` that it is at the end. -/
def anchoredAtEdges (first last : Bool) : Regex → Bool
  | .empty | .literal _ | .set _ => true
  | .anchor condition => first && condition.holdsAtStart || last && condition.holdsAtEnd
  | .repetition min max _ body =>
    if min ≤ 1 ∧ max = some 1 then anchoredAtEdges first last body
    else anchoredAtEdges (first && body.onlyEmpty) (last && body.onlyEmpty) body
  | .capture _ body => anchoredAtEdges first last body
  | .concat parts => partsAtEdges first last parts
  | .alternation branches => branchesAtEdges first last branches

/-- As `anchoredAtEdges`, for expressions one behind the other. -/
def partsAtEdges (first last : Bool) : List Regex → Bool
  | [] => true
  | part :: rest =>
    anchoredAtEdges first (last && onlyEmptyAll rest) part &&
      partsAtEdges (first && part.onlyEmpty) last rest

/-- As `anchoredAtEdges`, for each of some expressions. -/
def branchesAtEdges (first last : Bool) : List Regex → Bool
  | [] => true
  | branch :: rest => anchoredAtEdges first last branch && branchesAtEdges first last rest

end

theorem erased_languageAll_le_one {parts : List Regex} (h : onlyEmptyAll parts) :
    Symbol.erased (languageAll parts) ≤ 1 :=
  @texts_le_one_of_onlyEmpty (.concat parts) h

mutual

/-- Where anchors stand only at the edges, every one of them holds. -/
theorem allHold_of_anchoredAtEdges (regex : Regex) (first last : Bool)
    (h : regex.anchoredAtEdges first last) : AllHold first last regex.language := by
  cases regex with
  | empty => exact .one
  | literal text =>
    rintro _ rfl before behind - -
    exact holdsBetween_chars text
  | set chars =>
    rintro _ ⟨c, -, rfl⟩ before behind - -
    exact holdsBetween_chars [c]
  | anchor condition =>
    rintro _ rfl before behind hfirst hlast
    refine holdsBetween_mark ?_
    rw [anchoredAtEdges, Bool.or_eq_true, Bool.and_eq_true, Bool.and_eq_true] at h
    rcases h with ⟨hstarts, hholds⟩ | ⟨hends, hholds⟩
    · rw [hfirst hstarts]
      exact Anchor.holds_start hholds _
    · rw [hlast hends]
      exact Anchor.holds_end hholds _
  | repetition min max greedy body =>
    rintro word ⟨extra, hextra, hword⟩
    rw [anchoredAtEdges] at h
    split at h
    · -- There is one round or none.
      rename_i hbounds
      obtain ⟨hmin, rfl⟩ := hbounds
      have hrounds : min + extra = 0 ∨ min + extra = 1 := by
        have := hextra 1 rfl
        omega
      rcases hrounds with hnone | honce
      · rw [hnone, pow_zero] at hword
        exact AllHold.one word hword
      · rw [honce, pow_one] at hword
        exact allHold_of_anchoredAtEdges body first last h word hword
    · refine AllHold.pow (fun hempty => ?_) (allHold_of_anchoredAtEdges body _ _ h) _ word hword
      exact texts_le_one_of_onlyEmpty hempty
  | capture index body => exact allHold_of_anchoredAtEdges body first last h
  | concat parts => exact allHold_of_partsAtEdges parts first last h
  | alternation branches => exact allHold_of_branchesAtEdges branches first last h

theorem allHold_of_partsAtEdges (parts : List Regex) (first last : Bool)
    (h : partsAtEdges first last parts) : AllHold first last (languageAll parts) := by
  cases parts with
  | nil => exact .one
  | cons part rest =>
    rw [partsAtEdges, Bool.and_eq_true] at h
    exact .mul texts_le_one_of_onlyEmpty erased_languageAll_le_one
      (allHold_of_anchoredAtEdges part _ _ h.1) (allHold_of_partsAtEdges rest _ _ h.2)

theorem allHold_of_branchesAtEdges (branches : List Regex) (first last : Bool)
    (h : branchesAtEdges first last branches) : AllHold first last (languageAny branches) := by
  cases branches with
  | nil => exact fun word hword => absurd hword (Language.notMem_zero word)
  | cons branch rest =>
    rw [branchesAtEdges, Bool.and_eq_true] at h
    rintro word (hword | hword)
    · exact allHold_of_anchoredAtEdges branch first last h.1 word hword
    · exact allHold_of_branchesAtEdges rest first last h.2 word hword

end

theorem holds_of_anchoredAtEdges {regex : Regex} (h : regex.anchoredAtEdges true true)
    (hword : word ∈ regex.language) : Holds word :=
  (allHold_of_anchoredAtEdges regex true true h word hword [] [] (fun _ => rfl) fun _ => rfl).holds

/-- Without its anchors, a pattern is read as an expression that has no other texts. -/
theorem texts_le_of_parse? {pattern : String} {whole bare : Regex}
    (hblanks : blanksCountIn lexicon (translate pattern false))
    (honce : anchorsOnce false (translate pattern false).toList)
    (hwhole : parse? lexicon (translate pattern false) = some whole)
    (hbare : parse? lexicon (translate pattern true) = some bare) : bare.texts ≤ whole.texts := by
  have hthin : Thinned false (translate pattern false).toList (translate pattern true).toList := by
    rw [translate, translate, String.toList_ofList, String.toList_ofList]
    rw [translate, String.toList_ofList] at honce
    exact thinned_translateFrom honce
  have hstart : Beside .initial (translate pattern false).toList .initial
      (translate pattern true).toList := ⟨true, false, .initial, hthin, fun hlast => nomatch hlast⟩
  exact texts_le_of_parseWith hstart hblanks hwhole hbare

end Regex

/-! ### Samples -/

/-- A sample of a pattern is a text of the expression that the pattern is matched with. That the
sample is matched depends on the anchors only. -/
theorem draw_matched {σ : Type} {library : Library σ} {pattern : String} {maxRepeat : Nat}
    {draw : Random.Draw σ String} {isMatch : String → Bool} (hlibrary : library.IsFaithful lexicon)
    (hsamples : library.samples? pattern maxRepeat = some draw)
    (hmatches : library.matches? pattern = some isMatch)
    (hblanks : Regex.blanksCountIn lexicon (translate pattern false))
    (honce : anchorsOnce false (translate pattern false).toList) :
    ∃ regex, Regex.parse? lexicon (translate pattern false) = some regex ∧
      Yields draw fun text =>
        (∃ word ∈ regex.language, Symbol.letters word = text.toList) ∧
        (∀ word ∈ regex.language, Symbol.letters word = text.toList → Holds word →
          isMatch text) ∧
        (regex.anchoredAtEdges true true → isMatch text) := by
  obtain ⟨bare, hbare, hyields⟩ := hlibrary.sampler hsamples
  obtain ⟨regex, hregex, hmatch⟩ := hlibrary.matcher hmatches
  refine ⟨regex, hregex, hyields.mono fun text hsample => ?_⟩
  obtain ⟨sample, hsample, htext, -⟩ := hsample
  obtain ⟨word, hword, hletters⟩ :=
    Regex.texts_le_of_parse? hblanks honce hregex hbare ⟨sample, hsample, htext⟩
  have hmatched (word : List Symbol) (hword : word ∈ regex.language)
      (hletters : Symbol.letters word = text.toList) (hholds : Holds word) : isMatch text :=
    (hmatch text).mpr (Regex.DescribesWhole.describesPart ⟨word, hword, hletters, hholds⟩)
  refine ⟨⟨word, hword, hletters⟩, hmatched, fun hedges => ?_⟩
  exact hmatched word hword hletters (Regex.holds_of_anchoredAtEdges hedges hword)

theorem draw_matched_catOrDog :
    ∃ draw isMatch,
      (Library.bundled : Library Random.Highest).IsFaithful .bundled ∧
      (Library.bundled : Library Random.Highest).samples? "^cat$|^dog$" 8 = some draw ∧
      (Library.bundled : Library Random.Highest).matches? "^cat$|^dog$" = some isMatch ∧
      Regex.blanksCountIn .bundled (translate "^cat$|^dog$" false) ∧
      anchorsOnce false (translate "^cat$|^dog$" false).toList ∧
      Yields draw fun text => isMatch text := by
  have hsampler : (Sampler.ofPattern? "^cat$|^dog$" 8).isSome := by cbv
  have hmatcher : (matcher? "^cat$|^dog$").any (·.anchoredAtEdges true true) := by cbv
  have hblanks : Regex.blanksCountIn .bundled (translate "^cat$|^dog$" false) := by cbv
  have honce : anchorsOnce false (translate "^cat$|^dog$" false).toList := by cbv
  obtain ⟨sampler, hsampler⟩ := Option.isSome_iff_exists.mp hsampler
  obtain ⟨regex, hregex, hedges⟩ := (Option.any_eq_true _ _).mp hmatcher
  have hsamples : (Library.bundled : Library Random.Highest).samples? "^cat$|^dog$" 8 =
      some sampler.draw := by
    rw [Library.samples?_bundled, hsampler]
    rfl
  have hmatches : (Library.bundled : Library Random.Highest).matches? "^cat$|^dog$" =
      some regex.matchesPart := by
    rw [Library.matches?_bundled, hregex]
    rfl
  obtain ⟨found, hfound, hyields⟩ :=
    draw_matched Library.bundled_isFaithful hsamples hmatches hblanks honce
  obtain rfl : regex = found := Option.some.inj (hregex.symm.trans hfound)
  exact ⟨_, _, Library.bundled_isFaithful, hsamples, hmatches, hblanks, honce,
    hyields.mono fun text htext => htext.2.2 hedges⟩

/-- A text can be drawn for a pattern that does not match it. -/
def DrawnUnmatched (pattern text : String) : Prop :=
  ∃ draw isMatch, Library.bundled.samples? pattern 1 = some draw ∧
    (Library.bundled : Library Random.Scripted).matches? pattern = some isMatch ∧
    ∃ source : Random.Scripted, (draw source).1 = .ok text ∧ isMatch text = false

/-- An anchor between two characters holds nowhere. Where an anchor is repeated, or blanks are
ignored behind it, the sign of the repetition is left to what stands before. -/
theorem draw_unmatched :
    (Library.bundled : Library Random.Scripted).IsFaithful .bundled ∧
      DrawnUnmatched "a^b" "ab" ∧ DrawnUnmatched "a^*b" "b" ∧ DrawnUnmatched "(?x)a ^ *b" "b" := by
  have hdrawn (pattern text : String) (sampler : Sampler) (regex : Regex)
      (hsampler : Sampler.ofPattern? pattern 1 = some sampler)
      (hregex : matcher? pattern = some regex)
      (htext : (sampler.draw (⟨[]⟩ : Random.Scripted)).1 = .ok text)
      (hunmatched : regex.matchesPart text = false) : DrawnUnmatched pattern text := by
    refine ⟨sampler.draw, regex.matchesPart, ?_, ?_, ⟨[]⟩, htext, hunmatched⟩
    · rw [Library.samples?_bundled, hsampler]
      rfl
    · rw [Library.matches?_bundled, hregex]
      rfl
  have hinside : DrawnUnmatched "a^b" "ab" :=
    hdrawn _ _ (.text ['a', 'b'])
      (.concat [.literal ['a'], .anchor .textStart, .literal ['b']])
      (by cbv) (by cbv) (by cbv) (by cbv)
  have hrepeated (pattern : String)
      (hsampler : Sampler.ofPattern? pattern 1 =
        some (.sequence [.times 1 [(0, 1)] (.text ['a']), .text ['b']]))
      (hregex : matcher? pattern = some (.concat
        [.literal ['a'], .repetition 0 (some 1) true (.anchor .textStart), .literal ['b']])) :
      DrawnUnmatched pattern "b" :=
    hdrawn _ _ _ _ hsampler hregex (by cbv) (by cbv)
  exact ⟨Library.bundled_isFaithful, hinside, hrepeated _ (by cbv) (by cbv),
    hrepeated _ (by cbv) (by cbv)⟩

end Specimen.Pattern
