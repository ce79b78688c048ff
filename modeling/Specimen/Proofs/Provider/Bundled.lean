import Specimen.Proofs.PlainText
import Specimen.Provider.Bundled

/-!
# Specimen.Proofs.Provider.Bundled

How sources of realistic values fail to draw. One that gives out listed values never does
(`not_faults_ofTable`). The one that comes with the library only does for a password of the largest
length (`not_faults_bundled`, `overflow_of_faultsWithin_bundled`).

All lists of words have entries, and each length is drawn from a range that holds one.
-/

namespace Specimen

open Specimen.Random

/-! ### Lists of words -/

namespace Provider.Words

/-- Splitting a text gives one part at least. -/
theorem splitOnAux_ne_nil (text separator : String) (start i j : String.Pos.Raw)
    (found : List String) : String.splitOnAux text separator start i j found ≠ [] := by
  fun_induction String.splitOnAux text separator start i j found with
  | case1 => exact fun h => List.cons_ne_nil _ _ (List.reverse_eq_nil_iff.mp h)
  | case2 _ _ _ _ _ _ _ _ _ ih => exact ih
  | case3 _ _ _ _ _ _ _ _ _ ih => exact ih
  | case4 _ _ _ _ _ _ ih => exact ih

/-- Every line has an entry. -/
theorem splitOn_ne_nil (text separator : String) : text.splitOn separator ≠ [] := by
  unfold String.splitOn
  split
  · exact List.cons_ne_nil _ _
  · exact splitOnAux_ne_nil _ _ _ _ _ _

/-- A table that is written in one line or more has an entry. -/
theorem entries_size_pos (line : String) (lines : List String) :
    0 < (entries (line :: lines)).size := by
  unfold entries
  rw [List.size_toArray, List.flatMap_cons, List.length_append]
  have hline := List.length_pos_iff.mpr (splitOn_ne_nil line "; ")
  omega

end Provider.Words

/-! ### Texts for a hint -/

namespace Provider.Bundled

variable {σ : Type} [Source σ] (locale : Locale)

/-- Each locale has first names. -/
theorem total_firstName : Total (choose (firstNames locale) : Draw σ String) := by
  cases locale with
  | enUS => exact total_choose (Words.entries_size_pos _ _)
  | ptBR => exact total_choose (Words.entries_size_pos _ _)

theorem total_lastName : Total (choose (lastNames locale) : Draw σ String) := by
  cases locale with
  | enUS => exact total_choose (Words.entries_size_pos _ _)
  | ptBR => exact total_choose (Words.entries_size_pos _ _)

/-- Whichever table of names is chosen from, it has an entry. -/
theorem total_eitherName (isFirst : Prop) [Decidable isFirst] :
    Total (choose (if isFirst then firstNames locale else lastNames locale) : Draw σ String) := by
  split
  · exact total_firstName locale
  · exact total_lastName locale

theorem total_drawBytes {lo hi : Nat} (h : lo ≤ hi) :
    Total (drawBytes lo hi : Draw σ (List UInt8)) :=
  (total_size h).bind fun count => total_bytes count

theorem total_drawDate : Total (drawDate : Draw σ String) :=
  (total_below64 (by decide)).bind fun _ => failsOnly_pure _

theorem total_drawTime : Total (drawTime : Draw σ String) :=
  (total_below32 (by decide)).bind fun _ => failsOnly_pure _

theorem total_drawDuration : Total (drawDuration : Draw σ String) := by
  refine (total_below32 (by decide)).bind fun days => ?_
  refine (total_below32 (by decide)).bind fun hours => ?_
  exact (total_below32 (by decide)).bind fun minutes => failsOnly_pure _

theorem total_drawWord : Total (drawWord : Draw σ String) :=
  total_choose (Words.entries_size_pos _ _)

/-- Words are drawn one after the other, as many as asked for. -/
theorem total_drawWords (count : Nat) : Total (drawWords count : Draw σ (List String)) := by
  induction count with
  | zero => exact failsOnly_pure _
  | succ count ih => exact total_drawWord.bind fun _ => ih.bind fun _ => failsOnly_pure _

/-- A sentence has a number of words from a range that is not empty. -/
theorem total_drawSentence {lo stop : Nat} (h : lo < stop) :
    Total (drawSentence lo stop : Draw σ String) :=
  (total_sizeBefore h).bind fun count => (total_drawWords count).bind fun _ => failsOnly_pure _

theorem total_drawParagraph : Total (drawParagraph : Draw σ String) := by
  have hsentences (count : Nat) : Total (drawSentences count : Draw σ (List String)) := by
    induction count with
    | zero => exact failsOnly_pure _
    | succ count ih =>
      exact (total_drawSentence (by decide)).bind fun _ => ih.bind fun _ => failsOnly_pure _
  exact (total_sizeBefore (by decide)).bind fun count =>
    (hsentences count).bind fun _ => failsOnly_pure _

theorem total_drawHostname : Total (drawHostname : Draw σ String) := by
  refine total_drawWord.bind fun label => ?_
  exact (total_choose (Words.entries_size_pos _ _)).bind fun _ => failsOnly_pure _

/-- Each of the four forms of a user name ends in a draw that succeeds. -/
theorem total_drawUsername : Total (drawUsername locale : Draw σ String) := by
  have hfirst : Total (do return Letters.lower (← choose (firstNames locale)) : Draw σ String) :=
    (total_firstName locale).bind fun _ => failsOnly_pure _
  unfold drawUsername
  refine total_byte.bind ?_
  intro form
  dsimp only
  split
  · exact hfirst
  · split
    · exact total_drawWord.bind fun _ => hfirst.bind fun _ => failsOnly_pure _
    · split
      · exact hfirst.bind fun _ => total_byte.bind fun _ => failsOnly_pure _
      · exact hfirst.bind fun _ => total_drawWord.bind fun _ => failsOnly_pure _

/-- Each place of a form is filled by a draw of one digit. -/
theorem total_fillDigits (form : List Char) : Total (fillDigits form : Draw σ (List Char)) := by
  induction form with
  | nil => exact failsOnly_pure _
  | cons c rest ih =>
    have hrest (c : Char) : Total (do return c :: (← fillDigits rest) : Draw σ (List Char)) :=
      ih.bind fun _ => failsOnly_pure _
    unfold fillDigits
    split
    · exact (total_below32 (by decide)).bind fun _ => hrest _
    · split
      · exact (total_below32 (by decide)).bind fun _ => hrest _
      · exact hrest _

/-- A form is chosen and then filled. -/
theorem total_drawForm {forms : Array String} (h : 0 < forms.size) :
    Total (drawForm forms : Draw σ String) :=
  (total_choose h).bind fun _ => (total_fillDigits _).bind fun _ => failsOnly_pure _

theorem total_drawCity : Total (drawCity locale : Draw σ String) := by
  unfold drawCity
  refine (total_below32 (by decide)).bind ?_
  intro form
  have hsuffix : Total (choose Words.Place.citySuffixes : Draw σ String) :=
    total_choose (Words.entries_size_pos _ _)
  split
  · refine (total_choose (Words.entries_size_pos _ _)).bind fun cityPrefix => ?_
    refine (total_firstName locale).bind fun first => ?_
    refine (total_lastName locale).bind fun last => ?_
    exact hsuffix.bind fun _ => failsOnly_pure _
  · exact (total_eitherName locale _).bind fun _ => hsuffix.bind fun _ => failsOnly_pure _

theorem total_drawStreet : Total (drawStreet locale : Draw σ String) := by
  unfold drawStreet
  refine total_flip.bind ?_
  intro isFirst
  refine (total_eitherName locale _).bind ?_
  intro name
  cases locale with
  | enUS => exact (total_choose (Words.entries_size_pos _ _)).bind fun _ => failsOnly_pure _
  | ptBR => exact (total_choose (Words.entries_size_pos _ _)).bind fun _ => failsOnly_pure _

theorem total_drawCompany : Total (drawCompany locale : Draw σ String) := by
  have hsuffix : Total (choose (companySuffixes locale) : Draw σ String) := by
    cases locale with
    | enUS => exact total_choose (Words.entries_size_pos _ _)
    | ptBR => exact total_choose (Words.entries_size_pos _ _)
  refine (total_index (by decide)).bind fun _ => ?_
  refine (total_lastName locale).bind fun first => ?_
  refine (total_lastName locale).bind fun second => ?_
  exact hsuffix.bind fun _ => failsOnly_pure _

theorem total_drawIpv4 : Total (drawIpv4 : Draw σ String) := by
  refine (total_between32 (by decide)).bind fun first => ?_
  refine total_byte.bind fun second => total_byte.bind fun third => ?_
  exact total_byte.bind fun fourth => failsOnly_pure _

theorem total_drawIpv6 : Total (drawIpv6 : Draw σ String) := by
  have hgroups (count : Nat) : Total (drawGroups count : Draw σ (List String)) := by
    induction count with
    | zero => exact failsOnly_pure _
    | succ count ih => exact total_draw32.bind fun _ => ih.bind fun _ => failsOnly_pure _
  exact (hgroups 8).bind fun _ => failsOnly_pure _

/-- The range of lengths must not be empty. -/
theorem total_drawPassword {lo stop : Nat} (h : lo < stop) :
    Total (drawPassword lo stop : Draw σ String) := by
  have hletters : 0 < passwordLetters.size := by decide
  have hchars (count : Nat) : Total (drawPasswordChars count : Draw σ (List Char)) := by
    induction count with
    | zero => exact failsOnly_pure _
    | succ count ih => exact (total_choose hletters).bind fun _ => ih.bind fun _ => failsOnly_pure _
  exact (total_sizeBefore h).bind fun count => (hchars count).bind fun _ => failsOnly_pure _

/-- A text for a hint. -/
theorem total_text (hint : Hint) : Total (text locale hint : Draw σ String) := by
  cases hint with
  | email =>
    refine (total_choose (Words.entries_size_pos _ _)).bind fun name => ?_
    exact (total_choose (by decide)).bind fun _ => failsOnly_pure _
  | uuid => exact (total_bytes 16).bind fun _ => failsOnly_pure _
  | date => exact total_drawDate
  | dateTime => exact total_drawDate.bind fun _ => total_drawTime.bind fun _ => failsOnly_pure _
  | time => exact total_drawTime.bind fun _ => failsOnly_pure _
  | duration => exact total_drawDuration
  | uri => exact total_drawHostname.bind fun _ => total_drawWord.bind fun _ => failsOnly_pure _
  | hostname => exact total_drawHostname
  | ipv4 => exact total_drawIpv4
  | ipv6 => exact total_drawIpv6
  | password => exact total_drawPassword (by decide)
  | byte => exact (total_drawBytes (by decide)).bind fun _ => failsOnly_pure _
  | binary => exact (total_drawBytes (by decide)).bind fun _ => failsOnly_pure _
  | jsonPointer =>
    refine (total_between32 (by decide)).bind fun count => ?_
    exact (total_drawWords count).bind fun _ => failsOnly_pure _
  | name =>
    exact (total_firstName locale).bind fun _ => (total_lastName locale).bind fun _ =>
      failsOnly_pure _
  | firstName => exact total_firstName locale
  | lastName => exact total_lastName locale
  | username => exact total_drawUsername locale
  | word => exact total_drawWord
  | sentence => exact total_drawSentence (by decide)
  | paragraph => exact total_drawParagraph
  | phone =>
    cases locale with
    | enUS => exact total_drawForm (Words.entries_size_pos _ _)
    | ptBR => exact total_drawForm (Words.entries_size_pos _ _)
  | city => exact total_drawCity locale
  | country => exact total_choose (Words.entries_size_pos _ _)
  | street => exact total_drawStreet locale
  | zip => exact total_drawForm (Words.entries_size_pos _ _)
  | company => exact total_drawCompany locale
  | color => exact total_draw64.bind fun _ => total_word.bind fun _ => failsOnly_pure _

/-- A text for a hint with a number of characters between two bounds that are in order. Only a password
has to be shorter than the largest length. -/
theorem failsOnly_sizedText (hint : Hint) {minLength maxLength : Nat} (h : minLength ≤ maxLength) :
    FailsOnly (sizedText locale hint minLength maxLength : Draw σ (Option String)) fun fault =>
      fault = .overflow ∧ maxSize ≤ maxLength := by
  unfold sizedText
  split
  · refine (total_size h).failsOnly.bind_of (yields_size minLength maxLength) fun length hlength => ?_
    rcases Nat.lt_or_ge length maxSize with hlt | hge
    · rw [sizeAfter_of_lt hlt, pure_bind]
      exact (total_drawPassword (Nat.lt_succ_self length)).failsOnly.bind fun _ => failsOnly_pure _
    · rw [sizeAfter_of_le hge]
      exact failsOnly_throw ⟨rfl, Nat.le_trans hge hlength.2⟩
  · refine Total.failsOnly ?_
    dsimp only
    split
    · exact failsOnly_pure _
    · rename_i hgroups
      refine (total_size (Nat.not_lt.mp hgroups)).bind fun groups => ?_
      exact (total_drawBytes (Nat.le_refl _)).bind fun _ => failsOnly_pure _
  · refine Total.failsOnly ?_
    dsimp only
    split
    · exact failsOnly_pure _
    · rename_i hbytes
      exact (total_drawBytes (Nat.not_lt.mp hbytes)).bind fun _ => failsOnly_pure _
  · exact (total_text locale _).failsOnly.bind fun _ => failsOnly_pure _

/-- A text of a chosen length fails only for a range of lengths that is empty or reaches the
greatest size. -/
theorem total_sizedText (hint : Hint) {minLength maxLength : Nat} (h : minLength ≤ maxLength)
    (hsize : maxLength < maxSize) :
    Total (sizedText locale hint minLength maxLength : Draw σ (Option String)) :=
  (failsOnly_sizedText locale hint h).mono fun _ hfails => Nat.not_lt.mpr hfails.2 hsize

end Provider.Bundled

/-! ### Sources of values -/

namespace Provider

variable {σ : Type}

/-- Some draw of a value fails in a certain way. -/
def Faults (provider : Provider σ) (fault : Fault) : Prop :=
  ∃ hint source, (provider.provide hint source).1 = .error fault

/-- Some draw of a value with a number of characters between two bounds fails in a certain way. -/
def FaultsWithin (provider : Provider σ) (minLength maxLength : Nat) (fault : Fault) : Prop :=
  ∃ hint source, (provider.provideWithin hint minLength maxLength source).1 = .error fault

/-- What can fail about a hint is what its provider fails with. -/
theorem failsOnly_provide (provider : Provider σ) (hint : String) :
    FailsOnly (provider.provide hint) provider.Faults :=
  fun source _ h => ⟨hint, source, h⟩

/-- As `failsOnly_provide`, for a chosen length. -/
theorem failsOnly_provideWithin (provider : Provider σ) (hint : String)
    (minLength maxLength : Nat) :
    FailsOnly (provider.provideWithin hint minLength maxLength)
      (provider.FaultsWithin minLength maxLength) :=
  fun source _ h => ⟨hint, source, h⟩

variable [Source σ] {fault : Fault}

/-- A table of values never fails. -/
theorem total_provide_ofTable (table : List (String × List Json)) (hint : String) :
    Total ((ofTable table : Provider σ).provide hint) := by
  unfold ofTable
  dsimp only
  split
  · exact failsOnly_pure _
  · exact failsOnly_pure _
  · exact total_draw32.bind fun _ => failsOnly_pure _

/-- Listed values are given out whatever is drawn. -/
theorem not_faults_ofTable (table : List (String × List Json)) :
    ¬(ofTable table : Provider σ).Faults fault :=
  fun ⟨hint, source, h⟩ => total_provide_ofTable table hint source fault h

theorem not_faultsWithin_ofTable (table : List (String × List Json)) (minLength maxLength : Nat) :
    ¬(ofTable table : Provider σ).FaultsWithin minLength maxLength fault :=
  fun ⟨hint, source, h⟩ => total_provide_ofTable table hint source fault h

/-- Without a length asked for, the bundled provider has no fault of its own. -/
theorem not_faults_bundled (locale : Locale) : ¬(bundled locale : Provider σ).Faults fault := by
  rintro ⟨hint, source, h⟩
  have htotal : Total ((bundled locale : Provider σ).provide hint) := by
    unfold bundled
    dsimp only
    split
    · exact (Bundled.total_text locale _).bind fun _ => failsOnly_pure _
    · exact failsOnly_pure _
  exact htotal source fault h

/-- No realistic text is missing unless the largest length may be asked for. -/
theorem overflow_of_faultsWithin_bundled {locale : Locale} {minLength maxLength : Nat}
    (h : (bundled locale : Provider σ).FaultsWithin minLength maxLength fault) :
    fault = .overflow ∧ maxSize ≤ maxLength := by
  obtain ⟨hint, source, h⟩ := h
  have hfails : FailsOnly ((bundled locale : Provider σ).provideWithin hint minLength maxLength)
      fun fault => fault = .overflow ∧ maxSize ≤ maxLength := by
    unfold bundled
    dsimp only
    split
    · split
      · exact failsOnly_pure _
      · rename_i hlengths
        exact (Bundled.failsOnly_sizedText locale _ (Nat.not_lt.mp hlengths)).bind
          fun _ => failsOnly_pure _
    · exact failsOnly_pure _
  exact hfails source fault h

end Provider

end Specimen
