import Specimen.Proofs.Pattern.Class

/-!
# Specimen.Proofs.Pattern.Reader

An item of an expression is read alike off a text and off the text without its anchors and word
boundaries (`Regex.item?_thinned`), as long as blanks count.

A reader passes over signs that are left out nowhere, so it comes to the same place in both texts;
classes are the only items that depend on whether a place is in a class. What follows an item
matters in one case only, where a question mark makes a repetition lazy, and nothing is left out
before one.
-/

namespace Specimen.Pattern.Regex

variable {lexicon : Lexicon} {inClass : Bool} {c d : Char} {text thin rest : List Char}
variable {flags : Flags} (hf : flags.ignoreBlanks = false)

include hf

/-! ### Groups -/

omit hf in
theorem not_isNameChar {first : Bool} (hc : c ∈ ['\\', '^', '$']) :
    isNameChar lexicon first c = false := by
  simp only [List.mem_cons, List.not_mem_nil, or_false] at hc
  rcases hc with rfl | rfl | rfl <;> cases first <;> rfl

omit hf in
/-- The name of a group is read alike. -/
theorem groupName?_thinned {name : List Char} (h : Thinned inClass text thin)
    (hread : groupName? lexicon text = some (name, rest)) :
    ∃ behind more, groupName? lexicon thin = some (name, more) ∧ Thinned behind rest more := by
  unfold groupName? at hread ⊢
  split at hread
  · rename_i c cs tail htake hdrop
    split at hread
    · rename_i hfirst
      cases hread
      obtain ⟨behind, more, hname, hthin, hmore⟩ :=
        h.dropWhile_bracket (fun c hc hmem => by rw [not_isNameChar hmem] at hc; cases hc)
          (by decide) hdrop
      refine ⟨behind, more, ?_, hmore⟩
      rw [hname, htake, hthin]
      simp only [hfirst, if_true]
    · cases hread
  · cases hread

omit hf in
/-- Letters of switches are read alike. -/
theorem flagLetters?_thinned {seen : List Char} {negated : Bool} {last : Option Char}
    {letters : List (Char × Bool)} {closing : Char} (h : Thinned inClass text thin)
    (hread : flagLetters? seen negated last text = some (letters, closing, rest)) :
    ∃ more, flagLetters? seen negated last thin = some (letters, closing, more) ∧
      Thinned inClass rest more := by
  induction text generalizing seen negated last letters thin with
  | nil => cases hread
  | cons c text ih =>
    rw [flagLetters?] at hread
    split at hread
    · rename_i hclosing
      split at hread
      · cases hread
      · rename_i hlast
        cases hread
        have hplain : IsPlain closing := by rcases hclosing with rfl | rfl <;> decide
        obtain ⟨more, rfl, hmore⟩ := h.cons hplain
        refine ⟨more, ?_, hmore⟩
        rw [flagLetters?, if_pos hclosing, if_neg hlast]
    · rename_i hclosing
      split at hread
      · rename_i hhyphen
        split at hread
        · cases hread
        · rename_i hnegated
          subst hhyphen
          obtain ⟨more, rfl, hmore⟩ := h.cons (by decide)
          obtain ⟨tail, htail, hrest⟩ := ih hmore hread
          refine ⟨tail, ?_, hrest⟩
          rw [flagLetters?, if_neg hclosing, if_pos rfl, if_neg hnegated, htail]
      · rename_i hhyphen
        split at hread
        · rename_i hletter
          obtain ⟨⟨others, close, behind⟩, hothers, hread⟩ := Option.bind_eq_some_iff.mp hread
          cases hread
          have hplain : IsPlain c := isPlain_of_accepts (by decide) hletter.1
          obtain ⟨more, rfl, hmore⟩ := h.cons hplain
          obtain ⟨tail, htail, hrest⟩ := ih hmore hothers
          refine ⟨tail, ?_, hrest⟩
          rw [flagLetters?, if_neg hclosing, if_neg hhyphen, if_pos hletter, htail]
          rfl
        · cases hread

omit hf in
theorem namedGroup?_thinned {head : GroupHead} (h : Thinned inClass text thin)
    (hread : namedGroup? lexicon text = some (head, rest)) :
    ∃ behind more, namedGroup? lexicon thin = some (head, more) ∧ Thinned behind rest more := by
  obtain ⟨⟨name, tail⟩, hname, hread⟩ := Option.bind_eq_some_iff.mp hread
  cases hread
  obtain ⟨behind, more, hthin, hmore⟩ := groupName?_thinned h hname
  refine ⟨behind, more, ?_, hmore⟩
  rw [namedGroup?, hthin]
  rfl

omit hf in
theorem switchedGroup?_thinned {head : GroupHead} (h : Thinned inClass text thin)
    (hread : switchedGroup? text = some (head, rest)) :
    ∃ more, switchedGroup? thin = some (head, more) ∧ Thinned inClass rest more := by
  obtain ⟨⟨letters, closing, tail⟩, hletters, hread⟩ := Option.bind_eq_some_iff.mp hread
  obtain ⟨more, hthin, hmore⟩ := flagLetters?_thinned h hletters
  dsimp only at hread
  split at hread
  · rename_i hclosing
    cases hread
    refine ⟨more, ?_, hmore⟩
    simp only [switchedGroup?, hthin, Option.bind_eq_bind, Option.bind_some, if_pos hclosing]
    rfl
  · rename_i hclosing
    split at hread
    · cases hread
    · rename_i hempty
      cases hread
      refine ⟨more, ?_, hmore⟩
      simp only [switchedGroup?, hthin, Option.bind_eq_bind, Option.bind_some, if_neg hclosing]
      rw [if_neg hempty]
      rfl

omit hf in
/-- A group is opened alike: its opening is dropped in neither text. -/
theorem groupHead?_thinned {head : GroupHead} (h : Thinned inClass text thin)
    (hread : groupHead? lexicon text = some (head, rest)) :
    ∃ behind more, groupHead? lexicon thin = some (head, more) ∧ Thinned behind rest more := by
  unfold groupHead? at hread
  split at hread
  · obtain ⟨tail, rfl, htail⟩ := h.cons (by decide)
    obtain ⟨more, rfl, hmore⟩ := htail.cons (by decide)
    obtain ⟨name, rfl, hname⟩ := hmore.cons (by decide)
    exact namedGroup?_thinned hname hread
  · obtain ⟨tail, rfl, htail⟩ := h.cons (by decide)
    obtain ⟨name, rfl, hname⟩ := htail.cons (by decide)
    exact namedGroup?_thinned hname hread
  · obtain ⟨tail, rfl, htail⟩ := h.cons (by decide)
    obtain ⟨more, hthin, hmore⟩ := switchedGroup?_thinned htail hread
    refine ⟨inClass, more, ?_, hmore⟩
    unfold groupHead?
    split
    · rename_i heq
      cases heq
      cases hthin
    · rename_i heq
      cases heq
      cases hthin
    · rename_i heq
      cases heq
      exact hthin
    · rename_i hquestion
      exact absurd rfl (hquestion tail)
  · rename_i hquestion
    cases hread
    have hne (tail : List Char) : thin ≠ '?' :: tail := by
      rintro rfl
      obtain ⟨more, rfl, -⟩ := h.of_isQuantifier (by decide)
      exact hquestion more rfl
    refine ⟨inClass, thin, ?_, h⟩
    unfold groupHead?
    split
    · exact absurd rfl (hne _)
    · exact absurd rfl (hne _)
    · exact absurd rfl (hne _)
    · rfl

/-! ### Repetitions -/

theorem count?_eq (text : List Char) :
    count? flags text =
      if (text.dropWhile isBlank).takeWhile Char.isDigit = [] ∨
          2 ^ 32 ≤ Numeral.ofDigits ((text.dropWhile isBlank).takeWhile Char.isDigit) then none
      else some (Numeral.ofDigits ((text.dropWhile isBlank).takeWhile Char.isDigit),
        ((text.dropWhile isBlank).dropWhile Char.isDigit).dropWhile isBlank) := by
  have hlength : (text.dropWhile isBlank).length ≤ text.length :=
    (List.dropWhile_sublist isBlank).length_le
  simp only [count?, takeSkipping_eq hf _ hlength, skip_eq hf]

omit hf in
theorem exists_cons_of_takeWhile {p : Char → Bool} (h : text.takeWhile p ≠ []) :
    ∃ c tail, text = c :: tail ∧ p c := by
  cases text with
  | nil => exact absurd rfl h
  | cons c tail =>
    refine ⟨c, tail, rfl, Decidable.byContradiction fun hc => ?_⟩
    exact h (List.takeWhile_cons_of_neg hc)

omit hf in
theorem exists_cons_of_dropWhile {p : Char → Bool} (hp : ∀ c, p c → IsPlain c) (hd : IsPlain d)
    (h : text.dropWhile p = d :: rest) : ∃ c tail, text = c :: tail ∧ IsPlain c := by
  cases text with
  | nil => cases h
  | cons c tail =>
    refine ⟨c, tail, rfl, ?_⟩
    by_cases hc : p c
    · exact hp c hc
    · rw [List.dropWhile_cons_of_neg hc] at h
      cases h
      exact hd

/-- A count is read alike, with what closes it. -/
theorem count?_thinned {count : Nat} (hd : IsPlain d) (h : Thinned inClass text thin)
    (hread : count? flags text = some (count, d :: rest)) :
    ∃ more, count? flags thin = some (count, d :: more) ∧ Thinned inClass rest more := by
  rw [count?_eq hf] at hread ⊢
  split at hread
  · cases hread
  · rename_i hcount
    obtain ⟨rfl, hbehind⟩ := Prod.mk.inj (Option.some.inj hread)
    -- Behind the blanks stands a digit, and behind the digits a blank or `d`.
    obtain ⟨hdigits, hmiddle⟩ : ((thin.dropWhile isBlank).takeWhile Char.isDigit =
          (text.dropWhile isBlank).takeWhile Char.isDigit) ∧
        Thinned inClass ((text.dropWhile isBlank).dropWhile Char.isDigit)
          ((thin.dropWhile isBlank).dropWhile Char.isDigit) := by
      obtain ⟨first, digits, hfirst, hdigit⟩ := exists_cons_of_takeWhile (not_or.mp hcount).1
      obtain ⟨next, behind, hnext, hplain⟩ :=
        exists_cons_of_dropWhile (fun _ => isPlain_of_isBlank) hd hbehind
      obtain ⟨-, hstart⟩ :=
        h.dropWhile (fun _ => isPlain_of_isBlank) (isPlain_of_isDigit hdigit) hfirst
      rw [← hfirst] at hstart
      have hend := hstart.dropWhile (fun _ => isPlain_of_isDigit) hplain hnext
      rwa [← hnext] at hend
    obtain ⟨-, hrest⟩ := hmiddle.dropWhile (fun _ => isPlain_of_isBlank) hd hbehind
    obtain ⟨more, hthin, hmore⟩ := hrest.cons hd
    rw [hdigits, if_neg hcount, hthin]
    exact ⟨more, rfl, hmore⟩

/-- The closing brace begins no number. -/
theorem count?_brace (text : List Char) : count? flags ('\x7d' :: text) = none := by
  have hblank : isBlank '\x7d' = false := not_contains_ofRanges (by decide)
  rw [count?_eq hf, List.dropWhile_cons_of_neg (Bool.eq_false_iff.mp hblank),
    List.takeWhile_cons_of_neg (by decide), if_pos (.inl rfl)]

theorem upperBound?_thinned {min : Nat} {max : Option Nat} (h : Thinned inClass text thin)
    (hread : upperBound? flags min text = some (max, rest)) :
    ∃ more, upperBound? flags min thin = some (max, more) ∧ Thinned inClass rest more := by
  unfold upperBound? at hread ⊢
  rw [skip_eq hf] at hread ⊢
  split at hread
  · cases hread
    obtain ⟨more, rfl, hmore⟩ := h.cons (by decide)
    exact ⟨more, rfl, hmore⟩
  · split at hread
    · rename_i hcount
      split at hread
      · rename_i hle
        cases hread
        obtain ⟨more, hthin, hmore⟩ := count?_thinned hf (by decide) h hcount
        refine ⟨more, ?_, hmore⟩
        split
        · rw [count?_brace hf] at hthin
          cases hthin
        · rw [hthin]
          simp only [hle, if_true]
      · cases hread
    · cases hread

/-- A range of counts is read alike. -/
theorem bounds?_thinned {min : Nat} {max : Option Nat} (h : Thinned inClass text thin)
    (hread : bounds? flags text = some (min, max, rest)) :
    ∃ more, bounds? flags thin = some (min, max, more) ∧ Thinned inClass rest more := by
  unfold bounds? at hread ⊢
  rw [skip_eq hf] at hread ⊢
  split at hread
  · rename_i hcount
    cases hread
    obtain ⟨more, hthin, hmore⟩ := count?_thinned hf (by decide) h hcount
    rw [hthin]
    exact ⟨more, rfl, hmore⟩
  · rename_i hcount
    obtain ⟨⟨upper, tail⟩, hupper, hread⟩ := Option.bind_eq_some_iff.mp hread
    cases hread
    obtain ⟨behind, hthin, hbehind⟩ := count?_thinned hf (by decide) h hcount
    obtain ⟨more, hmax, hmore⟩ := upperBound?_thinned hf hbehind hupper
    rw [hthin]
    simp only [hmax]
    exact ⟨more, rfl, hmore⟩
  · cases hread

/-! ### Items -/

omit hf in
/-- Nothing is left out before the question mark that makes a repetition lazy. -/
theorem quantifier_thinned {min : Nat} {max : Option Nat} (h : Thinned inClass text thin) :
    ∃ more, quantifier min max thin = ((quantifier min max text).1, more) ∧
      Thinned inClass (quantifier min max text).2 more := by
  have hgreedy {text : List Char} (hne : ∀ tail, text ≠ '?' :: tail) :
      quantifier min max text = (.quantifier min max true, text) := by
    unfold quantifier
    split
    · exact absurd rfl (hne _)
    · rfl
  by_cases hlazy : ∃ tail, text = '?' :: tail
  · obtain ⟨tail, rfl⟩ := hlazy
    obtain ⟨more, rfl, hmore⟩ := h.cons (by decide)
    exact ⟨more, rfl, hmore⟩
  · have hne (tail : List Char) : thin ≠ '?' :: tail := by
      rintro rfl
      obtain ⟨more, htext, -⟩ := h.of_isQuantifier (by decide)
      exact hlazy ⟨more, htext⟩
    rw [hgreedy hne, hgreedy fun tail htext => hlazy ⟨tail, htext⟩]
    exact ⟨thin, rfl, h⟩

/-- An item that begins with none of the signs of the dialect is read alike. -/
theorem item?_cons_thinned {item : Item} (hc : c ∉ ['\\', '[', ']'])
    (h : Thinned inClass text thin) (hread : item? lexicon flags (c :: text) = some (item, rest)) :
    ∃ behind more, item? lexicon flags (c :: thin) = some (item, more) ∧
      Thinned behind rest more := by
  have hquantifier (min : Nat) (max : Option Nat)
      (hread : some (quantifier min max text) = some (item, rest)) :
      ∃ behind more, some (quantifier min max thin) = some (item, more) ∧
        Thinned behind rest more := by
    obtain ⟨more, hthin, hmore⟩ := @quantifier_thinned inClass text thin min max h
    rw [Option.some.inj hread] at hthin hmore
    exact ⟨inClass, more, congrArg some hthin, hmore⟩
  unfold item? at hread
  split at hread
  all_goals
    rename_i heq
    cases heq
  · rw [skip_eq hf] at hread
    obtain ⟨⟨head, tail⟩, hhead, hread⟩ := Option.bind_eq_some_iff.mp hread
    cases hread
    obtain ⟨behind, more, hthin, hmore⟩ := groupHead?_thinned h hhead
    refine ⟨behind, more, ?_, hmore⟩
    rw [item?, skip_eq hf, hthin]
    rfl
  · cases hread
    exact ⟨inClass, thin, rfl, h⟩
  · cases hread
    exact ⟨inClass, thin, rfl, h⟩
  · exact absurd (by decide) hc
  · exact hquantifier 0 (some 1) hread
  · exact hquantifier 0 none hread
  · exact hquantifier 1 none hread
  · obtain ⟨⟨min, max, tail⟩, hbounds, hread⟩ := Option.bind_eq_some_iff.mp hread
    obtain ⟨behind, hthin, hbehind⟩ := bounds?_thinned hf h hbounds
    dsimp only at hread
    rw [skip_eq hf] at hread
    obtain ⟨more, hsame, hmore⟩ := @quantifier_thinned inClass tail behind min max hbehind
    rw [Option.some.inj hread] at hsame hmore
    refine ⟨inClass, more, ?_, hmore⟩
    rw [item?, hthin]
    simp only [Option.bind_eq_bind, Option.bind_some, skip_eq hf, hsame]
    rfl
  · exact absurd (by decide) hc
  · cases hread
    exact ⟨inClass, thin, rfl, h⟩
  · cases hread
    exact ⟨inClass, thin, rfl, h⟩
  · cases hread
    exact ⟨inClass, thin, rfl, h⟩
  · cases hread
    refine ⟨inClass, thin, ?_, h⟩
    rw [item?]
    all_goals assumption

/-- An item that stands for an anchor or a word boundary. -/
def Item.IsAnchor : Item → Prop
  | .start | .stop | .escape (.anchor _) => True
  | _ => False

/-- A class is read alike. -/
theorem item?_class_thinned {item other : Item} {more : List Char}
    (h : Thinned inClass ('[' :: text) ('[' :: thin))
    (hread : item? lexicon flags ('[' :: text) = some (item, rest))
    (hother : item? lexicon flags ('[' :: thin) = some (other, more)) :
    other = item ∧ ∃ behind, Thinned behind rest more := by
  rw [item?] at hread hother
  obtain ⟨⟨chars, tail⟩, hchars, hread⟩ := Option.bind_eq_some_iff.mp hread
  cases hread
  obtain ⟨⟨chars', tail⟩, hchars', hother⟩ := Option.bind_eq_some_iff.mp hother
  cases hother
  obtain ⟨rfl, hmore⟩ := class?_thinned hf h hchars hchars'
  exact ⟨rfl, false, hmore⟩

/-- An escape that is not dropped is read alike. -/
theorem item?_escape_thinned {item : Item} (hc : inClass = false → isBoundary c = false)
    (h : Thinned inClass text thin)
    (hread : item? lexicon flags ('\\' :: c :: text) = some (item, rest)) :
    ∃ more, item? lexicon flags ('\\' :: c :: thin) = some (item, more) ∧
      Thinned inClass rest more := by
  rw [item?] at hread
  obtain ⟨⟨escape, tail⟩, hescape, hread⟩ := Option.bind_eq_some_iff.mp hread
  cases hread
  have hclass : c = 'b' → inClass = true := by
    rintro rfl
    cases inClass with
    | true => rfl
    | false => exact absurd (hc rfl) (by decide)
  obtain ⟨more, hthin, hmore⟩ := escape?_thinned hf hclass h hescape
  refine ⟨more, ?_, hmore⟩
  rw [item?, hthin]
  rfl

omit hf in
/-- A boundary of words that nothing is behind to make it a repetition is an anchor. -/
theorem item?_boundary (hc : isBoundary c) (hq : startsQuantified text = false) :
    ∃ condition,
      item? lexicon flags ('\\' :: c :: text) = some (.escape (.anchor condition), text) := by
  rcases Bool.or_eq_true_iff.mp hc with hb | hb
  · obtain rfl := beq_iff_eq.mp hb
    refine ⟨.wordBoundary (flags.words lexicon), ?_⟩
    rw [item?, escape?, boundary?_of_startsQuantified hq]
    rfl
  · obtain rfl := beq_iff_eq.mp hb
    exact ⟨.notWordBoundary (flags.words lexicon), rfl⟩

/-- An item is left out, or it is read off both texts. -/
theorem item?_thinned {item : Item} (h : Thinned inClass text thin)
    (hread : item? lexicon flags text = some (item, rest)) :
    (item.IsAnchor ∧ startsQuantified rest = false ∧ Thinned false rest thin) ∨
      (thin ≠ [] ∧ ∀ other more, item? lexicon flags thin = some (other, more) →
        other = item ∧ ∃ behind, Thinned behind rest more) := by
  have hkept {thin : List Char}
      (hthin : ∃ behind more, item? lexicon flags thin = some (item, more) ∧
        Thinned behind rest more) :
      thin ≠ [] ∧ ∀ other more, item? lexicon flags thin = some (other, more) →
        other = item ∧ ∃ behind, Thinned behind rest more := by
    obtain ⟨behind, tail, hthin, htail⟩ := hthin
    refine ⟨?_, fun other more hother => ?_⟩
    · rintro rfl
      cases hthin
    · rw [hthin] at hother
      cases hother
      exact ⟨rfl, behind, htail⟩
  cases h with
  | nil => cases hread
  | escape hc h => exact .inr (hkept ⟨inClass, item?_escape_thinned hf hc h hread⟩)
  | char hc he h => exact .inr (hkept (item?_cons_thinned hf hc h hread))
  | close h =>
    have hitem (tail : List Char) : item? lexicon flags (']' :: tail) = some (.char ']', tail) := rfl
    rw [hitem] at hread
    cases hread
    exact .inr (hkept ⟨false, _, hitem _, h⟩)
  | openClass hc h =>
    refine .inr ⟨List.cons_ne_nil _ _, fun other more hother => ?_⟩
    exact item?_class_thinned hf (.openClass hc h) hread hother
  | openNegated hc h =>
    refine .inr ⟨List.cons_ne_nil _ _, fun other more hother => ?_⟩
    exact item?_class_thinned hf (.openNegated hc h) hread hother
  | edge hc hq h =>
    rcases isEdge_iff.mp hc with rfl | rfl
    · cases hread
      exact .inl ⟨trivial, hq, h⟩
    · cases hread
      exact .inl ⟨trivial, hq, h⟩
  | boundary hc hq h =>
    obtain ⟨condition, hitem⟩ := item?_boundary hc hq
    rw [hitem] at hread
    cases hread
    exact .inl ⟨trivial, hq, h⟩

end Specimen.Pattern.Regex
