import Specimen.Proofs.Pattern.Thinned

/-!
# Specimen.Proofs.Pattern.Class

Escapes and classes are read alike off a text and off the text without its anchors and word
boundaries, as long as blanks count.

In a class nothing is left out. The reading of a class has to end where the translation takes it to
end: no closing bracket is at its start (`leadingSigns_eq`), and none is behind an item
(`classRange?_thinned`), so the first one that counts closes it (`class?_thinned`).
-/

namespace Specimen.Pattern.Regex

variable {lexicon : Lexicon} {inClass : Bool} {c : Char} {text thin rest : List Char}
variable {flags : Flags} (hf : flags.ignoreBlanks = false)

include hf

/-! ### Blanks -/

theorem skip_eq (text : List Char) : skip flags text = text := by
  rw [skip, hf, if_neg Bool.false_ne_true]

/-- Where blanks count, the characters that meet a condition are those in front. -/
theorem takeSkipping_eq (accepts : Char → Bool) {rounds : Nat} (h : text.length ≤ rounds) :
    takeSkipping flags accepts rounds text = (text.takeWhile accepts, text.dropWhile accepts) := by
  induction rounds generalizing text with
  | zero =>
    obtain rfl := List.length_eq_zero_iff.mp (Nat.le_zero.mp h)
    rfl
  | succ rounds ih =>
    cases text with
    | nil => rfl
    | cons c rest =>
      rw [takeSkipping, skip_eq hf, ih (Nat.le_of_succ_le_succ h)]
      cases hc : accepts c with
      | true =>
        rw [if_pos rfl, List.takeWhile_cons_of_pos hc, List.dropWhile_cons_of_pos hc]
      | false =>
        rw [if_neg Bool.false_ne_true, List.takeWhile_cons_of_neg (Bool.eq_false_iff.mp hc),
          List.dropWhile_cons_of_neg (Bool.eq_false_iff.mp hc)]

/-! ### Escapes -/

/-- One digit in braces, or the closing brace. -/
theorem bracedHex_cons (code : Option Nat) (fuel : Nat) (c : Char) (rest : List Char) :
    bracedHex flags code (fuel + 1) (c :: rest) =
      if c = '\x7d' then code.map fun code => (code, rest)
      else (Numeral.hexValue? c).bind fun digit =>
        if 16 * code.getD 0 + digit < 2 ^ 32 then
          bracedHex flags (some (16 * code.getD 0 + digit)) fuel rest
        else none := by
  rw [bracedHex, skip_eq hf]
  split
  · rename_i heq
    cases heq
    rw [if_pos rfl, skip_eq hf]
    cases code <;> rfl
  · rename_i heq
    cases heq
    rename_i hne
    rw [if_neg hne]
    rfl
  · rename_i heq
    cases heq

/-- A code point in braces has no anchors in it, so both texts have the same one. -/
theorem bracedHex_thinned {code : Option Nat} {value fuel enough : Nat}
    (h : Thinned inClass text thin) (hread : bracedHex flags code fuel text = some (value, rest))
    (hfuel : thin.length < enough) :
    ∃ more, bracedHex flags code enough thin = some (value, more) ∧ Thinned inClass rest more := by
  induction fuel generalizing code text thin enough with
  | zero => cases hread
  | succ fuel ih =>
    obtain ⟨enough, rfl⟩ := Nat.exists_eq_succ_of_ne_zero (Nat.ne_zero_of_lt hfuel)
    cases text with
    | nil =>
      rw [bracedHex, skip_eq hf] at hread
      cases hread
    | cons c tail =>
      rw [bracedHex_cons hf] at hread
      split at hread
      · rename_i hc
        subst hc
        obtain ⟨more, rfl, hmore⟩ := h.cons (by decide)
        obtain ⟨code, rfl, hread⟩ := Option.map_eq_some_iff.mp hread
        cases hread
        refine ⟨more, ?_, hmore⟩
        rw [bracedHex_cons hf, if_pos rfl]
        rfl
      · rename_i hc
        obtain ⟨digit, hdigit, hread⟩ := Option.bind_eq_some_iff.mp hread
        obtain ⟨more, rfl, hmore⟩ := h.cons (isPlain_of_hexValue? (Option.isSome_of_eq_some hdigit))
        split at hread
        · rename_i hvalue
          obtain ⟨tail, hthin, htail⟩ := ih hmore hread (Nat.lt_of_succ_lt_succ hfuel)
          refine ⟨tail, ?_, htail⟩
          rw [bracedHex_cons hf, if_neg hc, hdigit, Option.bind_some, if_pos hvalue, hthin]
        · cases hread

/-- Digits are not anchors. -/
theorem fixedHex_thinned {code value count : Nat} (h : Thinned inClass text thin)
    (hread : fixedHex flags code count text = some (value, rest)) :
    ∃ more, fixedHex flags code count thin = some (value, more) ∧ Thinned inClass rest more := by
  induction count generalizing code text thin with
  | zero =>
    cases hread
    exact ⟨thin, rfl, h⟩
  | succ count ih =>
    cases text with
    | nil => cases hread
    | cons c tail =>
      rw [fixedHex] at hread
      obtain ⟨digit, hdigit, hread⟩ := Option.bind_eq_some_iff.mp hread
      obtain ⟨more, rfl, hmore⟩ := h.cons (isPlain_of_hexValue? (Option.isSome_of_eq_some hdigit))
      rw [skip_eq hf] at hread
      obtain ⟨tail, hthin, htail⟩ := ih hmore hread
      refine ⟨tail, ?_, htail⟩
      rw [fixedHex, skip_eq hf, hdigit]
      exact hthin

/-- Both forms of a code point are read alike. -/
theorem hexCode?_thinned {digits code : Nat} (h : Thinned inClass text thin)
    (hread : hexCode? flags digits text = some (code, rest)) :
    ∃ more, hexCode? flags digits thin = some (code, more) ∧ Thinned inClass rest more := by
  unfold hexCode? at hread ⊢
  rw [skip_eq hf] at hread ⊢
  split at hread
  · obtain ⟨more, rfl, hmore⟩ := h.cons (by decide)
    exact bracedHex_thinned hf hmore hread (Nat.lt_succ_self _)
  · rename_i hne
    split
    · obtain ⟨tail, htext, -⟩ := h.of_isQuantifier (by decide)
      exact absurd htext (hne tail)
    · obtain ⟨⟨value, behind⟩, hvalue, hread⟩ := Option.bind_eq_some_iff.mp hread
      obtain ⟨more, hthin, hmore⟩ := fixedHex_thinned hf h hvalue
      rw [hthin]
      dsimp only [bind, Option.bind] at hread ⊢
      split at hread
      · cases hread
      · rename_i hbyte
        cases hread
        rw [if_neg hbyte]
        exact ⟨more, rfl, hmore⟩

theorem hexEscape_thinned {digits : Nat} {escape : Escape} (h : Thinned inClass text thin)
    (hread : hexEscape flags digits text = some (escape, rest)) :
    ∃ more, hexEscape flags digits thin = some (escape, more) ∧ Thinned inClass rest more := by
  obtain ⟨⟨code, behind⟩, hcode, hread⟩ := Option.bind_eq_some_iff.mp hread
  obtain ⟨c, hc, hread⟩ := Option.bind_eq_some_iff.mp hread
  cases hread
  obtain ⟨more, hthin, hmore⟩ := hexCode?_thinned hf h hcode
  refine ⟨more, ?_, hmore⟩
  rw [hexEscape, hthin]
  dsimp only [bind, Option.bind]
  rw [hc]
  rfl

/-- In a class the escape of a word boundary is kept; its name is read alike, too. -/
theorem boundary?_thinned {condition : Anchor} (h : Thinned true text thin)
    (hread : boundary? lexicon flags text = some (condition, rest)) :
    ∃ more, boundary? lexicon flags thin = some (condition, more) ∧ Thinned true rest more := by
  unfold boundary? at hread ⊢
  split at hread
  · rw [skip_eq hf] at hread
    obtain ⟨behind, rfl, hbehind⟩ := h.cons (by decide)
    split at hread
    · cases hread
    · rename_i c tail
      obtain ⟨more, rfl⟩ := List.head?_eq_some_iff.mp (hbehind.head?.trans List.head?_cons)
      simp only [skip_eq hf]
      split at hread
      · rename_i hc
        have hname (tail : List Char) :
            takeSkipping flags isBoundaryChar (tail.length + 1) (c :: tail) =
              ((c :: tail).takeWhile isBoundaryChar, (c :: tail).dropWhile isBoundaryChar) :=
          takeSkipping_eq hf isBoundaryChar (Nat.le_refl _)
        rw [hname] at hread
        rw [if_pos hc, hname]
        split at hread
        · rename_i name tail heq
          obtain ⟨rfl, hdrop⟩ := Prod.mk.inj heq
          obtain ⟨htake, hrest⟩ :=
            hbehind.dropWhile (fun _ => isPlain_of_isBoundaryChar) (by decide) hdrop
          obtain ⟨tail, hthin, htail⟩ := hrest.cons (by decide)
          obtain ⟨condition, hcondition, hread⟩ := Option.bind_eq_some_iff.mp hread
          cases hread
          simp only [htake, hthin, hcondition]
          exact ⟨tail, rfl, htail⟩
        · cases hread
      · rename_i hc
        cases hread
        rw [if_neg hc]
        exact ⟨_, rfl, h⟩
  · rename_i hne
    cases hread
    split
    · obtain ⟨tail, htext, -⟩ := h.of_isQuantifier (by decide)
      exact absurd htext (hne tail)
    · exact ⟨thin, rfl, h⟩

omit hf in
/-- Without a brace, an escaped `b` is the boundary of words. -/
theorem boundary?_of_startsQuantified (h : startsQuantified text = false) :
    boundary? lexicon flags text = some (.wordBoundary (flags.words lexicon), text) := by
  unfold boundary?
  split
  · cases h
  · rfl

omit hf in
/-- The name of a property has no sign that is dropped. -/
theorem isPlain_of_property? {negated : Bool} {name : List Char} {chars : CharSet}
    (h : property? lexicon flags negated name = some chars) : ∀ c ∈ name, IsPlain c := by
  unfold property? at h
  split at h
  · exact lexicon.plain_of_property? h
  · cases h

/-- A property is read alike, as its name has no anchors in it. -/
theorem propertyEscape_thinned {negated : Bool} {escape : Escape} (h : Thinned inClass text thin)
    (hread : propertyEscape lexicon flags negated text = some (escape, rest)) :
    ∃ more, propertyEscape lexicon flags negated thin = some (escape, more) ∧
      Thinned inClass rest more := by
  have hname (text : List Char) :
      takeSkipping flags (· != '\x7d') text.length text =
        (text.takeWhile (· != '\x7d'), text.dropWhile (· != '\x7d')) :=
    takeSkipping_eq hf _ (Nat.le_refl _)
  unfold propertyEscape at hread ⊢
  rw [skip_eq hf] at hread ⊢
  split at hread
  · obtain ⟨behind, rfl, hbehind⟩ := h.cons (by decide)
    rw [skip_eq hf, hname] at hread
    split at hread
    · rename_i name tail heq
      obtain ⟨rfl, hdrop⟩ := Prod.mk.inj heq
      obtain ⟨chars, hchars, hread⟩ := Option.bind_eq_some_iff.mp hread
      cases hread
      obtain ⟨htake, hrest⟩ :=
        hbehind.dropWhile_of_takeWhile (isPlain_of_property? hchars) (by decide) hdrop
      obtain ⟨more, hthin, hmore⟩ := hrest.cons (by decide)
      refine ⟨more, ?_, hmore⟩
      simp only [skip_eq hf, hname, htake, hthin, hchars]
      rfl
    · cases hread
  · rename_i c tail hbrace
    obtain ⟨chars, hchars, hread⟩ := Option.bind_eq_some_iff.mp hread
    cases hread
    obtain ⟨more, rfl, hmore⟩ := h.cons (isPlain_of_property? hchars c List.mem_cons_self)
    refine ⟨more, ?_, (skip_eq hf tail).symm ▸ hmore⟩
    split
    · rename_i heq
      cases heq
      exact (hbrace rfl).elim
    · rename_i heq
      cases heq
      rw [hchars, skip_eq hf]
      rfl
    · rename_i heq
      cases heq
  · cases hread

/-- An escape is read alike, except for the boundary of words outside classes, which is dropped. -/
theorem escape?_thinned {escape : Escape} (hc : c = 'b' → inClass = true)
    (h : Thinned inClass text thin)
    (hread : escape? lexicon flags (c :: text) = some (escape, rest)) :
    ∃ more, escape? lexicon flags (c :: thin) = some (escape, more) ∧ Thinned inClass rest more := by
  unfold escape? at hread
  split at hread
  · cases hread
  · rename_i heq
    cases heq
    exact hexEscape_thinned hf h hread
  · rename_i heq
    cases heq
    exact hexEscape_thinned hf h hread
  · rename_i heq
    cases heq
    exact hexEscape_thinned hf h hread
  · rename_i heq
    cases heq
    obtain rfl := hc rfl
    obtain ⟨⟨condition, behind⟩, hcondition, hread⟩ := Option.bind_eq_some_iff.mp hread
    cases hread
    obtain ⟨more, hthin, hmore⟩ := boundary?_thinned hf h hcondition
    refine ⟨more, ?_, hmore⟩
    rw [escape?, hthin]
    rfl
  · rename_i heq
    cases heq
    exact propertyEscape_thinned hf h hread
  · rename_i heq
    cases heq
    exact propertyEscape_thinned hf h hread
  · rename_i heq
    cases heq
    obtain ⟨escape, hescape, hread⟩ := Option.bind_eq_some_iff.mp hread
    cases hread
    refine ⟨thin, ?_, h⟩
    rw [escape?, hescape]
    · rfl
    all_goals assumption

/-! ### Classes -/

/-- A member of a class is read alike. -/
theorem classItem?_thinned {item : Escape} (hclose : text.head? ≠ some ']')
    (h : Thinned true text thin) (hread : classItem? lexicon flags text = some (item, rest)) :
    ∃ more, classItem? lexicon flags thin = some (item, more) ∧ Thinned true rest more := by
  cases h with
  | nil => cases hread
  | escape _ h => exact escape?_thinned hf (fun _ => rfl) h hread
  | @char _ c text thin hc _ h =>
    have hplain (tail : List Char) :
        classItem? lexicon flags (c :: tail) = some (.char c, tail) := by
      rw [classItem?]
      rintro rfl
      exact hc List.mem_cons_self
    rw [hplain] at hread
    cases hread
    exact ⟨thin, hplain thin, h⟩
  | close => exact absurd rfl hclose

/-- A range of characters is read alike, with both of its ends. -/
theorem classRange?_thinned {chars : CharSet} (hclose : text.head? ≠ some ']')
    (h : Thinned true text thin) (hread : classRange? lexicon flags text = some (chars, rest)) :
    ∃ more, classRange? lexicon flags thin = some (chars, more) ∧ Thinned true rest more := by
  unfold classRange? at hread ⊢
  obtain ⟨⟨item, behind⟩, hitem, hread⟩ := Option.bind_eq_some_iff.mp hread
  obtain ⟨more, hthin, hmore⟩ := classItem?_thinned hf hclose h hitem
  simp only [skip_eq hf, hthin, Option.bind_eq_bind, Option.bind_some] at hread ⊢
  split at hread
  · cases hread
  · obtain ⟨tail, rfl, htail⟩ := hmore.cons (by decide)
    simp only [htail.head?]
    split at hread
    · rename_i hhyphen
      obtain ⟨chars, hchars, hread⟩ := Option.bind_eq_some_iff.mp hread
      cases hread
      rw [if_pos hhyphen, hchars]
      exact ⟨_, rfl, hmore⟩
    · rename_i hhyphen
      obtain ⟨⟨last, behind⟩, hlast, hread⟩ := Option.bind_eq_some_iff.mp hread
      obtain ⟨chars, hchars, hread⟩ := Option.bind_eq_some_iff.mp hread
      cases hread
      obtain ⟨more, hthin, hmore⟩ :=
        classItem?_thinned hf (fun hclose => hhyphen (.inl hclose)) htail hlast
      rw [if_neg hhyphen, hthin, Option.bind_some, hchars]
      exact ⟨more, rfl, hmore⟩
  · rename_i hnil hhyphen
    obtain ⟨chars, hchars, hread⟩ := Option.bind_eq_some_iff.mp hread
    cases hread
    split
    · exact absurd (List.head?_eq_none_iff.mp hmore.head?.symm) hnil
    · obtain ⟨tail, htail, -⟩ := hmore.of_cons (by decide)
      exact absurd htail (hhyphen tail)
    · rw [hchars]
      exact ⟨more, rfl, hmore⟩

omit hf in
/-- An operator between sets is found in both texts or in neither. -/
theorem setOperator?_thinned (h : Thinned true text thin) :
    (∀ operator rest, setOperator? text = some (operator, rest) →
      ∃ more, setOperator? thin = some (operator, more) ∧ Thinned true rest more) ∧
    (setOperator? text = none → setOperator? thin = none) := by
  constructor
  · intro operator rest hread
    unfold setOperator? at hread
    split at hread
    all_goals cases hread
    all_goals
      obtain ⟨tail, rfl, htail⟩ := h.cons (by decide)
      obtain ⟨more, rfl, hmore⟩ := htail.cons (by decide)
      exact ⟨more, rfl, hmore⟩
  · intro hnone
    unfold setOperator?
    split
    all_goals try rfl
    all_goals
      obtain ⟨tail, rfl, htail⟩ := h.of_cons (by decide)
      obtain ⟨more, rfl, -⟩ := htail.of_cons (by decide)
      cases hnone

/-- One step in a class: an operator, or a member that is added. -/
theorem classParts?_cons (pending : Pending) (chars : CharSet) (fuel : Nat)
    (hc : c ≠ ']' ∧ c ≠ '[') :
    classParts? lexicon flags pending chars (fuel + 1) (c :: text) =
      match setOperator? (c :: text) with
      | some (operator, rest) =>
        classParts? lexicon flags (some (applyPending lexicon flags pending chars, operator)) .empty fuel
          rest
      | none =>
        (classRange? lexicon flags (c :: text)).bind fun found =>
          classParts? lexicon flags pending (chars.union found.1) fuel found.2 := by
  rw [classParts?, skip_eq hf]
  split
  · rename_i heq
    cases heq
  · rename_i heq
    cases heq
    exact absurd rfl hc.1
  · rename_i heq
    cases heq
    exact absurd rfl hc.2
  · rfl

theorem classParts?_close (pending : Pending) (chars : CharSet) (fuel : Nat)
    (text : List Char) :
    classParts? lexicon flags pending chars (fuel + 1) (']' :: text) =
      some (applyPending lexicon flags pending chars, text) := by
  simp only [classParts?, skip_eq hf]

/-- How many rounds there are for a class does not matter, as long as they suffice for both
texts. -/
theorem classParts?_thinned {pending : Pending} {chars found other : CharSet} {fuel enough : Nat}
    {more : List Char} (h : Thinned true text thin)
    (hread : classParts? lexicon flags pending chars fuel text = some (found, rest))
    (hthin : classParts? lexicon flags pending chars enough thin = some (other, more)) :
    other = found ∧ Thinned false rest more := by
  induction fuel generalizing pending chars text thin enough with
  | zero =>
    rw [classParts?] at hread
    cases hread
  | succ fuel ih =>
    cases enough with
    | zero =>
      rw [classParts?] at hthin
      cases hthin
    | succ enough =>
      -- Inside a class, the first character is the closing bracket or begins a part.
      have hpart (c : Char) (text thin : List Char) (hc : c ≠ ']' ∧ c ≠ '[')
          (h : Thinned true (c :: text) (c :: thin))
          (hread : classParts? lexicon flags pending chars (fuel + 1) (c :: text) = some (found, rest))
          (hthin : classParts? lexicon flags pending chars (enough + 1) (c :: thin) =
            some (other, more)) :
          other = found ∧ Thinned false rest more := by
        rw [classParts?_cons hf _ _ _ hc] at hread hthin
        obtain ⟨hsome, hnone⟩ := setOperator?_thinned h
        split at hread
        · rename_i operator behind hoperator
          obtain ⟨tail, hsame, htail⟩ := hsome operator behind hoperator
          rw [hsame] at hthin
          exact ih htail hread hthin
        · rename_i hoperator
          rw [hnone hoperator] at hthin
          obtain ⟨⟨part, behind⟩, hrange, hread⟩ := Option.bind_eq_some_iff.mp hread
          have hclose : (c :: text).head? ≠ some ']' := fun heq => hc.1 (Option.some.inj heq)
          obtain ⟨tail, hsame, htail⟩ := classRange?_thinned hf hclose h hrange
          rw [hsame, Option.bind_some] at hthin
          exact ih htail hread hthin
      cases h with
      | nil =>
        rw [classParts?, skip_eq hf] at hread
        cases hread
      | close h =>
        rw [classParts?_close hf] at hread hthin
        cases hread
        cases hthin
        exact ⟨rfl, h⟩
      | escape hc h => exact hpart _ _ _ (by decide) (.escape hc h) hread hthin
      | char hc he h =>
        refine hpart _ _ _ ⟨?_, ?_⟩ (.char hc he h) hread hthin
        · rintro rfl
          exact hc (by decide)
        · rintro rfl
          exact hc (by decide)

theorem leadingHyphens_hyphen (chars : CharSet) (text : List Char) :
    leadingHyphens flags chars ('-' :: text) =
      leadingHyphens flags (chars.union (.singleton '-')) text := by
  simp only [leadingHyphens, skip_eq hf]

omit hf in
theorem leadingHyphens_of_ne {chars : CharSet} (hc : c ≠ '-') :
    leadingHyphens flags chars (c :: text) = (chars, c :: text) := by
  rw [leadingHyphens]
  rintro tail heq
  exact hc (List.cons.inj heq).1

/-- Leading hyphens are in the set that they leave. -/
theorem leadingHyphens_eq_of_empty {chars : CharSet}
    (h : (leadingHyphens flags chars text).1 = .empty) :
    leadingHyphens flags chars text = (chars, text) := by
  induction text generalizing chars with
  | nil => rfl
  | cons c text ih =>
    by_cases hc : c = '-'
    · subst hc
      rw [leadingHyphens_hyphen hf] at h
      have hunion : chars.union (.singleton '-') = .empty := by rw [← h, ih h]
      have hmem : (chars.union (.singleton '-')).contains '-' :=
        CharSet.contains_union.mpr (.inr (CharSet.contains_singleton.mpr rfl))
      rw [hunion] at hmem
      exact absurd hmem CharSet.not_contains_empty
    · exact leadingHyphens_of_ne hc

/-- Hyphens in front are read alike. -/
theorem leadingHyphens_thinned {chars : CharSet} (h : Thinned true text thin) :
    (leadingHyphens flags chars thin).1 = (leadingHyphens flags chars text).1 ∧
      Thinned true (leadingHyphens flags chars text).2 (leadingHyphens flags chars thin).2 := by
  induction text generalizing chars thin with
  | nil =>
    obtain rfl := h.nil_left
    exact ⟨rfl, h⟩
  | cons c text ih =>
    obtain ⟨more, rfl⟩ := List.head?_eq_some_iff.mp (h.head?.trans List.head?_cons)
    by_cases hc : c = '-'
    · subst hc
      obtain ⟨tail, heq, htail⟩ := h.cons (by decide)
      cases heq
      rw [leadingHyphens_hyphen hf, leadingHyphens_hyphen hf]
      exact ih htail
    · rw [leadingHyphens_of_ne hc, leadingHyphens_of_ne hc]
      exact ⟨rfl, h⟩

/-- A class that does not begin with its closing bracket has none among its leading signs. -/
theorem leadingSigns_eq (hclose : text.head? ≠ some ']') :
    leadingSigns flags text = leadingHyphens flags .empty text := by
  unfold leadingSigns
  dsimp only
  unfold leadingBracket
  split
  · rename_i tail hbracket
    split
    · rename_i hempty
      have hnone := leadingHyphens_eq_of_empty hf hempty
      rw [hnone] at hbracket
      dsimp only at hbracket
      rw [hbracket] at hclose
      exact absurd rfl hclose
    · rfl
  · rfl

/-- What stands in a class behind its leading signs is read alike. -/
theorem classBody_thinned {chars other : CharSet} {fuel enough : Nat} {more : List Char}
    (hclose : text.head? ≠ some ']') (h : Thinned true text thin)
    (hread : classParts? lexicon flags none (leadingSigns flags text).1 fuel
      (leadingSigns flags text).2 = some (chars, rest))
    (hthin : classParts? lexicon flags none (leadingSigns flags thin).1 enough
      (leadingSigns flags thin).2 = some (other, more)) :
    other = chars ∧ Thinned false rest more := by
  obtain ⟨hsame, htail⟩ := @leadingHyphens_thinned text thin flags hf .empty h
  rw [leadingSigns_eq hf hclose] at hread
  rw [leadingSigns_eq hf (h.head? ▸ hclose), hsame] at hthin
  exact classParts?_thinned hf htail hread hthin

theorem negation_eq (h : text.head? ≠ some '^') : negation flags text = (false, text) := by
  rw [negation, skip_eq hf]
  split
  · exact absurd rfl h
  · rfl

theorem negation_caret (text : List Char) : negation flags ('^' :: text) = (true, text) := by
  rw [negation, skip_eq hf]
  exact congrArg (Prod.mk true) (skip_eq hf text)

omit hf in
/-- A class is its body, negated or not, under the rule for upper and lower case. -/
theorem exists_of_class? {chars : CharSet} {fuel : Nat} {body : List Char} {negated : Bool}
    (hn : negation flags text = (negated, body))
    (hread : class? lexicon flags fuel text = some (chars, rest)) :
    ∃ found fuel, classParts? lexicon flags none (leadingSigns flags body).1 fuel
        (leadingSigns flags body).2 = some (found, rest) ∧
      flags.negate? negated (flags.fold lexicon found) = some chars := by
  cases fuel with
  | zero =>
    rw [class?] at hread
    cases hread
  | succ fuel =>
    rw [class?, hn] at hread
    obtain ⟨⟨found, behind⟩, hfound, hread⟩ := Option.bind_eq_some_iff.mp hread
    obtain ⟨chars, hchars, hread⟩ := Option.bind_eq_some_iff.mp hread
    cases hread
    exact ⟨found, fuel, hfound, hchars⟩

/-- Nothing is dropped in a class, so both texts have the same one. -/
theorem class?_thinned {chars other : CharSet} {fuel enough : Nat} {more : List Char}
    (h : Thinned inClass ('[' :: text) ('[' :: thin))
    (hread : class? lexicon flags fuel text = some (chars, rest))
    (hthin : class? lexicon flags enough thin = some (other, more)) :
    other = chars ∧ Thinned false rest more := by
  -- Both classes are negated, or neither is.
  have hbody (negated : Bool) (body thinBody : List Char) (hclose : body.head? ≠ some ']')
      (hn : negation flags text = (negated, body)) (ht : negation flags thin = (negated, thinBody))
      (h : Thinned true body thinBody) : other = chars ∧ Thinned false rest more := by
    obtain ⟨found, fuel, hfound, hchars⟩ := exists_of_class? hn hread
    obtain ⟨found', enough, hfound', hother⟩ := exists_of_class? ht hthin
    obtain ⟨rfl, hmore⟩ := classBody_thinned hf hclose h hfound hfound'
    exact ⟨Option.some.inj (hother.symm.trans hchars), hmore⟩
  cases h with
  | char hc => exact absurd (by decide) hc
  | openClass hc h =>
    exact hbody false text thin hc.2 (negation_eq hf hc.1) (negation_eq hf (h.head? ▸ hc.1)) h
  | openNegated hc h =>
    exact hbody true _ _ hc (negation_caret hf _) (negation_caret hf _) h
  | edge hedge => cases hedge

end Specimen.Pattern.Regex
