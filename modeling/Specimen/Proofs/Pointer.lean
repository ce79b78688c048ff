import Specimen.Schema.Error

/-!
# Specimen.Proofs.Pointer

The written form of pointers, which says exactly which pointer it is of (`written_form_exact`).

A token is written in one pass over its characters. That is the same as two replacements, of the
tildes first and of the slashes then (`escape_eq_replaced`); what is read goes through them the other
way round (`unescape_eq_replaced`), so that a tilde that comes out of the second replacement is not
taken for the beginning of another escape.
-/

namespace Specimen.Pointer

variable {c first second : Char} {rest chars token : List Char}

/-! ### Escapes as replacements -/

/-- Replaces a character by two others. -/
def replaceChar (c first second : Char) (chars : List Char) : List Char :=
  chars.flatMap fun other => if other = c then [first, second] else [other]

/-- Replaces two adjacent characters by another one, from the left on. -/
def replacePair (first second c : Char) : List Char → List Char
  | a :: b :: rest =>
    if a = first ∧ b = second then c :: replacePair first second c rest
    else a :: replacePair first second c (b :: rest)
  | rest => rest

theorem escape_eq_replaced (chars : List Char) :
    escape chars = replaceChar '/' '~' '1' (replaceChar '~' '~' '0' chars) := by
  induction chars with
  | nil => rfl
  | cons c rest ih =>
    unfold escape
    split
    · contradiction
    · simp_all [replaceChar]
    · simp_all [replaceChar]
    · simp_all [replaceChar]

theorem replacePair_pair :
    replacePair first second c (first :: second :: rest) =
      c :: replacePair first second c rest := by
  rw [replacePair, if_pos ⟨rfl, rfl⟩]

theorem replacePair_cons {a : Char} (h : a = first → rest.head? ≠ some second) :
    replacePair first second c (a :: rest) = a :: replacePair first second c rest := by
  cases rest with
  | nil => rfl
  | cons b rest =>
    rw [replacePair, if_neg]
    rintro ⟨ha, rfl⟩
    exact h ha rfl

theorem head?_replacePair :
    (replacePair first second c rest).head? = some c ∨
      (replacePair first second c rest).head? = rest.head? := by
  fun_cases replacePair first second c rest with
  | case1 => exact .inl rfl
  | case2 => exact .inr rfl
  | case3 => exact .inr rfl

theorem unescape_eq_replaced (chars : List Char) :
    unescape chars = replacePair '~' '0' '~' (replacePair '~' '1' '/' chars) := by
  fun_induction unescape chars with
  | case1 => rfl
  | case2 rest ih =>
    rw [replacePair_pair, replacePair_cons fun h => absurd h (by decide), ih]
  | case3 rest ih =>
    have hone : ('0' :: rest).head? ≠ some '1' := by simp
    have hzero : ('0' : Char) = '~' → rest.head? ≠ some '1' := fun h => absurd h (by decide)
    rw [replacePair_cons fun _ => hone, replacePair_cons hzero, replacePair_pair, ih]
  | case4 c rest hone hzero ih =>
    have hrest : c = '~' → rest.head? ≠ some '0' ∧ rest.head? ≠ some '1' := by
      rintro rfl
      constructor <;> intro h <;> obtain ⟨after, rfl⟩ := List.head?_eq_some_iff.mp h
      · exact hzero after rfl rfl
      · exact hone after rfl rfl
    rw [replacePair_cons fun h => (hrest h).2, replacePair_cons, ih]
    -- What follows a tilde that stays begins as before, or with a slash, so with no new zero.
    intro htilde
    rcases @head?_replacePair '/' '~' '1' rest with h | h
    · rw [h]
      decide
    · rw [h]
      exact (hrest htilde).1

/-! ### Tokens -/

theorem unescape_cons (h : c ≠ '~') : unescape (c :: rest) = c :: unescape rest :=
  unescape.eq_4 c rest (fun _ hc => absurd hc h) (fun _ hc => absurd hc h)

theorem unescape_escape (chars : List Char) : unescape (escape chars) = chars := by
  fun_induction escape chars with
  | case1 => rfl
  | case2 rest ih => simp [unescape, ih]
  | case3 rest ih => simp [unescape, ih]
  | case4 c rest htilde _ ih => rw [unescape_cons htilde, ih]

theorem slash_not_mem_escape (chars : List Char) : '/' ∉ escape chars := by
  fun_induction escape chars with
  | case1 => exact List.not_mem_nil
  | case2 rest ih => simpa using ih
  | case3 rest ih => simpa using ih
  | case4 c rest _ hslash ih => simpa [Ne.symm hslash] using ih

/-- Every tilde begins an escape. -/
def tildesEscape : List Char → Bool
  | [] => true
  | '~' :: rest => (rest.head? == some '0' || rest.head? == some '1') && tildesEscape rest
  | _ :: rest => tildesEscape rest

theorem escape_unescape (h : tildesEscape token = true) (hslash : '/' ∉ token) :
    escape (unescape token) = token := by
  fun_induction unescape token with
  | case1 => rfl
  | case2 rest ih => simp_all [tildesEscape, escape]
  | case3 rest ih => simp_all [tildesEscape, escape]
  | case4 c rest hone hzero ih =>
    obtain ⟨hc, hrest⟩ := List.ne_and_not_mem_of_not_mem_cons hslash
    have htilde : c ≠ '~' := by
      rintro rfl
      simp only [tildesEscape, Bool.and_eq_true, Bool.or_eq_true, beq_iff_eq,
        List.head?_eq_some_iff] at h
      grind
    rw [tildesEscape] at h
    · rw [escape, ih h hrest]
      · exact htilde
      · exact Ne.symm hc
    · exact htilde

/-! ### Texts of several tokens -/

/-- What is behind the number sign: each token follows a slash. -/
def behindSlashes (tokens : List (List Char)) : List Char := tokens.flatMap ('/' :: ·)

theorem behindSlashes_cons (first : List Char) (others : List (List Char)) :
    behindSlashes (first :: others) = '/' :: (first ++ behindSlashes others) := rfl

theorem segments_cons (h : c ≠ '/') {segment : List Char} {others : List (List Char)}
    (hrest : segments rest = segment :: others) :
    segments (c :: rest) = (c :: segment) :: others := by
  rw [segments, hrest]
  exact h

theorem segments_append {segment : List Char} {others : List (List Char)} (h : '/' ∉ token)
    (hrest : segments rest = segment :: others) :
    segments (token ++ rest) = (token ++ segment) :: others := by
  induction token with
  | nil => exact hrest
  | cons c token ih =>
    obtain ⟨hc, htoken⟩ := List.ne_and_not_mem_of_not_mem_cons h
    exact segments_cons (Ne.symm hc) (ih htoken)

/-- The parts of a text between its slashes are the tokens that it joins. -/
theorem segments_behindSlashes {others : List (List Char)} (hfirst : '/' ∉ token)
    (hothers : ∀ other ∈ others, '/' ∉ other) :
    segments (token ++ behindSlashes others) = token :: others := by
  induction others generalizing token with
  | nil =>
    have hrest : segments [] = [] :: [] := rfl
    simpa [behindSlashes] using segments_append hfirst hrest
  | cons next others ih =>
    obtain ⟨hnext, hothers⟩ := List.forall_mem_cons.mp hothers
    have hrest : segments (behindSlashes (next :: others)) = [] :: next :: others :=
      congrArg ([] :: ·) (ih hnext hothers)
    simpa using segments_append hfirst hrest

/-- A text joins the parts between its slashes. -/
theorem exists_segments (chars : List Char) :
    ∃ first others, segments chars = first :: others ∧ chars = first ++ behindSlashes others ∧
      ∀ segment ∈ first :: others, '/' ∉ segment := by
  induction chars with
  | nil => exact ⟨[], [], rfl, rfl, by simp⟩
  | cons c rest ih =>
    obtain ⟨first, others, hsegments, hjoin, hslash⟩ := ih
    by_cases hc : c = '/'
    · subst hc
      refine ⟨[], first :: others, congrArg ([] :: ·) hsegments, ?_, ?_⟩
      · rw [hjoin]
        rfl
      · exact List.forall_mem_cons.mpr ⟨List.not_mem_nil, hslash⟩
    · refine ⟨c :: first, others, segments_cons hc hsegments, by rw [hjoin]; rfl, ?_⟩
      obtain ⟨hfirst, hothers⟩ := List.forall_mem_cons.mp hslash
      exact List.forall_mem_cons.mpr ⟨List.not_mem_cons_of_ne_of_not_mem (Ne.symm hc) hfirst, hothers⟩

/-- An escape does not go beyond a slash. -/
theorem tildesEscape_append (hrest : ∀ c, rest.head? = some c → c = '/') :
    tildesEscape (token ++ rest) = (tildesEscape token && tildesEscape rest) := by
  fun_induction tildesEscape token with
  | case1 => rfl
  | case2 token ih =>
    have hhead : (token ++ rest).head? = token.head?.or rest.head? := List.head?_append
    rw [List.cons_append, tildesEscape, ih, hhead, Bool.and_assoc]
    cases htoken : token.head? with
    | some c => rfl
    | none => cases hr : rest.head? with
      | none => rfl
      | some c => rw [hrest c hr]; rfl
  | case3 c token hc ih => rw [List.cons_append, tildesEscape, ih]; exact hc

theorem tildesEscape_of_behindSlashes {others : List (List Char)}
    (h : tildesEscape (behindSlashes others) = true) :
    ∀ other ∈ others, tildesEscape other = true := by
  induction others with
  | nil => simp
  | cons other others ih =>
    have hslash : ∀ c, (behindSlashes others).head? = some c → c = '/' := by
      cases others <;> simp [behindSlashes]
    have hboth : tildesEscape (other ++ behindSlashes others) = true := h
    rw [tildesEscape_append hslash, Bool.and_eq_true] at hboth
    exact List.forall_mem_cons.mpr ⟨hboth.1, ih hboth.2⟩

/-! ### Pointers -/

variable {text : String}

theorem text_eq (tokens : List String) :
    Pointer.text ⟨tokens⟩ =
      "#" ++ String.ofList (behindSlashes (tokens.map fun token => escape token.toList)) := by
  apply String.toList_inj.mp
  simp [Pointer.text, behindSlashes, List.flatMap_map]

theorem parse?_ofList_cons (chars : List Char) :
    parse? (String.ofList ('/' :: chars)) =
      some ⟨(segments chars).map fun token => String.ofList (unescape token)⟩ := by
  unfold parse?
  rw [String.toList_ofList]
  rfl

/-- The text of a pointer behind its number sign reads as the pointer. -/
theorem parse?_behindSlashes (tokens : List String) :
    parse? (String.ofList (behindSlashes (tokens.map fun token => escape token.toList))) =
      some ⟨tokens⟩ := by
  cases tokens with
  | nil => rfl
  | cons first others =>
    have hothers : ∀ other ∈ others.map fun token : String => escape token.toList, '/' ∉ other := by
      simpa using fun (token : String) _ => slash_not_mem_escape token.toList
    have hsegments := segments_behindSlashes (slash_not_mem_escape first.toList) hothers
    rw [List.map_cons, behindSlashes_cons, parse?_ofList_cons, hsegments]
    simp [unescape_escape, Function.comp_def]

/-- A text that starts with a slash, and in which all tildes begin escapes, is the text of a pointer
behind its number sign. -/
theorem exists_parse?_eq_some (hslash : text.toList.head? = some '/')
    (htildes : tildesEscape text.toList = true) :
    ∃ pointer, parse? text = some pointer ∧ pointer.text = "#" ++ text := by
  obtain ⟨chars, hchars⟩ := List.head?_eq_some_iff.mp hslash
  obtain ⟨first, others, hsegments, hjoin, hparts⟩ := exists_segments chars
  have hall : text.toList = behindSlashes (first :: others) := by
    rw [hchars, hjoin]
    rfl
  have htext : text = String.ofList (behindSlashes (first :: others)) := by
    rw [← hall, String.ofList_toList]
  refine ⟨⟨(first :: others).map fun token => String.ofList (unescape token)⟩, ?_, ?_⟩
  · rw [htext, behindSlashes_cons, parse?_ofList_cons, ← hjoin, hsegments]
  · rw [hall] at htildes
    have hescaped := tildesEscape_of_behindSlashes htildes
    rw [text_eq, List.map_map, htext]
    congr 3
    refine (List.map_congr_left fun token h => ?_).trans (List.map_id _)
    simpa using escape_unescape (hescaped token h) (hparts token h)

/-- **The written form is exact.** Every pointer has a written form, from which it is read again
without the number sign; and every text that starts with a slash, and in which each tilde begins an
escape, is behind the number sign the written form of the pointer that is read from it. -/
theorem written_form_exact :
    (∀ pointer : Pointer, ∃ rest, pointer.text = "#" ++ rest ∧ parse rest = .ok pointer) ∧
      ∀ text : String, text.toList.head? = some '/' → tildesEscape text.toList = true →
        ∃ pointer, parse text = .ok pointer ∧ pointer.text = "#" ++ text := by
  refine ⟨fun pointer => ⟨_, text_eq pointer.tokens, ?_⟩, fun text hslash htildes => ?_⟩
  · rw [parse, parse?_behindSlashes]
  · obtain ⟨pointer, hparse, htext⟩ := exists_parse?_eq_some hslash htildes
    refine ⟨pointer, ?_, htext⟩
    rw [parse, hparse]

/-- Escapes of tildes beside each other, and an empty token at the end. -/
theorem written_form_exact_tildes :
    "/~0~01~1/".toList.head? = some '/' ∧ tildesEscape "/~0~01~1/".toList = true ∧
      ∃ pointer, parse "/~0~01~1/" = .ok pointer ∧ pointer.text = "#" ++ "/~0~01~1/" :=
  ⟨by decide, by decide, written_form_exact.2 _ (by decide) (by decide)⟩

example : parse? "/~0~01~1/" = some ⟨["~~1/", ""]⟩ := by decide

end Specimen.Pointer
