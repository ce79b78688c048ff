import Mathlib.Data.List.Chain
import Specimen.Proofs.Pattern.Dialect

/-!
# Specimen.Proofs.Pattern.ClassSigns

Which signs stand in the classes of a translated pattern.

The translation has the classes of the pattern, and each of them is translated sign by sign
(`classes_translate`). Therefore no opening bracket stands in a class without a backslash; the sign
of an operation between sets, however, is doubled in a class of the translation wherever it is in
one of the pattern (`translate_classSigns`).
-/

namespace Specimen.Pattern

/-- A sign of a pattern: a character as it stands, or one behind a backslash. -/
inductive Sign where
  | plain (c : Char)
  | escaped (c : Char)
  deriving DecidableEq

/-- The signs of a text. A backslash at its end stands for itself. -/
def signs : List Char → List Sign
  | [] => []
  | '\\' :: c :: rest => .escaped c :: signs rest
  | c :: rest => .plain c :: signs rest

/-- Where a sign stands. At its start a class may be negated, and no closing bracket ends it. -/
inductive Place where
  | outside
  /-- Directly behind the opening bracket. -/
  | opened
  /-- Directly behind the sign that negates the class. -/
  | negated
  | inside
  deriving DecidableEq

/-- The place behind a sign. -/
def Place.next : Place → Sign → Place
  | .outside, .plain '[' => .opened
  | .outside, _ => .outside
  | .opened, .plain '^' => .negated
  | .inside, .plain ']' => .outside
  | _, _ => .inside

/-- The class that a sign outside classes stands for, by the signs between its brackets. -/
def shorthand? : Sign → Option (List Sign)
  | .escaped 'd' => some [.escaped 'd']
  | .escaped 'w' => some [.escaped 'w']
  | .escaped 's' => some [.escaped 's']
  | .escaped 'D' => some [.plain '^', .escaped 'd']
  | .escaped 'W' => some [.plain '^', .escaped 'w']
  | .escaped 'S' => some [.plain '^', .escaped 's']
  | _ => none

/-- The classes of a text from some place on, each by the signs between its brackets. One that is open
comes first, and one that is not closed ends with the text. -/
def classesFrom : Place → List Sign → List (List Sign)
  | .outside, [] => []
  | _, [] => [[]]
  | .outside, sign :: rest =>
    (shorthand? sign).toList ++ classesFrom (Place.outside.next sign) rest
  | place, sign :: rest =>
    if place.next sign = .outside then [] :: classesFrom .outside rest
    else (classesFrom (place.next sign) rest).modifyHead (sign :: ·)

/-- The classes of a pattern. -/
def classes (pattern : String) : List (List Sign) := classesFrom .outside (signs pattern.toList)

/-- The place behind a start of a pattern that ends inside or outside a class. -/
def placeOf : (inClass : Bool) → Place
  | true => .inside
  | false => .outside

/-- What stands in the translation for a sign in a class. -/
def translateSign : Sign → List Sign
  | .escaped 'd' => signs digitClass
  | .escaped 'w' => signs wordClass
  | .escaped 's' => signs spaceClass
  | .escaped '/' => [.plain '/']
  | .plain '[' => [.escaped '[']
  | .plain ']' => [.escaped ']']
  | .plain '\\' => [.escaped '\\']
  | sign => [sign]

variable {c : Char} {sign : Sign} {used rest : List Sign} {bodies : List (List Sign)}
variable {forSampling : Bool} {text : List Char}

/-! ### Readings of the parts -/

theorem signs_cons (hc : c ≠ '\\') : signs (c :: text) = .plain c :: signs text := by
  rw [signs]
  rintro d rest rfl
  exact absurd rfl hc

/-- Only a bracket opens a class. -/
theorem next_outside (hs : sign ≠ .plain '[') : Place.outside.next sign = .outside := by
  rw [Place.next]
  exact hs

/-- Only a bracket closes a class. -/
theorem next_inside (hs : sign ≠ .plain ']') : Place.inside.next sign = .inside := by
  rw [Place.next]
  all_goals simp_all

theorem next_opened (hs : sign ≠ .plain '^') : Place.opened.next sign = .inside := by
  rw [Place.next]
  all_goals simp_all

theorem next_negated : Place.negated.next sign = .inside := by
  rw [Place.next]
  all_goals simp

/-- Outside classes nothing is collected. -/
theorem classesFrom_outside_plain (hc : c ≠ '[') :
    classesFrom .outside (.plain c :: rest) = classesFrom .outside rest := by
  rw [classesFrom, next_outside (fun h => hc (Sign.plain.inj h))]
  rfl

/-- Inside a class a sign is collected. -/
theorem classesFrom_inside (hs : sign ≠ .plain ']') :
    classesFrom .inside (sign :: rest) = (classesFrom .inside rest).modifyHead (sign :: ·) := by
  rw [classesFrom, next_inside hs]
  · rfl
  · exact Place.noConfusion

/-- A class that is open takes a piece of text without a closing bracket. -/
theorem classesFrom_inside_append (hs : .plain ']' ∉ used) :
    classesFrom .inside (used ++ rest) = (classesFrom .inside rest).modifyHead (used ++ ·) := by
  induction used with
  | nil => exact (congrFun List.modifyHead_id _).symm
  | cons sign used ih =>
    rw [List.mem_cons, not_or] at hs
    rw [List.cons_append, classesFrom_inside (Ne.symm hs.1), ih hs.2, List.modifyHead_modifyHead]
    rfl

/-- Signs are translated one by one, also the one that is added last. -/
theorem map_modifyHead_flatMap :
    (bodies.modifyHead (sign :: ·)).map (·.flatMap translateSign) =
      (bodies.map (·.flatMap translateSign)).modifyHead (translateSign sign ++ ·) := by
  cases bodies with
  | nil => rfl
  | cons body bodies => rfl

theorem head?_of_signs (h : (signs text).head? = some (.plain c)) : text.head? = some c := by
  cases text with
  | nil => cases h
  | cons d text =>
    by_cases hd : d = '\\'
    · subst hd
      cases text with
      | nil =>
        cases h
        rfl
      | cons e text => cases h
    · rw [signs_cons hd] at h
      cases h
      rfl

/-- Only a caret makes a difference at the start of a class. -/
theorem classesFrom_opened (h : rest.head? ≠ some (.plain '^')) :
    classesFrom .opened rest = classesFrom .negated rest := by
  cases rest with
  | nil => rfl
  | cons sign rest =>
    rw [classesFrom, classesFrom, next_opened (fun hs => h (congrArg some hs)), next_negated]
    all_goals exact Place.noConfusion

/-- Only a closing bracket makes a difference behind the start of a class. -/
theorem classesFrom_negated (h : rest.head? ≠ some (.plain ']')) :
    classesFrom .negated rest = classesFrom .inside rest := by
  cases rest with
  | nil => rfl
  | cons sign rest =>
    rw [classesFrom_inside (fun hs => h (congrArg some hs)), classesFrom, next_negated]
    · rfl
    · exact Place.noConfusion

theorem head?_signs_ne (h : ∀ more, text = c :: more → False) :
    (signs text).head? ≠ some (.plain c) := by
  intro hhead
  obtain ⟨more, hmore⟩ := List.head?_eq_some_iff.mp (head?_of_signs hhead)
  exact h more hmore

/-- A sign that is read on its own is not a backslash. -/
theorem ne_backslash {rest : List Char} (hlast : c = '\\' → rest = [] → False)
    (hescape : ∀ d more, c = '\\' → rest = d :: more → False) : c ≠ '\\' := by
  rintro rfl
  cases rest with
  | nil => exact hlast rfl rfl
  | cons d more => exact hescape d more rfl rfl

/-! ### Translations -/

/-- At both ends of what stands for a sign, a character without a backslash is the sign itself. -/
theorem translateSign_edges (hc : c ∈ ['^', ']', '&', '-', '~']) :
    ((translateSign sign).head? = some (.plain c) → sign = .plain c) ∧
      ((translateSign sign).getLast? = some (.plain c) → sign = .plain c) := by
  simp only [List.mem_cons, List.not_mem_nil, or_false] at hc
  fun_cases translateSign sign with
  | case8 => exact ⟨Option.some.inj, Option.some.inj⟩
  | _ => rcases hc with rfl | rfl | rfl | rfl | rfl <;> decide

/-- What stands for a sign has no bracket without a backslash. -/
theorem not_mem_translateSign (hc : c = '[' ∨ c = ']') : .plain c ∉ translateSign sign := by
  fun_cases translateSign sign with
  | case8 _ _ _ _ _ hopen hclose =>
    intro hmem
    have hsign := (List.mem_singleton.mp hmem).symm
    rcases hc with rfl | rfl
    · exact hopen hsign
    · exact hclose hsign
  | _ => rcases hc with rfl | rfl <;> decide

/-- No sign is dropped. -/
theorem translateSign_ne_nil : translateSign sign ≠ [] := by
  fun_cases translateSign sign with
  | case8 => exact List.cons_ne_nil _ _
  | _ => decide

/-- An escape in a class is translated by itself. -/
theorem signs_translateEscape_inClass (c : Char) (text : List Char) :
    signs (translateEscape forSampling true c ++ text) =
      translateSign (.escaped c) ++ signs text := by
  generalize hclass : true = inClass
  fun_cases translateEscape forSampling inClass c with
  | case1 | case2 | case3 | case10 => rfl
  | case11 c inClass _ _ _ _ _ _ _ _ _ _ hleft =>
    subst hclass
    cases hleft.2.1
  | case12 =>
    have hkept : translateSign (.escaped c) = [.escaped c] := by
      rw [translateSign]
      all_goals simp_all
    rw [hkept]
    rfl
  | _ => cases hclass

theorem shorthand?_eq_none (hc : c ∉ ['d', 'w', 's', 'D', 'W', 'S']) :
    shorthand? (.escaped c) = none := by
  unfold shorthand?
  split
  all_goals simp_all

/-- Outside classes, an escape that stands for a class becomes one. -/
theorem classesFrom_translateEscape (c : Char) (text : List Char) :
    classesFrom .outside (signs (translateEscape forSampling false c ++ text)) =
      (shorthand? (.escaped c)).toList.map (·.flatMap translateSign) ++
        classesFrom .outside (signs text) := by
  generalize hclass : false = inClass
  fun_cases translateEscape forSampling inClass c with
  | case11 =>
    rw [shorthand?_eq_none (by simp_all)]
    rfl
  | case12 =>
    have hnone : shorthand? (.escaped c) = none := shorthand?_eq_none (by simp_all)
    rw [List.cons_append, List.cons_append, signs, classesFrom, hnone]
    rfl
  | case1 | case2 | case3 => cases hclass
  | _ => rfl

/-- In a class, a sign that negates or closes it comes from the pattern. -/
theorem head?_of_signs_translateFrom (hc : c = '^' ∨ c = ']')
    (h : (signs (translateFrom forSampling true text)).head? = some (.plain c)) :
    (signs text).head? = some (.plain c) := by
  generalize hclass : true = inClass at h
  fun_induction translateFrom forSampling inClass text with
  | case1 => cases h
  | case2 => cases h
  | case3 inClass d rest =>
    subst hclass
    rw [signs_translateEscape_inClass, List.head?_append_of_ne_nil _ translateSign_ne_nil] at h
    have hedge := (translateSign_edges (by rcases hc with rfl | rfl <;> decide)).1 h
    cases hedge
  | case8 => cases h
  | case9 => exact h
  | case10 inClass _ _ _ _ _ _ _ _ _ _ hleft =>
    subst hclass
    cases hleft.2.1
  | case11 inClass d rest hlast hescape =>
    have hd : d ≠ '\\' := ne_backslash hlast hescape
    rw [signs_cons hd] at h ⊢
    exact h
  | _ => cases hclass

/-- A sign that does not close its class is followed, in both texts, by what is left of the class. -/
theorem classesFrom_inside_translateSign {out : List Sign} (sign : Sign) (hs : sign ≠ .plain ']')
    (ih : classesFrom .inside out = (classesFrom .inside rest).map (·.flatMap translateSign)) :
    classesFrom .inside (translateSign sign ++ out) =
      (classesFrom .inside (sign :: rest)).map (·.flatMap translateSign) := by
  rw [classesFrom_inside_append (not_mem_translateSign (.inr rfl)), classesFrom_inside hs,
    map_modifyHead_flatMap, ih]

/-- The translation of a pattern, from some place on, has the classes of the pattern, each translated
sign by sign. -/
theorem classesFrom_translateFrom (forSampling inClass : Bool) (text : List Char) :
    classesFrom (placeOf inClass) (signs (translateFrom forSampling inClass text)) =
      (classesFrom (placeOf inClass) (signs text)).map (·.flatMap translateSign) := by
  fun_induction translateFrom forSampling inClass text with
  | case1 inClass => cases inClass <;> rfl
  | case2 inClass => cases inClass <;> rfl
  | case3 inClass c rest ih =>
    cases inClass with
    | true =>
      rw [signs_translateEscape_inClass]
      exact classesFrom_inside_translateSign (.escaped c) Sign.noConfusion ih
    | false =>
      have hrest : classesFrom .outside (signs ('\\' :: c :: rest)) =
          (shorthand? (.escaped c)).toList ++ classesFrom .outside (signs rest) := rfl
      show classesFrom .outside _ = (classesFrom .outside _).map _
      rw [classesFrom_translateEscape, hrest, List.map_append]
      exact congrArg _ ih
  | case4 rest ih =>
    show ((classesFrom .inside _).modifyHead (Sign.escaped ']' :: ·)).modifyHead _ =
      (((classesFrom .inside _).modifyHead (Sign.plain ']' :: ·)).modifyHead _).map _
    rw [map_modifyHead_flatMap, map_modifyHead_flatMap]
    exact congrArg _ (congrArg _ ih)
  | case5 rest hne ih =>
    have hpattern := head?_signs_ne hne
    show (classesFrom .negated _).modifyHead _ = ((classesFrom .negated _).modifyHead _).map _
    rw [map_modifyHead_flatMap, classesFrom_negated hpattern,
      classesFrom_negated fun h => hpattern (head?_of_signs_translateFrom (.inr rfl) h)]
    exact congrArg _ ih
  | case6 rest ih =>
    show (classesFrom .inside _).modifyHead (Sign.escaped ']' :: ·) =
      ((classesFrom .inside _).modifyHead (Sign.plain ']' :: ·)).map _
    rw [map_modifyHead_flatMap]
    exact congrArg _ ih
  | case7 rest _ hstart hclose ih =>
    have hstart := head?_signs_ne hstart
    have hclose := head?_signs_ne hclose
    show classesFrom .opened _ = (classesFrom .opened _).map _
    rw [classesFrom_opened hstart, classesFrom_negated hclose,
      classesFrom_opened fun h => hstart (head?_of_signs_translateFrom (.inl rfl) h),
      classesFrom_negated fun h => hclose (head?_of_signs_translateFrom (.inr rfl) h)]
    exact ih
  | case8 rest ih => exact classesFrom_inside_translateSign (.plain '[') (by decide) ih
  | case9 rest ih => exact congrArg ([] :: ·) ih
  | case10 inClass c rest _ _ _ _ _ _ _ _ hleft ih =>
    -- An anchor outside classes is left out.
    obtain ⟨-, hclass, hedge⟩ := hleft
    rw [Bool.not_eq_true'] at hclass
    subst hclass
    have hplain : c ≠ '\\' ∧ c ≠ '[' := by
      rcases hedge with rfl | rfl <;> decide
    rw [signs_cons hplain.1, ih]
    exact congrArg _ (classesFrom_outside_plain hplain.2).symm
  | case11 inClass c rest hlast hescape _ _ _ hopen hopen' hclose _ ih =>
    have hc := ne_backslash hlast hescape
    rw [signs_cons hc, signs_cons hc]
    cases inClass with
    | true =>
      have hkept : translateSign (.plain c) = [.plain c] := by
        rw [translateSign]
        all_goals simp_all
      have hne : Sign.plain c ≠ .plain ']' := fun h => hclose rfl (Sign.plain.inj h)
      have hnext := classesFrom_inside_translateSign (.plain c) hne ih
      rwa [hkept] at hnext
    | false =>
      show classesFrom .outside _ = (classesFrom .outside _).map _
      rw [classesFrom_outside_plain (hopen rfl), classesFrom_outside_plain (hopen rfl)]
      exact ih

/-- **The classes of a translation** are those of the pattern, each translated sign by sign. -/
theorem classes_translate (pattern : String) (forSampling : Bool) :
    classes (translate pattern forSampling) =
      (classes pattern).map (·.flatMap translateSign) := by
  unfold classes translate
  rw [String.toList_ofList]
  exact classesFrom_translateFrom forSampling false pattern.toList

/-! ### Operations -/

/-- No two signs in a row are a character as it stands. -/
def Single (c : Char) (body : List Sign) : Prop :=
  body.IsChain fun first second => ¬(first = .plain c ∧ second = .plain c)

/-- The translation of a sign brings no second one beside it. -/
theorem single_translateSign (hc : c ∈ ['&', '-', '~']) : Single c (translateSign sign) := by
  simp only [List.mem_cons, List.not_mem_nil, or_false] at hc
  unfold Single
  fun_cases translateSign sign with
  | case8 => exact .singleton _
  | _ => rcases hc with rfl | rfl | rfl <;> decide

/-- A sign of an operation is doubled in the translation of a class just if it is in the class. -/
theorem single_flatMap_iff {body : List Sign} (hc : c ∈ ['&', '-', '~']) :
    Single c (body.flatMap translateSign) ↔ Single c body := by
  have hkept : translateSign (.plain c) = [.plain c] := by
    simp only [List.mem_cons, List.not_mem_nil, or_false] at hc
    rcases hc with rfl | rfl | rfl <;> rfl
  have hpieces : [] ∉ body.map translateSign := fun hmem => by
    obtain ⟨sign, -, hnil⟩ := List.mem_map.mp hmem
    exact translateSign_ne_nil hnil
  unfold Single
  rw [List.flatMap_def, List.isChain_flatten hpieces, List.isChain_map]
  constructor
  · rintro ⟨-, hbetween⟩
    refine hbetween.imp fun first second h => ?_
    rintro ⟨rfl, rfl⟩
    rw [hkept] at h
    exact h _ rfl _ rfl ⟨rfl, rfl⟩
  · intro hbody
    refine ⟨fun piece hpiece => ?_, hbody.imp fun first second h => ?_⟩
    · obtain ⟨sign, -, rfl⟩ := List.mem_map.mp hpiece
      exact single_translateSign hc
    · -- Where two pieces meet, both signs come from the pattern.
      have hedge : c ∈ ['^', ']', '&', '-', '~'] := .tail _ (.tail _ hc)
      rintro _ hlast _ hhead ⟨rfl, rfl⟩
      exact h ⟨(translateSign_edges hedge).2 hlast, (translateSign_edges hedge).1 hhead⟩

/-- **Operations in the classes of a translation.** No class of a translated pattern has an opening
bracket in it without a backslash, so none stands in another. The sign of an operation between sets
is doubled in a class of the translation just if it is in a class of the pattern. -/
theorem translate_classSigns (pattern : String) (forSampling : Bool) :
    (∀ body ∈ classes (translate pattern forSampling), .plain '[' ∉ body) ∧
    ∀ c ∈ ['&', '-', '~'],
      (∀ body ∈ classes (translate pattern forSampling), Single c body) ↔
        ∀ body ∈ classes pattern, Single c body := by
  rw [classes_translate]
  refine ⟨List.forall_mem_map.mpr fun body _ hmem => ?_, fun c hc => ?_⟩
  · obtain ⟨sign, -, hopen⟩ := List.mem_flatMap.mp hmem
    exact not_mem_translateSign (.inl rfl) hopen
  · rw [List.forall_mem_map]
    exact forall₂_congr fun body _ => single_flatMap_iff hc

/-- The sign of an intersection stays doubled, and a bracket gets its backslash. -/
example : classes (translate "[a&&[b]" true) =
    [[.plain 'a', .plain '&', .plain '&', .escaped '[', .plain 'b']] := by decide

end Specimen.Pattern
