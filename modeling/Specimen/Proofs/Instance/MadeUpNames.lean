import Specimen.Proofs.Instance.IntegerRange
import Specimen.Proofs.Instance.Reaching

/-!
# Specimen.Proofs.Instance.MadeUpNames

How many names are made up for a schema of names that restricts nothing (`object_madeUp`).

A name is a value for that schema, as text. For a schema without any restriction the value is `null`
each time, so there is one name to make up, and none when that name is taken. An object that lacks
more properties fails, although every name is valid.
-/

namespace Specimen

/-! ### Schemas that restrict nothing -/

/-- The schema restricts nothing: it is `true`, or an object without keywords. -/
def Document.IsUnrestricted (document : Document) (node : Pointer) : Prop :=
  document.fragment node = .bool true ∨ document.fragment node = .obj []

section Unrestricted

variable {document : Document} {node : Pointer}

theorem Document.keyword?_of_isUnrestricted (h : document.IsUnrestricted node) (keyword : String) :
    document.keyword? node keyword = none := by
  unfold keyword?
  rcases h with h | h <;> rw [h] <;> rfl

theorem Document.referenceOf_of_isUnrestricted (h : document.IsUnrestricted node) :
    document.referenceOf node = .ok none := by
  unfold referenceOf
  rw [keyword?_of_isUnrestricted h]

theorem Constraints.ofSchema_of_isUnrestricted (h : document.IsUnrestricted node) :
    ofSchema document node = .ok (.any node) := by
  have hkeyword := Document.keyword?_of_isUnrestricted h
  have hinferred : inferKinds document node = none := by
    unfold inferKinds
    simp only [hkeyword, Option.isSome_none, Option.bind_none]
    rfl
  unfold ofSchema readKinds readTypeNames readBound readStep readNumber readCount readText
    readRequired readDependencies addDependencies readCandidates readEnum readItems readExtra
    Document.subschema? Document.subschemas Document.namedSubschemas
  simp only [hkeyword, hinferred]
  rfl

namespace Normalization

variable {path active : List Pointer}

theorem alternatives_of_isUnrestricted (h : document.IsUnrestricted node) :
    alternatives document path active node = pure [.any node] := by
  have hset := Constraints.ofSchema_of_isUnrestricted h
  rcases h with htrue | hempty
  · rw [alternatives, htrue]
  · have hplain : document.IsPlain node :=
      ⟨⟨_, hempty⟩, fun keyword _ => Document.keyword?_of_isUnrestricted (.inr hempty) keyword⟩
    rw [alternatives_of_isPlain hplain, hset]
    rfl

/-- Normalizing a schema that restricts nothing gives no demands. -/
theorem demandsOn_of_isUnrestricted (h : document.IsUnrestricted node) :
    demandsOn document path node = pure (.single (.any node)) := by
  rw [demandsOn_eq, Document.referenceOf_of_isUnrestricted h]
  dsimp only
  unfold settledDemands
  rw [alternatives_of_isUnrestricted h]
  rfl

end Normalization

end Unrestricted

namespace Instance

open Specimen.Random (Highest)

theorem terminalValue_of_isUnrestricted {document : Document} {node : Pointer}
    (h : document.IsUnrestricted node) : terminalValue document node = .null := by
  unfold terminalValue
  rw [document.resolve_eq_self (Document.referenceOf_of_isUnrestricted h)]
  dsimp only [Except.toOption, Option.getD]
  rw [Constraints.ofSchema_of_isUnrestricted h]
  rfl

variable {σ : Type} [Random.Source σ] {setting : Setting σ} {set : Constraints} {node : Pointer}
variable {child : Pointer → Option String → Run σ Json} {members : NameTable Json}

/-- Without demands and without a name to go by, the value is `null`. -/
theorem yields_ofConstraints_any :
    Yields (ofConstraints setting (.any node) none child) (· = .null) := by
  have hdraw (attempts : Nat) :
      Yields (drawAdmissible setting (.any node) none child .null attempts) (· = .null) := by
    induction attempts with
    | zero => exact (yields_any _).andThen fun _ => ends_pure rfl
    | succ attempts ih =>
      unfold drawAdmissible
      have hpick : Yields (pick [Kind.unknown] : Run σ Kind) (· = .unknown) :=
        (ends_pick unaffected_false _).mono fun kind => List.mem_singleton.mp
      refine hpick.bind_of fun kind hkind => ?_
      subst hkind
      have hvalue : Yields (ofKind setting (.any node) none child .unknown) (· = .null) :=
        ends_draw unaffected_false (ends_pure rfl)
      refine hvalue.bind_of fun value hvalue => ?_
      subst hvalue
      exact ends_pure rfl
  exact hdraw _

/-- Where nothing is restricted, the value is `null`. -/
theorem yields_value_null (h : setting.document.IsUnrestricted node) (room : Nat) :
    Yields (value setting room node none) (· = .null) := by
  cases room with
  | zero =>
    refine (yields_any _).andThen fun _ => (yields_any _).andThen fun _ => ?_
    exact ends_pure (terminalValue_of_isUnrestricted h)
  | succ room =>
    have hnormalized : (normalized setting.document node : Run σ Normalization) =
        pure ⟨.single (.any node), []⟩ := by
      funext progress
      unfold normalized Normalization.normalize
      rw [Normalization.demandsOn_of_isUnrestricted h]
      rfl
    rw [value, hnormalized]
    refine (yields_any _).andThen fun _ => ?_
    show Yields (below [] _) _
    exact fun progress => yields_ofConstraints_any (progress.descend [])

/-! ### One name to make up -/

/-- Further properties are allowed under made-up names, and each made-up name is `null`. -/
structure MakesUpNull (setting : Setting σ) (set : Constraints)
    (child : Pointer → Option String → Run σ Json) : Prop where
  invited : set.additionalProperties = .allowed ∨ ∃ node, set.additionalProperties = .schema node
  patterns : set.patternProperties = []
  name : Yields (madeUpName setting set child) (· = "null")

theorem makesUpNull_of_isUnrestricted
    (hextra : set.additionalProperties = .allowed ∨ ∃ node, set.additionalProperties = .schema node)
    (hpatterns : set.patternProperties = []) (hnames : set.propertyNames = some node)
    (h : setting.document.IsUnrestricted node) (room : Nat) :
    MakesUpNull setting set (value setting room) where
  invited := hextra
  patterns := hpatterns
  name := by
    unfold madeUpName
    rw [hnames]
    refine (yields_value_null h room).bind_of fun value hvalue => ends_pure ?_
    rw [hvalue]
    rfl

/-- What is found in so many attempts: a property under the name `null`, unless the name is
taken. -/
def FindsNull (set : Constraints) (members : NameTable Json) (attempts : Nat)
    (property? : Option (String × Json)) : Prop :=
  property?.map (·.1) =
    if attempts = 0 ∨ isTaken set members "null" = true then none else some "null"

theorem yields_madeUpProperty_null (h : MakesUpNull setting set child) (members : NameTable Json) :
    Yields (madeUpProperty setting set child members) (FindsNull set members 1) := by
  have hpattern : patternSchema? setting.library set "null" = none := by
    unfold patternSchema?
    rw [h.patterns]
    rfl
  unfold madeUpProperty FindsNull
  refine h.name.bind_of fun name hname => ?_
  subst hname
  cases htaken : isTaken set members "null" with
  | true =>
    rw [if_pos (by simp)]
    exact ends_pure (by simp)
  | false =>
    rw [if_neg (by simp [hpattern])]
    split
    · exact (yields_any _).andThen fun _ => ends_pure (by simp)
    · exact (yields_any _).andThen fun _ => ends_pure (by simp)

theorem yields_extraProperty_null (h : MakesUpNull setting set child) (isNeeded : Bool)
    (members : NameTable Json) (attempts : Nat) :
    Yields (extraProperty setting set child isNeeded members attempts)
      (FindsNull set members attempts) := by
  have hchooses : (choosesPattern set isNeeded : Run σ Bool) = pure false := by
    unfold choosesPattern
    rw [h.patterns]
    rfl
  have hpermits : permitsMadeUp set isNeeded = true := by
    unfold permitsMadeUp
    rcases h.invited with hallowed | ⟨node, hschema⟩
    · rw [hallowed]
    · rw [hschema]
  induction attempts with
  | zero => exact ends_pure (by simp [FindsNull])
  | succ attempts ih =>
    unfold extraProperty
    rw [hchooses, pure_bind, hpermits]
    refine (yields_madeUpProperty_null h members).bind_of fun property? hproperty => ?_
    unfold FindsNull at hproperty ih ⊢
    cases property? with
    | some property => exact ends_pure (by simpa using hproperty)
    | none =>
      -- Nothing was found, so the name is taken, and no further attempt finds anything.
      have htaken : isTaken set members "null" = true := by simpa using hproperty
      simp only [htaken, or_true, if_true] at ih ⊢
      exact ih

/-- Of all the properties that are looked for, one is added, unless the name is taken. -/
theorem yields_addExtras_null (h : MakesUpNull setting set child)
    (hattempts : setting.options.uniqueAttempts ≠ 0) (isNeeded : Bool) (count : Nat)
    (members : NameTable Json) :
    Yields (addExtras setting set child isNeeded count members) fun result =>
      result.size =
        members.size + if count = 0 ∨ isTaken set members "null" = true then 0 else 1 := by
  induction count generalizing members with
  | zero => exact ends_pure (by simp)
  | succ count ih =>
    unfold addExtras
    refine (yields_extraProperty_null h isNeeded members _).bind_of fun property? hproperty => ?_
    unfold FindsNull at hproperty
    cases htaken : isTaken set members "null" with
    | true =>
      obtain rfl : property? = none := by simpa [htaken] using hproperty
      exact ends_pure (by simp)
    | false =>
      simp only [hattempts, htaken, Bool.false_eq_true, or_self, if_false] at hproperty
      obtain ⟨⟨name, value⟩, rfl, hname⟩ := Option.map_eq_some_iff.mp hproperty
      subst hname
      refine (ih (members.insert "null" value)).mono fun result hresult => ?_
      have hnew : members.has "null" = false := (Bool.or_eq_false_iff.mp htaken).1
      have hgone : isTaken set (members.insert "null" value) "null" = true := by
        unfold isTaken
        rw [has_insert.mpr (.inl rfl)]
        rfl
      rw [hresult, hgone, NameTable.size_insert hnew]
      simp

/-- How many names can be made up beside the chosen ones: the name `null`, unless it is taken. -/
def spareNames (set : Constraints) (names : NameSet) : Nat :=
  if "null" ∈ names ∨ set.properties.has "null" = true then 0 else 1

/-- The members are enough exactly when the chosen names are, with the name `null` if it is free. -/
theorem yields_gather_null (h : MakesUpNull setting set child)
    (hattempts : setting.options.uniqueAttempts ≠ 0) (hmax : set.maxProperties = none)
    (hleast : leastProperties set ≤ Constraints.maxCount) (names : NameSet) :
    Yields (gather setting set child names) fun members =>
      leastProperties set ≤ members.size ↔
        leastProperties set ≤ names.size + spareNames set names := by
  unfold gather
  refine (yields_addProperties_names names).bind_of fun members hmembers => ?_
  subst hmembers
  refine (yields_any _).andThen fun invited => ?_
  refine (yields_addExtras_null h hattempts _ _ members).mono fun result hresult => ?_
  have htaken : isTaken set members "null" = true ↔
      "null" ∈ members.names ∨ set.properties.has "null" = true := by
    unfold isTaken
    rw [NameTable.mem_names, Bool.or_eq_true]
  have hroom : greatestProperties set = Constraints.maxCount := by
    unfold greatestProperties
    rw [hmax]
    rfl
  rw [hresult, NameTable.size_names, hroom]
  unfold spareNames
  simp only [htaken]
  by_cases hnull : "null" ∈ members.names ∨ set.properties.has "null" = true
  · simp only [hnull, or_true, if_true]
  · simp only [hnull, or_false, if_false]
    -- Where properties are needed, there is room for one.
    split <;> omega

/-- **How many names are made up for a schema of names that restricts nothing.** There is one at
most, `null`. So an object that may have as many further properties as it likes fails for want of
properties exactly when the chosen names are too few with that one. -/
theorem object_madeUp (valid : setting.options.IsValid)
    (hextra : set.additionalProperties = .allowed ∨ ∃ node, set.additionalProperties = .schema node)
    (hpatterns : set.patternProperties = []) (hmax : set.maxProperties = none)
    (hleast : leastProperties set ≤ Constraints.maxCount)
    (hnames : set.propertyNames = some node) (h : setting.document.IsUnrestricted node)
    (room : Nat) (progress : Progress σ) :
    ∃ names after,
      chooseNames setting.document set setting.options.optionalPropertyProbability
        progress.source = (.ok names, after) ∧
      object setting set (value setting room) progress =
        (if leastProperties set ≤ names.size + spareNames set names then
          gather setting set (value setting room) names
        else
          gather setting set (value setting room) names >>= fun members =>
            throw (tooFew set members.size)) { progress with source := after } := by
  have hforced : ∀ limit ∈ set.maxProperties,
      (NameSet.closure set.dependentRequired set.required).size ≤ limit :=
    fun limit hlimit => nomatch hmax.symm.trans hlimit
  obtain ⟨names, after, hchosen, -⟩ := exists_of_total
    (total_chooseNames setting.document valid.probability hforced) (yields_any _) progress.source
  refine ⟨names, after, hchosen, ?_⟩
  rw [object_eq_of_chooseNames _ hchosen, objectWith_eq_gather]
  have hmakes := makesUpNull_of_isUnrestricted hextra hpatterns hnames h room
  have hgather := yields_gather_null hmakes valid.uniqueAttempts hmax hleast names
  by_cases henough : leastProperties set ≤ names.size + spareNames set names
  · rw [if_pos henough, hgather.bind_congr fun members hmembers =>
      if_neg (Nat.not_lt_of_le (hmembers.mpr henough)), bind_pure]
  · rw [if_neg henough, hgather.bind_congr fun members hmembers =>
      if_pos (Nat.lt_of_not_le fun hle => henough (hmembers.mp hle))]

/-- A schema without restrictions. -/
def unrestricted : Setting Highest := ⟨.ofJson (.bool true), .default, .ofTable [], .bundled⟩

/-- At least so many properties, under any names. -/
def anyNames (least : Nat) : Constraints :=
  { Constraints.any .root with
    additionalProperties := .allowed
    propertyNames := some .root
    minProperties := some least }

/-- Two properties are too many to ask for; the object has only the one under the name `null`. -/
theorem object_madeUp_two :
    (object unrestricted (anyNames 2) (value unrestricted 0) fromHighest).1 =
      .error (tooFew (anyNames 2) 1) := by
  have hvalid : unrestricted.options.IsValid := Options.isValid_default
  have hextra : (anyNames 2).additionalProperties = .allowed ∨
      ∃ node, (anyNames 2).additionalProperties = .schema node := .inl rfl
  obtain ⟨names, after, hchosen, hobject⟩ :=
    object_madeUp hvalid hextra rfl rfl (by decide) rfl (.inl rfl) 0 fromHighest
  have hnone : (chooseNames unrestricted.document (anyNames 2)
      unrestricted.options.optionalPropertyProbability fromHighest.source).1.toOption = some ∅ := by
    decide +kernel
  obtain rfl : names = ∅ := by
    rw [hchosen] at hnone
    exact Option.some.inj hnone
  have hgather : (gather unrestricted (anyNames 2) (value unrestricted 0) ∅
      fromHighest).1.toOption.map (·.size) = some 1 := by
    decide +kernel
  obtain ⟨members, hmembers, hsize⟩ := exists_eq_ok_of_map_toOption hgather
  -- Such a source has one state only, so the draws have left everything as it was.
  have hsame : { fromHighest with source := after } = fromHighest := rfl
  rw [hobject, if_neg (by decide), hsame, bind_apply]
  cases hstate : gather unrestricted (anyNames 2) (value unrestricted 0) ∅ fromHighest with
  | mk outcome state =>
    rw [hstate] at hmembers
    cases hmembers
    rw [← hsize]
    rfl

end Instance

end Specimen
