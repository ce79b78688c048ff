import Specimen.Proofs.Instance.Places

/-!
# Specimen.Proofs.Instance.Object

Objects for a schema: each member is made for the schema of its name, and members beyond the chosen
ones stand under names that are not declared (`ends_objectWith`, `ends_object`).

What a member is like depends on whether its value was made for a schema or taken from the source of
values. The lemmas about the steps leave open what is said of it (`MemberRule`).
-/

namespace Specimen.Instance

variable {σ : Type} {library : Pattern.Library σ} {set : Constraints}
variable {fits : Pointer → Json → Prop}
variable {kept : Progress σ → Prop}
variable {members result : NameTable Json} {name : String} {value : Json} {node : Pointer}
variable {good : String → Json → Prop} {loose : Json → Prop}

/-- Every member of an object is as described. -/
def EachMember (good : String → Json → Prop) (members : List (String × Json)) : Prop :=
  ∀ name value, members.lookup name = some value → good name value

/-- A description of members that holds of every value which fits the schema of its name, or a
schema for names like it, and of every `loose` value under a name without a schema. -/
structure MemberRule (library : Pattern.Library σ) (fits : Pointer → Json → Prop)
    (loose : Json → Prop) (set : Constraints) (good : String → Json → Prop) : Prop where
  placed : ∀ name node value, memberSchema? library set name = some node → fits node value →
    good name value
  patterned : ∀ name entry value, set.properties.get? name = none →
    entry ∈ set.patternProperties → fits entry.2 value → good name value
  loose : ∀ name value, memberSchema? library set name = none → loose value → good name value

theorem has_insert {other : String} :
    (members.insert name value).has other = true ↔ other = name ∨ members.has other = true := by
  unfold NameTable.has
  rw [NameTable.get?_insert]
  split
  · rename_i h
    simp [h]
  · rename_i h
    simp [h]

/-- A member that is good can be added. -/
theorem EachMember.insert (hm : EachMember good members.entries) (hv : good name value) :
    EachMember good (members.insert name value).entries := by
  intro other part h
  have hget : (members.insert name value).get? other = some part := h
  rw [NameTable.get?_insert] at hget
  split at hget
  · rename_i hname
    cases hget
    exact hname ▸ hv
  · exact hm other part hget

/-- The three places to look for the schema of a member. -/
theorem memberSchema?_cases (h : memberSchema? library set name = some node) :
    set.properties.get? name = some node ∨
    (set.properties.get? name = none ∧ patternSchema? library set name = some node) ∨
    (set.properties.get? name = none ∧ set.additionalProperties = .schema node) := by
  unfold memberSchema? at h
  cases hp : set.properties.get? name with
  | some declared => exact .inl (by simpa [hp] using h)
  | none =>
    cases hs : patternSchema? library set name with
    | some matching => exact .inr (.inl ⟨rfl, by simpa [hp, hs] using h⟩)
    | none =>
      cases ha : set.additionalProperties with
      | schema other => exact .inr (.inr ⟨rfl, by simpa [hp, hs, ha, Extra.schema?] using h⟩)
      | unspecified | allowed | forbidden => simp [hp, hs, ha, Extra.schema?] at h

/-- A schema for a name by its pattern is that of an entry. -/
theorem exists_of_patternSchema? (h : patternSchema? library set name = some node) :
    ∃ entry ∈ set.patternProperties, entry.2 = node := by
  unfold patternSchema? at h
  obtain ⟨entry, hfind, rfl⟩ := Option.map_eq_some_iff.mp h
  exact ⟨entry, List.mem_of_find?_eq_some hfind, rfl⟩

/-- The schema of a member is a child. -/
theorem isChild_of_memberSchema? (h : memberSchema? library set name = some node) :
    set.IsChild node := by
  rcases memberSchema?_cases h with hp | ⟨-, hs⟩ | ⟨-, ha⟩
  · exact .property name hp
  · obtain ⟨entry, hentry, rfl⟩ := exists_of_patternSchema? hs
    exact .pattern entry.1 hentry
  · exact .additional ha

/-- A value of the schema of a member fits as that member. -/
theorem fitsMember_of_memberSchema? (h : memberSchema? library set name = some node)
    (hv : fits node value) : FitsMember fits set name value := by
  rcases memberSchema?_cases h with hp | ⟨hp, hs⟩ | ⟨hp, ha⟩
  · exact ⟨fun other ho => by rwa [Option.some.inj (ho.symm.trans hp)],
      fun hn => by simp [hn] at hp⟩
  · obtain ⟨entry, hentry, rfl⟩ := exists_of_patternSchema? hs
    exact ⟨fun other ho => by simp [hp] at ho, fun _ _ _ => .inr ⟨entry, hentry, hv⟩⟩
  · refine ⟨fun other ho => by simp [hp] at ho, fun _ schema hschema => .inl ?_⟩
    cases ha.symm.trans hschema
    exact hv

/-- Where there is no schema for a member, it may have any value. -/
theorem fitsMember_of_memberSchema?_eq_none (h : memberSchema? library set name = none) :
    FitsMember fits set name value := by
  unfold memberSchema? at h
  constructor
  · intro node hp
    simp [hp] at h
  · intro _ schema ha
    simp [ha, Extra.schema?] at h

/-- Members that fit their schemas are a description of members, whatever the others are. -/
theorem memberRule_fitsMember :
    MemberRule library fits (fun _ => True) set (FitsMember fits set) where
  placed _ _ _ h hv := fitsMember_of_memberSchema? h hv
  patterned _ entry _ hname hentry hv :=
    ⟨fun _ hn => (nomatch hname.symm.trans hn), fun _ _ _ => .inr ⟨entry, hentry, hv⟩⟩
  loose _ _ h _ := fitsMember_of_memberSchema?_eq_none h

/-- A table gets more members, none of them under a declared name. -/
structure Extends (set : Constraints) (members result : NameTable Json) : Prop where
  subset : ∀ name, members.has name = true → result.has name = true
  added : ∀ name, result.has name = true →
    members.has name = true ∨ set.properties.has name = false

theorem Extends.refl : Extends set members members := ⟨fun _ h => h, fun _ h => .inl h⟩

/-- A new name does not belong to what was there. -/
theorem Extends.of_insert (hname : isTaken set members name = false)
    (h : Extends set (members.insert name value) result) : Extends set members result where
  subset other hother := h.subset other (has_insert.mpr (.inr hother))
  added other hother := by
    rcases h.added other hother with hmem | hdeclared
    · rcases has_insert.mp hmem with rfl | hmem
      · exact .inr (by simpa using (Bool.or_eq_false_iff.mp hname).2)
      · exact .inl hmem
    · exact .inr hdeclared

variable [Random.Source σ] {setting : Setting σ} {child : Pointer → Option String → Run σ Json}

/-- The value of a property is good: by its schema, or by the rule for those without one. -/
theorem ends_propertyValue (hk : Unaffected kept)
    (hr : MemberRule setting.library fits loose set good)
    (hl : ∀ name, Yields (unknownValue setting.provider (some name)) loose)
    (hc : ∀ node, set.IsChild node → ∀ property, Ends kept (child node property) (fits node))
    (name : String) :
    Ends kept (propertyValue setting set child name) (good name) := by
  unfold propertyValue
  split
  · rename_i node hs
    exact (hc node (isChild_of_memberSchema? hs) (some name)).mono fun value =>
      hr.placed name node value hs
  · rename_i hs
    have hdraw : Ends kept (Run.draw (unknownValue setting.provider (some name))) (good name) :=
      (ends_draw hk (hl name)).mono fun value => hr.loose name value hs
    split
    · exact (ends_record hk _ _ _).andThen fun _ => hdraw
    · exact hdraw

/-- The chosen names are present, and no other ones. -/
theorem ends_addProperties (hk : Unaffected kept)
    (hr : MemberRule setting.library fits loose set good)
    (hl : ∀ name, Yields (unknownValue setting.provider (some name)) loose)
    (hc : ∀ node, set.IsChild node → ∀ property, Ends kept (child node property) (fits node))
    (names : List String) (members : NameTable Json) :
    Ends kept (addProperties setting set child names members) fun result =>
      (EachMember good members.entries → EachMember good result.entries) ∧
      ∀ name, result.has name = true ↔ name ∈ names ∨ members.has name = true := by
  induction names generalizing members with
  | nil => exact ends_pure ⟨fun h => h, by simp⟩
  | cons first rest ih =>
    unfold addProperties
    refine (ends_propertyValue hk hr hl hc first).bind fun value => ?_
    refine (ih (members.insert first value)).mono fun result ⟨hgood, hnames⟩ hvalue => ?_
    refine ⟨fun hm => hgood (hm.insert hvalue), fun name => ?_⟩
    rw [hnames, has_insert, List.mem_cons, or_left_comm, or_assoc]

/-- A property that may be added. -/
def IsAddable (good : String → Json → Prop) (set : Constraints) (members : NameTable Json)
    (property : String × Json) : Prop :=
  isTaken set members property.1 = false ∧ good property.1 property.2

theorem get?_eq_none_of_isTaken (h : isTaken set members name = false) :
    set.properties.get? name = none := by
  simpa [NameTable.has] using (Bool.or_eq_false_iff.mp h).2

/-- A property by a pattern has a value of the schema for that pattern. -/
theorem ends_patternedProperty (hk : Unaffected kept)
    (hr : MemberRule setting.library fits loose set good)
    (hc : ∀ node, set.IsChild node → ∀ property, Ends kept (child node property) (fits node))
    (members : NameTable Json) :
    Ends kept (patternedProperty setting set child members) fun property? =>
      ∀ property ∈ property?, IsAddable good set members property := by
  unfold patternedProperty
  refine (ends_draw hk (yields_any _)).andThen fun index => ?_
  split
  · exact ends_pure (by simp)
  · rename_i pattern node hentry
    have hmem : (pattern, node) ∈ set.patternProperties := List.mem_of_getElem? hentry
    split
    · exact (ends_record hk _ _ _).andThen fun _ => ends_pure (by simp)
    · refine (ends_draw hk (yields_any _)).andThen fun name => ?_
      split
      · exact ends_pure (by simp)
      · rename_i hname
        refine (hc node (.pattern pattern hmem) (some name)).bind fun value => ?_
        refine ends_pure fun hvalue property hp => ?_
        cases hp
        have hfree : isTaken set members name = false := by simpa using hname
        exact ⟨hfree, hr.patterned name _ value (get?_eq_none_of_isTaken hfree) hmem hvalue⟩

theorem ends_madeUpName (hk : Unaffected kept)
    (hc : ∀ node, set.IsChild node → ∀ property, Ends kept (child node property) (fits node)) :
    Ends kept (madeUpName setting set child) fun _ => True := by
  unfold madeUpName
  split
  · rename_i node hn
    exact (hc node (.propertyName hn) none).andThen fun _ => ends_pure trivial
  · exact (ends_draw hk (yields_any _)).andThen fun _ => ends_pure trivial

/-- A property with a made-up name has a value of the schema for what is left over, if there is one.
-/
theorem ends_madeUpProperty (hk : Unaffected kept)
    (hr : MemberRule setting.library fits loose set good)
    (hl : ∀ name, Yields (unknownValue setting.provider (some name)) loose)
    (hc : ∀ node, set.IsChild node → ∀ property, Ends kept (child node property) (fits node))
    (members : NameTable Json) :
    Ends kept (madeUpProperty setting set child members) fun property? =>
      ∀ property ∈ property?, IsAddable good set members property := by
  unfold madeUpProperty
  refine (ends_madeUpName hk hc).andThen fun name => ?_
  split
  · exact ends_pure (by simp)
  · rename_i hname
    -- The name is neither declared nor matched by a pattern, so `additionalProperties` decides.
    obtain ⟨⟨-, hfree⟩, hpattern⟩ :
        (name.isEmpty = false ∧ isTaken set members name = false) ∧
          patternSchema? setting.library set name = none := by
      simpa using hname
    have hmember :
        memberSchema? setting.library set name = set.additionalProperties.schema? := by
      simp [memberSchema?, get?_eq_none_of_isTaken hfree, hpattern]
    split
    · rename_i node hs
      rw [hs] at hmember
      refine (hc node (isChild_of_memberSchema? hmember) (some name)).bind fun value => ?_
      refine ends_pure fun hvalue property hp => ?_
      cases hp
      exact ⟨hfree, hr.placed name node value hmember hvalue⟩
    · rename_i hs
      rw [hs] at hmember
      refine (ends_draw hk (hl name)).bind fun value => ends_pure fun hvalue property hp => ?_
      cases hp
      exact ⟨hfree, hr.loose name value hmember hvalue⟩

/-- An extra property is good, whichever way its name is found. -/
theorem ends_extraProperty (hk : Unaffected kept)
    (hr : MemberRule setting.library fits loose set good)
    (hl : ∀ name, Yields (unknownValue setting.provider (some name)) loose)
    (hc : ∀ node, set.IsChild node → ∀ property, Ends kept (child node property) (fits node))
    (isNeeded : Bool) (members : NameTable Json) (attempts : Nat) :
    Ends kept (extraProperty setting set child isNeeded members attempts) fun property? =>
      ∀ property ∈ property?, IsAddable good set members property := by
  have hchoice : Ends kept (choosesPattern (σ := σ) set isNeeded) fun _ => True := by
    unfold choosesPattern
    split
    · exact ends_pure trivial
    · split
      · exact ends_draw hk (yields_any _)
      · exact ends_pure trivial
  induction attempts with
  | zero => exact ends_pure (by simp)
  | succ attempts ih =>
    unfold extraProperty
    refine hchoice.andThen fun usesPattern => ?_
    split
    · exact ends_pure (by simp)
    · have htry : Ends kept (tryProperty setting set child usesPattern members) fun property? =>
          ∀ property ∈ property?, IsAddable good set members property := by
        unfold tryProperty
        split
        · exact ends_patternedProperty hk hr hc members
        · exact ends_madeUpProperty hk hr hl hc members
      refine htry.bind fun property? => ?_
      split
      · exact ends_pure fun h => h
      · exact ih.mono fun _ h _ => h

/-- Extra properties are added one by one and stay good. -/
theorem ends_addExtras (hk : Unaffected kept)
    (hr : MemberRule setting.library fits loose set good)
    (hl : ∀ name, Yields (unknownValue setting.provider (some name)) loose)
    (hc : ∀ node, set.IsChild node → ∀ property, Ends kept (child node property) (fits node))
    (isNeeded : Bool) (count : Nat) (members : NameTable Json) :
    Ends kept (addExtras setting set child isNeeded count members) fun result =>
      (EachMember good members.entries → EachMember good result.entries) ∧
      Extends set members result := by
  induction count generalizing members with
  | zero => exact ends_pure ⟨fun h => h, .refl⟩
  | succ count ih =>
    unfold addExtras
    refine (ends_extraProperty hk hr hl hc isNeeded members _).bind fun property? => ?_
    split
    · rename_i name value
      refine (ih (members.insert name value)).mono fun result ⟨hgood, hextends⟩ hproperty => ?_
      obtain ⟨hfree, hvalue⟩ := hproperty _ rfl
      exact ⟨fun hm => hgood (hm.insert hvalue), hextends.of_insert hfree⟩
    · exact ends_pure fun _ => ⟨fun h => h, .refl⟩

/-- The members of an object are as described; some names are there for certain, and other names are
not declared. -/
structure HasMembers (good : String → Json → Prop) (set : Constraints) (names : NameSet)
    (members : NameTable Json) : Prop where
  good : EachMember good members.entries
  chosen : ∀ name ∈ names, members.has name = true
  added : ∀ name, members.has name = true → name ∉ names → set.properties.has name = false

/-- Adding good members keeps what an object has to have. -/
theorem HasMembers.extend {names : NameSet} (h : HasMembers good set names members)
    (hgood : EachMember good members.entries → EachMember good result.entries)
    (he : Extends set members result) : HasMembers good set names result where
  good := hgood h.good
  chosen name hname := he.subset name (h.chosen name hname)
  added name hname hnot := (he.added name hname).elim (fun hm => h.added name hm hnot) fun hd => hd

theorem ends_objectWith_hasMembers (hk : Unaffected kept)
    (hr : MemberRule setting.library fits loose set good)
    (hl : ∀ name, Yields (unknownValue setting.provider (some name)) loose)
    (hc : ∀ node, set.IsChild node → ∀ property, Ends kept (child node property) (fits node))
    (names : NameSet) :
    Ends kept (objectWith setting set child names) (HasMembers good set names) := by
  unfold objectWith
  have hchosen : Ends kept (addProperties setting set child names.toList ∅)
      (HasMembers good set names) := by
    refine (ends_addProperties hk hr hl hc names.toList ∅).mono fun members ⟨hgood, hnames⟩ => ?_
    constructor
    · exact hgood fun _ _ h => by cases h
    · exact fun name hname => (hnames name).mpr (.inl hname)
    · intro name hname hnot
      rcases (hnames name).mp hname with h | h
      · exact absurd h hnot
      · cases h
  have hinvited : Ends kept (invitedExtras set setting.options) fun _ => True := by
    unfold invitedExtras
    split
    · exact ends_draw hk (yields_any _)
    · exact ends_pure trivial
  refine hchosen.bind fun members => hinvited.andThen fun invited => ?_
  refine (ends_addExtras hk hr hl hc _ _ members).bind fun result => ?_
  dsimp only
  split
  · refine (ends_attempt hk (yields_any _)).andThen fun _ => ?_
    exact ends_pure fun h hm => hm.extend h.1 h.2
  · exact ends_pure fun h hm => hm.extend h.1 h.2

/-- An object, whatever is said of its members. -/
theorem ends_object_eachMember (hk : Unaffected kept)
    (hr : MemberRule setting.library fits loose set good)
    (hl : ∀ name, Yields (unknownValue setting.provider (some name)) loose)
    (hc : ∀ node, set.IsChild node → ∀ property, Ends kept (child node property) (fits node)) :
    Ends kept (object setting set child) fun members => EachMember good members.entries := by
  unfold object
  refine (ends_attempt hk (yields_any _)).andThen fun names => ?_
  exact (ends_objectWith_hasMembers hk hr hl hc names).mono fun members h => h.good

/-- An object with some names for certain, the members of which fit their schemas. -/
abbrev IsObjectWith (fits : Pointer → Json → Prop) (set : Constraints) (names : NameSet)
    (members : NameTable Json) : Prop :=
  HasMembers (FitsMember fits set) set names members

/-- An object has the members that it has to have. -/
theorem ends_objectWith (hk : Unaffected kept)
    (hc : ∀ node, set.IsChild node → ∀ property, Ends kept (child node property) (fits node))
    (names : NameSet) :
    Ends kept (objectWith setting set child names) (IsObjectWith fits set names) :=
  ends_objectWith_hasMembers hk memberRule_fitsMember (fun _ => yields_any _) hc names

/-- An object for a schema. -/
theorem ends_object (hk : Unaffected kept)
    (hc : ∀ node, set.IsChild node → ∀ property, Ends kept (child node property) (fits node)) :
    Ends kept (object setting set child) fun members => FitsMembers fits set members.entries :=
  ends_object_eachMember hk memberRule_fitsMember (fun _ => yields_any _) hc

end Specimen.Instance
