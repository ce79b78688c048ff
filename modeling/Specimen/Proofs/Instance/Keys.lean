import Specimen.Proofs.Instance.Dependents

/-!
# Specimen.Proofs.Instance.Keys

The keys of an object (`keys_of_object`): those that are chosen at first, of which there are no more
than `maxProperties` allows (`yields_chooseNames_size`), and those that are added afterwards.

Each name is added to an object that does not have it, and is not declared. Where further properties
are ruled out it is sampled from one of the patterns. `HasAdded` says this of all added names at
once; one more name keeps it (`HasAdded.cons`).
-/

namespace Specimen.Instance

open Specimen.Random (Highest)

variable {σ : Type} {set : Constraints} {names forced chosen : NameSet} {name : String}
variable {members result : NameTable Json} {value : Json} {origin : String → Prop}
variable {added : List String}
variable [Random.Source σ] {setting : Setting σ} {child : Pointer → Option String → Run σ Json}
variable {progress : Progress σ}

/-! ### The number of chosen names -/

theorem size_addNames_le {least greatest : Nat} {addable : List String}
    (h : chosen.size ≤ greatest) :
    (addNames set least greatest addable chosen).size ≤ greatest := by
  induction addable generalizing chosen with
  | nil => exact h
  | cons name rest ih =>
    unfold addNames
    split
    · exact h
    · refine ih ?_
      split
      · assumption
      · exact h

theorem yields_reduceNames_size :
    Yields (reduceNames set forced chosen : Attempt σ NameSet) fun names =>
      ∀ limit ∈ set.maxProperties, names.size ≤ limit := by
  unfold reduceNames
  split
  · rename_i hnone
    exact ends_pure fun limit hlimit => (nomatch hnone.symm.trans hlimit)
  · rename_i limit hsome
    split
    · exact ends_throw
    · rename_i hforced
      refine (yields_any _).andThen fun droppable => ends_pure fun limit' hlimit => ?_
      cases hsome.symm.trans hlimit
      split <;> omega

theorem yields_extendNames_size {optional : List String}
    (h : ∀ limit ∈ set.maxProperties, chosen.size ≤ limit) :
    Yields (extendNames set optional chosen : Attempt σ NameSet) fun names =>
      ∀ limit ∈ set.maxProperties, names.size ≤ limit := by
  unfold extendNames
  split
  · exact ends_pure h
  · refine (yields_any _).andThen fun addable => ends_pure fun limit hlimit => ?_
    have hlimit' : set.maxProperties.getD Constraints.maxCount = limit := by
      rw [Option.mem_def.mp hlimit, Option.getD_some]
    rw [hlimit']
    exact size_addNames_le (h limit hlimit)

/-- No more names are chosen than there may be properties. -/
theorem yields_chooseNames_size (document : Document) (set : Constraints) (probability : Double) :
    Yields (chooseNames document set probability : Attempt σ NameSet) fun names =>
      ∀ limit ∈ set.maxProperties, names.size ≤ limit := by
  unfold chooseNames
  refine (yields_any _).andThen fun drawn => yields_reduceNames_size.bind_of fun chosen h => ?_
  exact yields_extendNames_size h

/-! ### Names that are added -/

/-- An object has some names and, apart from these, so many added ones; none of the added names is
declared, and each comes from where names may come from. -/
structure HasAdded (set : Constraints) (origin : String → Prop) (names : NameSet)
    (added : List String) (members : NameTable Json) : Prop where
  has_iff : ∀ name, members.has name = true ↔ name ∈ names ∨ name ∈ added
  size_eq : members.size = names.size + added.length
  nodup : added.Nodup
  fresh : ∀ name ∈ added, name ∉ names
  undeclared : ∀ name ∈ added, set.properties.has name = false
  origin : ∀ name ∈ added, origin name

theorem HasAdded.nil : HasAdded set origin members.names [] members where
  has_iff name := by simp [NameTable.mem_names]
  size_eq := NameTable.size_names.symm
  nodup := .nil
  fresh _ h := absurd h List.not_mem_nil
  undeclared _ h := absurd h List.not_mem_nil
  origin _ h := absurd h List.not_mem_nil

theorem mem_names_insert {other : String} :
    other ∈ (members.insert name value).names ↔ other = name ∨ other ∈ members.names := by
  rw [NameTable.mem_names, has_insert, NameTable.mem_names]

/-- A name that is not taken is added before all others. -/
theorem HasAdded.cons (h : HasAdded set origin (members.insert name value).names added result)
    (hfree : isTaken set members name = false) (ho : origin name) :
    HasAdded set origin members.names (name :: added) result := by
  obtain ⟨hnew, hdeclared⟩ := Bool.or_eq_false_iff.mp hfree
  constructor
  · intro other
    rw [h.has_iff, mem_names_insert, List.mem_cons, or_left_comm, or_assoc]
  · rw [h.size_eq, NameTable.size_names, NameTable.size_names, NameTable.size_insert hnew,
      List.length_cons]
    omega
  · refine List.nodup_cons.mpr ⟨fun hmem => ?_, h.nodup⟩
    exact h.fresh name hmem (mem_names_insert.mpr (.inl rfl))
  · refine List.forall_mem_cons.mpr ⟨fun hmem => ?_, fun other hother hmem => ?_⟩
    · simp [NameTable.mem_names.mp hmem] at hnew
    · exact h.fresh other hother (mem_names_insert.mpr (.inr hmem))
  · exact List.forall_mem_cons.mpr ⟨hdeclared, h.undeclared⟩
  · exact List.forall_mem_cons.mpr ⟨ho, h.origin⟩

/-! ### Where added names come from -/

/-- A name can be drawn from one of the patterns of a set. -/
def IsSampled (setting : Setting σ) (set : Constraints) (name : String) : Prop :=
  ∃ entry ∈ set.patternProperties, ∃ sample,
    setting.library.samples? entry.1 setting.options.patternMaxRepeat = some sample ∧
      ∃ source : σ, (sample source).1 = .ok name

theorem yields_patternedProperty_sampled (members : NameTable Json) :
    Yields (patternedProperty setting set child members) fun property? =>
      ∀ property ∈ property?, IsSampled setting set property.1 := by
  unfold patternedProperty
  refine (yields_any _).andThen fun index => ?_
  split
  · exact ends_pure (by simp)
  · rename_i pattern node hentry
    split
    · exact (yields_any _).andThen fun _ => ends_pure (by simp)
    · rename_i sample hsample
      have hname : Yields (Run.draw sample) (IsSampled setting set) := by
        refine ends_draw unaffected_false fun source => ⟨fun hf => hf, fun name hname => .inr ?_⟩
        exact ⟨(pattern, node), List.mem_of_getElem? hentry, sample, hsample, source, hname⟩
      refine hname.bind_of fun name hname => ?_
      split
      · exact ends_pure (by simp)
      · refine (yields_any _).andThen fun value => ends_pure fun property hp => ?_
        cases hp
        exact hname

/-- Where further properties are ruled out, no names are made up. -/
theorem yields_extraProperty_sampled (hf : set.additionalProperties = .forbidden)
    (isNeeded : Bool) (members : NameTable Json) (attempts : Nat) :
    Yields (extraProperty setting set child isNeeded members attempts) fun property? =>
      ∀ property ∈ property?, IsSampled setting set property.1 := by
  have hnone : permitsMadeUp set isNeeded = false := by
    unfold permitsMadeUp
    rw [hf]
  induction attempts with
  | zero => exact ends_pure (by simp)
  | succ attempts ih =>
    unfold extraProperty
    refine (yields_any _).andThen fun usesPattern => ?_
    rw [hnone]
    cases usesPattern with
    | false => exact ends_pure (by simp)
    | true =>
      refine (yields_patternedProperty_sampled members).bind_of fun property? hsampled => ?_
      split
      · exact ends_pure hsampled
      · exact ih

/-- A further property stands under a free name; where further properties are ruled out, that name is
sampled. -/
theorem yields_extraProperty (isNeeded : Bool) (members : NameTable Json) (attempts : Nat) :
    Yields (extraProperty setting set child isNeeded members attempts) fun property? =>
      ∀ property ∈ property?, isTaken set members property.1 = false ∧
        (set.additionalProperties = .forbidden → IsSampled setting set property.1) := by
  have hfree : Yields (extraProperty setting set child isNeeded members attempts)
      fun property? => ∀ property ∈ property?,
        IsAddable (FitsMember (fun _ _ => True) set) set members property :=
    ends_extraProperty unaffected_false memberRule_fitsMember (fun _ => yields_any _)
      (fun _ _ _ => yields_any _) isNeeded members attempts
  have hsampled : Yields (extraProperty setting set child isNeeded members attempts)
      fun property? => set.additionalProperties = .forbidden →
        ∀ property ∈ property?, IsSampled setting set property.1 :=
    Ends.of_known (yields_any _) fun hf => yields_extraProperty_sampled hf isNeeded members attempts
  refine (hfree.and hsampled).mono fun property? ⟨haddable, hknown⟩ property hp => ?_
  exact ⟨(haddable property hp).1, fun hf => hknown hf property hp⟩

theorem yields_addExtras (isNeeded : Bool) (count : Nat) (members : NameTable Json) :
    Yields (addExtras setting set child isNeeded count members) fun result =>
      ∃ added, added.length ≤ count ∧
        HasAdded set (fun name => set.additionalProperties = .forbidden →
          IsSampled setting set name) members.names added result := by
  induction count generalizing members with
  | zero => exact ends_pure ⟨[], Nat.le_refl 0, .nil⟩
  | succ count ih =>
    unfold addExtras
    refine (yields_extraProperty isNeeded members _).bind_of fun property? hproperty => ?_
    split
    · rename_i name value
      obtain ⟨hfree, hsampled⟩ := hproperty _ rfl
      refine (ih (members.insert name value)).mono fun result ⟨added, hcount, hadded⟩ => ?_
      exact ⟨name :: added, Nat.succ_le_succ hcount, hadded.cons hfree hsampled⟩
    · exact ends_pure ⟨[], Nat.zero_le _, .nil⟩

theorem yields_invitedExtras (options : Options) :
    Yields (invitedExtras set options : Run σ Nat) (· ≤ options.maxExtraProperties) := by
  unfold invitedExtras
  split
  · exact (ends_draw unaffected_false (Random.yields_size _ _)).mono fun _ h => h.2
  · exact ends_pure (Nat.zero_le _)

/-! ### The keys of an object -/

/-- The keys of an object that has some names for certain, and more for want of properties or because
they are invited. -/
structure HasKeys (setting : Setting σ) (set : Constraints) (names : NameSet) (added : List String)
    (members : NameTable Json) : Prop extends
    HasAdded set (fun name => set.additionalProperties = .forbidden → IsSampled setting set name)
      names added members where
  few : added.length ≤
    max (set.minProperties.getD 0 - names.size) setting.options.maxExtraProperties
  enough : ∀ least ∈ set.minProperties, least ≤ members.size
  room : ∀ limit ∈ set.maxProperties, members.size ≤ limit

/-- A property is added under each of the chosen names. -/
theorem yields_addProperties_names (names : NameSet) :
    Yields (addProperties setting set child names.toList ∅) fun members =>
      members.names = names := by
  refine Ends.mono (ends_addProperties unaffected_false memberRule_fitsMember
    (fun _ => yields_any _) (fun _ _ _ => yields_any _) names.toList ∅) fun members h => ?_
  ext name
  rw [NameTable.mem_names, h.2]
  simp [NameTable.has]

theorem yields_objectWith (hn : ∀ limit ∈ set.maxProperties, names.size ≤ limit) :
    Yields (objectWith setting set child names) fun members =>
      ∃ added, HasKeys setting set names added members := by
  unfold objectWith
  refine (yields_addProperties_names names).bind_of fun members hmembers => ?_
  subst hmembers
  refine (yields_invitedExtras _).bind_of fun invited hinvited => ?_
  refine (yields_addExtras _ _ members).bind_of fun result hextras => ?_
  obtain ⟨added, hcount, hadded⟩ := hextras
  have hsize := hadded.size_eq
  rw [NameTable.size_names] at hsize
  have hkeys (henough : set.minProperties.getD 0 ≤ result.size) :
      HasKeys setting set members.names added result := by
    refine ⟨hadded, ?_, ?_, ?_⟩
    · rw [NameTable.size_names]
      omega
    · intro least hleast
      rwa [Option.mem_def.mp hleast] at henough
    · intro limit hlimit
      have hnames := hn limit hlimit
      rw [NameTable.size_names] at hnames
      rw [Option.mem_def.mp hlimit, Option.getD_some] at hcount
      omega
  dsimp only
  split
  · -- There are too few properties, so there is no object.
    have hfail (message : String) : Yields (Run.attempt (unsatisfiable set.pointer message) :
        Run σ Unit) fun _ => False :=
      ends_attempt unaffected_false ends_throw
    exact (hfail _).bind_of fun _ hf => hf.elim
  · exact ends_pure ⟨added, hkeys (by omega)⟩

/-- **The keys of an object.** They are the chosen names, with all that is required among them, and
added ones, of which there are no more than the chosen ones leave to be desired or than may be added
without need. -/
theorem keys_of_object (h : (object setting set child progress).1 = .ok members) :
    ∃ (names : NameSet) (added : List String),
      (Run.attempt (chooseNames setting.document set
        setting.options.optionalPropertyProbability) progress).1 = .ok names ∧
      HasKeys setting set names added members ∧
      ∀ name ∈ set.required, members.has name = true := by
  obtain ⟨names, after, hnames, hobject⟩ := exists_names_of_object h
  have hchosen : (Run.attempt (chooseNames setting.document set
      setting.options.optionalPropertyProbability) progress).1 = .ok names := by
    rw [hnames]
  have hchoice : IsChoice set names :=
    Yields.of_eq_ok (ends_attempt unaffected_false (yields_chooseNames _ _ _)) hchosen
  have hsize : ∀ limit ∈ set.maxProperties, names.size ≤ limit :=
    Yields.of_eq_ok (ends_attempt unaffected_false (yields_chooseNames_size _ _ _)) hchosen
  obtain ⟨added, hkeys⟩ := (yields_objectWith hsize).of_eq_ok hobject
  refine ⟨names, added, hchosen, hkeys, fun name hname => ?_⟩
  exact (hkeys.has_iff name).mpr (.inl (hchoice.forced name (NameSet.subset_closure hname)))

/-- Exactly two properties, one of them required and the other one under a sampled name. -/
def sampledNext : Constraints :=
  { Constraints.any .root with
    patternProperties := [("^a$", Pointer.root.push "a")]
    additionalProperties := .forbidden
    required := .ofList ["b"]
    minProperties := some 2
    maxProperties := some 2 }

/-- The required property `b` and the added property `a`, the name of which is sampled. -/
theorem keys_sampledNext :
    ∃ (members : NameTable Json) (names : NameSet) (added : List String),
      (object withoutOptional sampledNext (fun _ _ => return .null) fromHighest).1 = .ok members ∧
      HasKeys withoutOptional sampledNext names added members ∧ added.length = 1 ∧
      members.has "b" = true ∧ ∀ name ∈ added, IsSampled withoutOptional sampledNext name := by
  have hrun : (object withoutOptional sampledNext (fun _ _ => return .null)
      fromHighest).1.toOption.map (·.names) = some (.ofList ["a", "b"]) := by
    decide +kernel
  have hnames : (Run.attempt (chooseNames withoutOptional.document sampledNext
      withoutOptional.options.optionalPropertyProbability) fromHighest).1.toOption =
        some (.ofList ["b"]) := by
    decide +kernel
  obtain ⟨members, hok, hmembers⟩ := exists_eq_ok_of_map_toOption hrun
  obtain ⟨names, added, hchosen, hkeys, hrequired⟩ := keys_of_object hok
  obtain rfl : names = .ofList ["b"] :=
    Except.ok.inj (hchosen.symm.trans (eq_ok_of_toOption hnames))
  have hlength : added.length = 1 := by
    have hsize := hkeys.size_eq
    rw [← NameTable.size_names, hmembers] at hsize
    exact Nat.add_left_cancel hsize.symm
  exact ⟨members, _, added, hok, hkeys, hlength, hrequired "b" (by decide),
    fun name hname => hkeys.origin name hname rfl⟩

end Specimen.Instance
