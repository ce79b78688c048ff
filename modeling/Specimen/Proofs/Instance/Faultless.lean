import Specimen.Proofs.Instance.Choice
import Specimen.Proofs.Instance.Depth
import Specimen.Proofs.Instance.Fits
import Specimen.Proofs.Instance.Number
import Specimen.Proofs.Instance.Overflow
import Specimen.Proofs.Options
import Specimen.Proofs.Pattern.Library

/-!
# Specimen.Proofs.Instance.Faultless

How a draw of a run may fail (`faults_of_run`). Every range that a number is drawn from holds one, every
list that an element is drawn from has one, and every probability lies in `[0, 1]`. So what is left is
the source of values, the library of regular expressions, and numbers and lengths that a machine
cannot hold (`Setting.Faults`).

What a generator draws from rests on facts that were established before: settled sets of demands
have candidates and kinds to choose from (`Demands.IsSettled`), their steps are positive
(`Document.AsksFor.isStep`), an array with an item for `contains` has an item at all
(`arrayBounds_le`), and the options were validated.
-/

namespace Specimen

/-! ### Settled demands -/

/-- There is something to choose from: sets of demands, and candidates where they are listed. -/
structure Demands.IsSettled (demands : Demands) : Prop where
  choice : ∀ sets, demands = .choice sets → sets ≠ []
  candidates : ∀ set ∈ demands.sets, set.candidates ≠ some []

namespace Normalization

theorem yields_settledDemands (document : Document) (path : List Pointer) (node : Pointer) :
    Yields (settledDemands document path node) Demands.IsSettled := by
  refine (yields_any (alternatives document path [] node)).andThen fun sets => ?_
  refine ends_lift fun demands hdemands => ?_
  constructor
  · intro chosen hchosen
    subst hchosen
    exact sets_ne_nil_of_settle hdemands
  · intro set hset
    obtain ⟨raw, -, hfinal⟩ := mem_sets_of_settle hdemands hset
    exact fun hnil => ((Constraints.settlesTo_of_finalize hfinal).listed [] hnil).1 rfl

/-- What a node demands has been settled when it is used. -/
theorem yields_demandsOn (document : Document) (path : List Pointer) (node : Pointer) :
    Yields (demandsOn document path node) Demands.IsSettled := by
  rw [demandsOn_eq]
  split
  · exact ends_throw
  · exact yields_settledDemands document path node
  · split
    · exact ends_throw
    · split
      · refine ends_pure ⟨?_, ?_⟩
        · exact fun sets hsets => nomatch hsets
        · exact fun set hset => absurd hset List.not_mem_nil
      · exact yields_settledDemands document path node

end Normalization

/-- Some demands that a schema of a document comes down to. -/
def Document.AsksFor (document : Document) (set : Constraints) : Prop :=
  ∃ path node report normalization,
    (Normalization.normalize document path node report).1 = .ok normalization ∧
      set ∈ normalization.demands.sets

namespace Document.AsksFor

variable {document : Document} {set : Constraints}

/-- Demands that are asked for have been settled. -/
theorem exists_finalize (h : document.AsksFor set) : ∃ raw : Constraints, raw.finalize = .ok set := by
  obtain ⟨path, node, report, normalization, hn, hset⟩ := h
  obtain ⟨raw, -, hfinal⟩ := Normalization.exists_alternative hn set hset
  exact ⟨raw, hfinal⟩

/-- Each schema has a positive step if any, and so has what several of them come down to. -/
theorem isStep (h : document.AsksFor set) : ∀ step ∈ set.multipleOf, step.IsStep := by
  obtain ⟨path, node, report, normalization, hn, hset⟩ := h
  obtain ⟨raw, hraw, hfinal⟩ := Normalization.exists_alternative hn set hset
  have hsame : set.multipleOf = raw.multipleOf := by
    rw [(Constraints.settlesTo_of_finalize hfinal).same]
  rw [hsame]
  refine Normalization.Alternative.induct (fun _ set => ∀ step ∈ set.multipleOf, step.IsStep)
    ?any ?owns ?lift ?intersect hraw
  case any => exact fun _ step hstep => nomatch hstep
  case owns =>
    rintro node _ ⟨own, hown, rfl⟩ step hstep
    exact Constraints.isStep_of_readStep (Constraints.isReading_of_ofSchema_eq_ok hown).multipleOf
      step hstep
  case lift => exact fun _ _ _ _ hpart => hpart
  case intersect =>
    intro _ left right _ hleft hright hi step hstep
    obtain ⟨kinds, candidates, -, -, rfl⟩ := Constraints.exists_mergeWith_of_intersect hi
    exact Constraints.isStep_of_merge hleft hright step hstep

end Document.AsksFor

namespace Instance

variable {σ α : Type} {set : Constraints} {faults : Random.Fault → Prop}

/-- A remembered normalization is as good as a new one. -/
theorem yields_normalized (document : Document) (node : Pointer) :
    Yields (normalized document node : Run σ Normalization) fun normalization =>
      normalization.demands.IsSettled ∧
        ∀ set ∈ normalization.demands.sets, document.AsksFor set := by
  intro progress
  have hwalk := Normalization.yields_demandsOn document progress.path node
    ⟨[], progress.report, 0⟩
  refine ⟨fun h => h, fun normalization hn => .inr ?_⟩
  have hnormalize := normalize_of_normalized hn
  refine ⟨?_, fun set hset => ⟨_, _, _, _, hnormalize, hset⟩⟩
  exact (hwalk.2 _ (Normalization.demandsOn_of_normalize hnormalize).1).resolve_left fun hf => hf

/-! ### Faults -/

/-- How a draw of a text for some demands may fail. -/
inductive TextFaults (setting : Setting σ) (set : Constraints) : Random.Fault → Prop
  /-- The source of values fails for the lengths of the text. -/
  | provider {lo hi : Nat} {cause : Random.Fault}
      (hbounds : lengthBounds set setting.options.stringLength = .ok (lo, hi))
      (h : setting.provider.FaultsWithin lo hi cause) : TextFaults setting set cause
  /-- There is no room for the longest text. -/
  | room {lo hi : Nat} (hbounds : lengthBounds set setting.options.stringLength = .ok (lo, hi))
      (h : Random.maxRoom < hi + PlainText.spareRoom) : TextFaults setting set .overflow
  /-- The library of regular expressions fails for the pattern of the text. -/
  | pattern {cause : Random.Fault} (hpattern : set.pattern.isSome)
      (h : setting.library.Faults cause) : TextFaults setting set cause

/-- Some demands ask for more than a machine can hold. -/
inductive MayOverflow (options : Options) (set : Constraints) : Prop
  /-- There is no room for the longest text. -/
  | text {lo hi : Nat} (hbounds : lengthBounds set options.stringLength = .ok (lo, hi))
      (h : Random.maxRoom < hi + PlainText.spareRoom)
  /-- The factors of a fractional step cannot be tried in turn. -/
  | scan {lo hi : Int} {step : Double} (hspan : integerSpan set options.integerRange = .ok (lo, hi))
      (hmultiple : set.multipleOf = some step) (h : ScanOverflows lo hi step)

/-- How a draw of a run may fail. -/
inductive Setting.Faults (setting : Setting σ) : Random.Fault → Prop
  /-- The source of values fails. -/
  | provider {cause : Random.Fault} (h : setting.provider.Faults cause) : Faults setting cause
  /-- The source of values fails for the lengths of a text. -/
  | providerWithin {set : Constraints} {lo hi : Nat} {cause : Random.Fault}
      (hasked : setting.document.AsksFor set)
      (hbounds : lengthBounds set setting.options.stringLength = .ok (lo, hi))
      (h : setting.provider.FaultsWithin lo hi cause) : Faults setting cause
  /-- Too much is asked for. -/
  | overflow {set : Constraints} (hasked : setting.document.AsksFor set)
      (h : MayOverflow setting.options set) : Faults setting .overflow
  /-- The library of regular expressions fails. -/
  | library {cause : Random.Fault} (h : setting.library.Faults cause) : Faults setting cause

theorem Setting.Faults.of_text {setting : Setting σ} {cause : Random.Fault}
    (hasked : setting.document.AsksFor set) (h : TextFaults setting set cause) :
    setting.Faults cause := by
  cases h with
  | provider hbounds h => exact .providerWithin hasked hbounds h
  | room hbounds h => exact .overflow hasked (.text hbounds h)
  | pattern _ h => exact .library h

/-! ### Texts -/

section Texts

theorem failsOnly_drawPatterned {sample : Random.Draw σ String} {faults : Random.Fault → Prop}
    (hs : FailsOnly sample faults) (lo hi : Nat) (last : String) (attempts : Nat) :
    FailsOnly (drawPatterned sample lo hi last attempts) faults := by
  induction attempts generalizing last with
  | zero => exact failsOnly_pure _
  | succ attempts ih =>
    unfold drawPatterned
    refine hs.bind fun text => ?_
    split
    · exact failsOnly_pure _
    · exact ih text

/-- A pattern that cannot be sampled is noted; only its library can be at fault. -/
theorem failsOnly_patterned (setting : Setting σ) (set : Constraints) (pattern : String)
    (lo hi : Nat) :
    FailsOnly (patterned setting set pattern lo hi)
      (Failure.IsFault setting.library.Faults) := by
  unfold patterned
  split
  · exact (failsOnly_record _ _ _).bind fun _ => failsOnly_pure _
  · rename_i sample hsample
    refine (failsOnly_attempt (failsOnly_attemptDraw (failsOnly_drawPatterned
      (Pattern.Library.failsOnly_of_samples? hsample) _ _ _ _)
      fun _ hfaults => hfaults)).bind fun (isFitting, text) => ?_
    dsimp only
    split
    · exact failsOnly_pure _
    · exact (failsOnly_record _ _ _).bind fun _ => failsOnly_pure _

/-- A hint fails only with a fault of its provider. -/
theorem failsOnly_hinted (provider : Provider σ) (hint : String) (lo hi attempts : Nat) :
    FailsOnly (hinted provider hint lo hi attempts) (provider.FaultsWithin lo hi) := by
  induction attempts with
  | zero => exact failsOnly_pure _
  | succ attempts ih =>
    unfold hinted
    refine ((provider.failsOnly_provideWithin hint lo hi).bind fun _ => failsOnly_pure _).bind
      fun text? => ?_
    split
    · exact failsOnly_pure _
    · split
      · exact failsOnly_pure _
      · exact ih

variable (setting : Setting σ)

/-- Where there are lengths to choose from, the schema is not at fault. -/
theorem failsOnly_meaningful {set : Constraints} {lo hi : Nat}
    (hbounds : lengthBounds set setting.options.stringLength = .ok (lo, hi))
    (property : Option String) :
    FailsOnly (meaningful setting set property lo hi)
      (Failure.IsFault (TextFaults setting set)) := by
  have hdraw (hint : String) (attempts : Nat) :
      FailsOnly (Run.draw (hinted setting.provider hint lo hi attempts))
        (Failure.IsFault (TextFaults setting set)) :=
    failsOnly_attempt (failsOnly_attemptDraw
      (failsOnly_hinted setting.provider hint lo hi attempts) fun _ h => .provider hbounds h)
  unfold meaningful
  split
  · rename_i hpattern
    refine (failsOnly_patterned setting set _ lo hi).mono fun failure hfault => ?_
    exact hfault.mono fun _ => .pattern (Option.isSome_of_eq_some hpattern)
  · unfold formatted
    split
    · refine (hdraw _ _).bind fun text? => ?_
      split
      · exact failsOnly_pure _
      · exact (failsOnly_record _ _ _).bind fun _ => failsOnly_pure _
    · exact (failsOnly_record _ _ _).bind fun _ => failsOnly_pure _
  · split
    · exact hdraw _ _
    · exact failsOnly_pure _

variable [Random.Source σ]

/-- With lengths in order, a string fails only with a fault of its text. -/
theorem failsOnly_string_of_lengthBounds {set : Constraints} {lo hi : Nat}
    (hbounds : lengthBounds set setting.options.stringLength = .ok (lo, hi)) (hordered : lo ≤ hi)
    (property : Option String) :
    FailsOnly (string setting set property) (Failure.IsFault (TextFaults setting set)) := by
  unfold string
  rw [hbounds, check_ok_bind]
  refine (failsOnly_meaningful setting hbounds property).bind fun text? => ?_
  split
  · exact failsOnly_pure _
  · refine failsOnly_attempt (failsOnly_attemptDraw (PlainText.failsOnly_draw lo hi) ?_)
    rintro _ ⟨rfl, hroom⟩
    rw [Nat.max_eq_right hordered] at hroom
    exact .room hbounds hroom

/-- The lengths to choose from are in order. -/
theorem lengthBounds_le {set : Constraints} {fallback : Nat × Nat} {lo hi : Nat}
    (h : lengthBounds set fallback = .ok (lo, hi)) : lo ≤ hi := by
  unfold lengthBounds at h
  dsimp only at h
  split at h
  · cases h
  · rename_i hordered
    cases h
    cases hleast : set.minLength with
    | none => exact Nat.min_le_right _ _
    | some least => simpa [hleast] using hordered

/-- A string fails with a fault of its text, or for lengths out of order. -/
theorem failsOnly_string (set : Constraints) (property : Option String) :
    FailsOnly (string setting set property) (Failure.IsExcused (TextFaults setting set)) := by
  cases hbounds : lengthBounds set setting.options.stringLength with
  | error error =>
    intro progress failure hfailure
    unfold string at hfailure
    rw [hbounds, bind_apply] at hfailure
    cases hfailure
    trivial
  | ok bounds =>
    exact (failsOnly_string_of_lengthBounds setting hbounds (lengthBounds_le hbounds) property).mono
      fun _ hfault => hfault.isExcused

/-- A text for a hint, or a short one instead. -/
theorem failsOnly_provideOrText (provider : Provider σ) (hint : String) :
    FailsOnly (provider.provideOrText hint) provider.Faults := by
  have htext : FailsOnly (do return .str (← PlainText.draw 1 16) : Random.Draw σ Json)
      provider.Faults :=
    ((PlainText.total_draw (by decide)).mono fun _ hf => False.elim hf).bind fun _ =>
      failsOnly_pure _
  unfold Provider.provideOrText
  refine (provider.failsOnly_provide hint).bind fun value? => ?_
  split
  · exact failsOnly_pure _
  · exact htext

theorem failsOnly_unknownValue (provider : Provider σ) (property : Option String) :
    FailsOnly (unknownValue provider property) provider.Faults := by
  unfold unknownValue
  split
  · exact failsOnly_provideOrText provider _
  · exact failsOnly_pure _

end Texts

/-! ### Arrays -/

section Arrays

/-- The lengths to choose from are in order, and with `contains` none of them is zero. -/
theorem arrayBounds_le {fallback bounds : Nat × Nat}
    (h : arrayBounds set fallback = .ok bounds) :
    bounds.1 ≤ bounds.2 ∧ (set.contains.isSome = true → 0 < bounds.1) := by
  obtain ⟨hordered, rfl⟩ := span_of_eq_ok h
  refine ⟨Nat.not_lt.mp hordered, fun hcontains => ?_⟩
  dsimp only
  rw [if_pos hcontains]
  exact Nat.lt_of_lt_of_le Nat.zero_lt_one (Nat.le_max_right _ _)

variable {child : Pointer → Run σ Json}

/-- Repeating a draw adds no failure of its own. -/
theorem failsOnly_distinct {known : List String} {draw : Run σ Json}
    (hd : FailsOnly draw (Failure.IsExcused faults)) (item : Json) (attempts : Nat) :
    FailsOnly (distinct known draw item attempts) (Failure.IsExcused faults) := by
  induction attempts generalizing item with
  | zero => exact failsOnly_pure _
  | succ attempts ih =>
    unfold distinct
    split
    · exact hd.bind fun next => ih next
    · exact failsOnly_pure _

theorem failsOnly_itemFrom {draw : Run σ Json} (hd : FailsOnly draw (Failure.IsExcused faults))
    (options : Options) (set : Constraints) (known : List String) :
    FailsOnly (itemFrom options set known draw) (Failure.IsExcused faults) := by
  unfold itemFrom
  split
  · refine hd.bind fun first => (failsOnly_distinct hd first _).bind fun item => ?_
    split
    · exact (failsOnly_record _ _ _).bind fun _ => failsOnly_pure _
    · exact failsOnly_pure _
  · exact hd

/-- Elements fail only as their schemas do. -/
theorem failsOnly_items (hc : ∀ node, FailsOnly (child node) (Failure.IsExcused faults))
    (options : Options) (set : Constraints) (containsAt : Option Nat) (known : List String)
    (index count : Nat) :
    FailsOnly (items options set child containsAt known index count)
      (Failure.IsExcused faults) := by
  induction count generalizing known index with
  | zero => exact failsOnly_pure _
  | succ count ih =>
    have hdraw : FailsOnly (element child (schemaAt? set containsAt index))
        (Failure.IsExcused faults) := by
      cases schemaAt? set containsAt index with
      | none => exact failsOnly_pure _
      | some node => exact hc node
    refine (failsOnly_itemFrom hdraw options set known).bind fun item => ?_
    exact (ih _ _).bind fun rest => failsOnly_pure _

variable [Random.Source σ]

/-- A length is at least the least one. -/
theorem yields_lengthWithin {least greatest : Nat} :
    Yields (lengthWithin least greatest : Run σ Nat) (least ≤ ·) := by
  unfold lengthWithin
  split
  · exact ends_pure (Nat.le_refl _)
  · have hsize : Yields (Random.size least greatest : Random.Draw σ Nat) (least ≤ ·) :=
      (yields_any _).andThen fun _ => ends_pure (Nat.le_add_right _ _)
    exact ends_draw unaffected_false hsize

/-- An array fails for its lengths or as its elements do. -/
theorem failsOnly_array (hc : ∀ node, FailsOnly (child node) (Failure.IsExcused faults))
    (options : Options) (set : Constraints) :
    FailsOnly (array options set child) (Failure.IsExcused faults) := by
  unfold array
  refine (failsOnly_check _).bind_of (yields_check _) ?_
  intro (least, greatest) hbounds
  obtain ⟨hordered, hpos⟩ := arrayBounds_le hbounds
  have hlength : FailsOnly (lengthWithin least greatest : Run σ Nat)
      (Failure.IsExcused faults) := by
    unfold lengthWithin
    split
    · exact failsOnly_pure _
    · exact failsOnly_draw_of_total (Random.total_size hordered)
  refine hlength.bind_of yields_lengthWithin ?_
  intro length hleast
  have hposition : FailsOnly (containsPosition set length : Run σ (Option Nat))
      (Failure.IsExcused faults) := by
    unfold containsPosition
    split
    · rename_i hcontains
      have hlength : 0 < length := Nat.lt_of_lt_of_le (hpos hcontains) hleast
      exact (failsOnly_draw_of_total (Random.total_index hlength)).map some
    · exact failsOnly_pure _
  exact hposition.bind fun containsAt => failsOnly_items hc options set containsAt [] 0 length

end Arrays

/-! ### Objects -/

section Objects

variable {setting : Setting σ} {child : Pointer → Option String → Run σ Json}

theorem failsOnly_drawSample {pattern : String} {maxRepeat : Nat}
    {sample : Random.Draw σ String} (h : setting.library.samples? pattern maxRepeat = some sample) :
    FailsOnly (Run.draw sample) (Failure.IsExcused setting.Faults) :=
  failsOnly_draw ((Pattern.Library.failsOnly_of_samples? h).mono fun _ => .library)

variable [Random.Source σ]

theorem failsOnly_drawUnknown (setting : Setting σ) (property : Option String) :
    FailsOnly (Run.draw (unknownValue setting.provider property))
      (Failure.IsExcused setting.Faults) :=
  failsOnly_draw ((failsOnly_unknownValue setting.provider property).mono fun _ => .provider)

/-- Properties fail only as their schemas do. -/
theorem failsOnly_addProperties
    (hc : ∀ node property, FailsOnly (child node property) (Failure.IsExcused setting.Faults))
    (names : List String) (members : NameTable Json) :
    FailsOnly (addProperties setting set child names members)
      (Failure.IsExcused setting.Faults) := by
  have hvalue (name : String) : FailsOnly (propertyValue setting set child name)
      (Failure.IsExcused setting.Faults) := by
    have hunknown := failsOnly_drawUnknown setting (some name)
    unfold propertyValue
    split
    · exact hc _ _
    · split
      · exact (failsOnly_record _ _ _).bind fun _ => hunknown
      · exact hunknown
  induction names generalizing members with
  | nil => exact failsOnly_pure _
  | cons name rest ih => exact (hvalue name).bind fun _ => ih _

/-- Where there are patterns, one of them can be chosen. -/
theorem failsOnly_patternedProperty (hpatterns : set.patternProperties ≠ [])
    (hc : ∀ node property, FailsOnly (child node property) (Failure.IsExcused setting.Faults))
    (members : NameTable Json) :
    FailsOnly (patternedProperty setting set child members)
      (Failure.IsExcused setting.Faults) := by
  have hlength : 0 < set.patternProperties.length := List.length_pos_iff.mpr hpatterns
  unfold patternedProperty
  refine (failsOnly_draw_of_total (Random.total_index hlength)).bind fun index => ?_
  split
  · exact failsOnly_pure _
  · split
    · exact (failsOnly_record _ _ _).bind fun _ => failsOnly_pure _
    · rename_i sample hsample
      refine (failsOnly_drawSample hsample).bind fun name => ?_
      split
      · exact failsOnly_pure _
      · exact (hc _ _).bind fun _ => failsOnly_pure _

/-- Making up a name fails only as the schema of names or the provider does. -/
theorem failsOnly_madeUpProperty
    (hc : ∀ node property, FailsOnly (child node property) (Failure.IsExcused setting.Faults))
    (members : NameTable Json) :
    FailsOnly (madeUpProperty setting set child members)
      (Failure.IsExcused setting.Faults) := by
  have hname : FailsOnly (madeUpName setting set child) (Failure.IsExcused setting.Faults) := by
    unfold madeUpName
    split
    · exact (hc _ _).bind fun _ => failsOnly_pure _
    · have hword : FailsOnly (setting.provider.provideText "word") setting.Faults :=
        ((failsOnly_provideOrText setting.provider "word").mono fun _ => .provider).bind
          fun _ => failsOnly_pure _
      exact (failsOnly_draw hword).bind fun _ => failsOnly_pure _
  unfold madeUpProperty
  refine hname.bind fun name => ?_
  split
  · exact failsOnly_pure _
  · split
    · exact (hc _ _).bind fun _ => failsOnly_pure _
    · exact (failsOnly_drawUnknown setting (some name)).bind fun _ => failsOnly_pure _

/-- A name is only sampled from a pattern where there are patterns. -/
theorem yields_choosesPattern (set : Constraints) (isNeeded : Bool) :
    Yields (choosesPattern set isNeeded : Run σ Bool) fun usesPattern =>
      usesPattern = true → set.patternProperties ≠ [] := by
  unfold choosesPattern
  split
  · exact ends_pure fun h => nomatch h
  · rename_i hpatterns
    have hne : set.patternProperties ≠ [] := fun h => hpatterns (List.isEmpty_iff.mpr h)
    split
    · exact (yields_any _).mono fun _ _ _ => hne
    · exact ends_pure fun _ => hne

/-- A pattern is only chosen where there is one, so its position can be drawn. -/
theorem failsOnly_extraProperty
    (hc : ∀ node property, FailsOnly (child node property) (Failure.IsExcused setting.Faults))
    (isNeeded : Bool) (members : NameTable Json) (attempts : Nat) :
    FailsOnly (extraProperty setting set child isNeeded members attempts)
      (Failure.IsExcused setting.Faults) := by
  have hchoice : FailsOnly (choosesPattern set isNeeded : Run σ Bool)
      (Failure.IsExcused setting.Faults) := by
    unfold choosesPattern
    split
    · exact failsOnly_pure _
    · split
      · exact failsOnly_draw_of_total Random.total_coin
      · exact failsOnly_pure _
  induction attempts with
  | zero => exact failsOnly_pure _
  | succ attempts ih =>
    unfold extraProperty
    refine hchoice.bind_of (yields_choosesPattern set isNeeded) ?_
    intro usesPattern hpatterns
    have htry : FailsOnly (tryProperty setting set child usesPattern members)
        (Failure.IsExcused setting.Faults) := by
      cases usesPattern with
      | true => exact failsOnly_patternedProperty (hpatterns rfl) hc members
      | false => exact failsOnly_madeUpProperty hc members
    split
    · exact failsOnly_pure _
    · refine htry.bind fun property? => ?_
      split
      · exact failsOnly_pure _
      · exact ih

theorem failsOnly_addExtras
    (hc : ∀ node property, FailsOnly (child node property) (Failure.IsExcused setting.Faults))
    (isNeeded : Bool) (count : Nat) (members : NameTable Json) :
    FailsOnly (addExtras setting set child isNeeded count members)
      (Failure.IsExcused setting.Faults) := by
  induction count generalizing members with
  | zero => exact failsOnly_pure _
  | succ count ih =>
    unfold addExtras
    refine (failsOnly_extraProperty hc isNeeded members _).bind fun property? => ?_
    split
    · exact ih _
    · exact failsOnly_pure _

/-- An object fails for its number of properties or as its properties do. -/
theorem failsOnly_object (valid : setting.options.IsValid)
    (hc : ∀ node property, FailsOnly (child node property) (Failure.IsExcused setting.Faults)) :
    FailsOnly (object setting set child) (Failure.IsExcused setting.Faults) := by
  have hinvited : FailsOnly (invitedExtras set setting.options : Run σ Nat)
      (Failure.IsExcused setting.Faults) := by
    unfold invitedExtras
    split
    · exact failsOnly_draw_of_total (Random.total_size (Nat.zero_le _))
    · exact failsOnly_pure _
  unfold object
  have hnames : FailsOnly (chooseNames setting.document set
      setting.options.optionalPropertyProbability : Attempt σ NameSet)
        (Failure.IsExcused setting.Faults) :=
    (failsOnly_chooseNames _ _ _).mono fun _ hfails => hfails.isExcused valid.probability
  refine (failsOnly_attempt hnames).bind fun names => ?_
  unfold objectWith
  refine (failsOnly_addProperties hc names.toList ∅).bind fun members => ?_
  refine hinvited.bind fun invited => ?_
  refine (failsOnly_addExtras hc _ _ members).bind fun result => ?_
  dsimp only
  split
  · exact (failsOnly_attempt (failsOnly_unsatisfiable _ _)).bind fun _ => failsOnly_pure _
  · exact failsOnly_pure _

end Objects

/-! ### Values -/

variable [Random.Source σ] {setting : Setting σ} {child : Pointer → Option String → Run σ Json}

/-- For demands of the document, an integer fails to be drawn only if the scan overflows. -/
theorem failsOnly_integer (valid : setting.options.IsValid)
    (hrange : Constraints.IsFallback setting.options.integerRange)
    (hasked : setting.document.AsksFor set) (hset : set.IsSettledFor .integer) :
    FailsOnly (integer set setting.options.integerRange setting.options.uniqueAttempts : Attempt σ Int)
      (Failure.IsExcused setting.Faults) := by
  intro source failure hfailure
  cases failure with
  | schema error => trivial
  | fault cause =>
    obtain ⟨lo, hi, hspan, hfaults⟩ := faults_of_integer hset hrange hasked.isStep
      valid.uniqueAttempts source
    obtain ⟨rfl, step, hstep, hscan⟩ := (hfaults cause).mp hfailure
    exact .overflow hasked (.scan hspan hstep hscan)

/-- Each kind of value has its own faults; options that are valid exclude all others. -/
theorem failsOnly_ofKind (valid : setting.options.IsValid)
    (hrange : Constraints.IsFallback setting.options.integerRange)
    (hc : ∀ node property, FailsOnly (child node property) (Failure.IsExcused setting.Faults))
    (hasked : setting.document.AsksFor set) (property : Option String) {kind : Kind}
    (hset : set.IsSettledFor kind) :
    FailsOnly (ofKind setting set property child kind) (Failure.IsExcused setting.Faults) := by
  have hboolean : Total (boolean set : Random.Draw σ Bool) := by
    unfold boolean
    split
    · exact failsOnly_pure _
    · exact Random.total_coin
  cases kind with
  | null => exact failsOnly_pure _
  | boolean => exact (failsOnly_draw_of_total hboolean).bind fun _ => failsOnly_pure _
  | integer =>
    exact (failsOnly_attempt (failsOnly_integer valid hrange hasked hset)).bind
      fun _ => failsOnly_pure _
  | number => exact (failsOnly_attempt (failsOnly_number _ _)).bind fun _ => failsOnly_pure _
  | string =>
    refine ((failsOnly_string setting set property).mono fun _ hfails => ?_).bind
      fun _ => failsOnly_pure _
    exact hfails.mono fun _ => .of_text hasked
  | array =>
    exact (failsOnly_array (fun node => hc node none) _ _).bind fun _ => failsOnly_pure _
  | object => exact (failsOnly_object valid hc).bind fun _ => failsOnly_pure _
  | unknown => exact failsOnly_drawUnknown setting property

/-- Each element of a list that has one is in reach. -/
theorem failsOnly_pick {items : List α} (h : items ≠ []) {allowed : Failure → Prop} :
    FailsOnly (pick items : Run σ α) allowed := by
  have hlength : 0 < items.length := List.length_pos_iff.mpr h
  have hindex : Yields (Run.draw (Random.index items.length) : Run σ Nat) (· < items.length) :=
    ends_draw unaffected_false (Random.yields_index items.length)
  unfold pick
  refine (failsOnly_draw_of_total (Random.total_index hlength)).bind_of hindex ?_
  intro index hindex
  rw [List.getElem?_eq_getElem hindex]
  exact failsOnly_pure _

/-- Repeating a draw until a value is admissible adds no failure of its own. -/
theorem failsOnly_drawAdmissible (valid : setting.options.IsValid)
    (hrange : Constraints.IsFallback setting.options.integerRange)
    (hc : ∀ node property, FailsOnly (child node property) (Failure.IsExcused setting.Faults))
    (hasked : setting.document.AsksFor set) (hcandidates : set.candidates = none)
    (property : Option String) (last : Json) (attempts : Nat) :
    FailsOnly (drawAdmissible setting set property child last attempts)
      (Failure.IsExcused setting.Faults) := by
  induction attempts generalizing last with
  | zero => exact (failsOnly_record _ _ _).bind fun _ => failsOnly_pure _
  | succ attempts ih =>
    unfold drawAdmissible
    refine (failsOnly_pick set.kinds.ne_nil).bind_of (ends_pick unaffected_false _) ?_
    intro kind hkind
    have hset : set.IsSettledFor kind :=
      ⟨hasked.exists_finalize, hcandidates, by simpa [KindSet.contains] using hkind⟩
    refine (failsOnly_ofKind valid hrange hc hasked property hset).bind fun value => ?_
    split
    · exact ih value
    · exact failsOnly_pure _

/-- Demands fail for a reason that is allowed, whether they list their values or not. -/
theorem failsOnly_ofConstraints (valid : setting.options.IsValid)
    (hrange : Constraints.IsFallback setting.options.integerRange)
    (hc : ∀ node property, FailsOnly (child node property) (Failure.IsExcused setting.Faults))
    (hasked : setting.document.AsksFor set) (hlisted : set.candidates ≠ some [])
    (property : Option String) :
    FailsOnly (ofConstraints setting set property child) (Failure.IsExcused setting.Faults) := by
  unfold ofConstraints
  split
  · rename_i candidates hsome
    exact failsOnly_pick fun hnil => hlisted (by rw [hsome, hnil])
  · rename_i hnone
    exact failsOnly_drawAdmissible valid hrange hc hasked hnone property .null _

/-- From a schema on, a run only fails because of the schema or with a fault that is accounted for. -/
theorem failsOnly_value (valid : setting.options.IsValid)
    (hrange : Constraints.IsFallback setting.options.integerRange) (room : Nat) (node : Pointer)
    (property : Option String) :
    FailsOnly (value setting room node property) (Failure.IsExcused setting.Faults) := by
  induction room generalizing node property with
  | zero =>
    refine (failsOnly_countNode _).bind fun _ => ?_
    exact (failsOnly_record _ _ _).bind fun _ => failsOnly_pure _
  | succ room ih =>
    unfold value
    refine (failsOnly_countNode _).bind fun _ => ?_
    refine (failsOnly_normalized _ _).bind_of (yields_normalized _ _) ?_
    intro normalization hnormalized
    obtain ⟨hsettled, hasked⟩ := hnormalized
    have hset (set : Constraints) (hset : set ∈ normalization.demands.sets) :
        FailsOnly (below normalization.entered
          (ofConstraints setting set property (value setting room)))
          (Failure.IsExcused setting.Faults) :=
      failsOnly_below (failsOnly_ofConstraints valid hrange ih (hasked set hset)
        (hsettled.candidates set hset) property) _
    split
    · exact (failsOnly_record _ _ _).bind fun _ => failsOnly_pure _
    · rename_i set hdemands
      exact hset set (by rw [hdemands]; exact List.mem_singleton_self set)
    · rename_i sets hdemands
      refine (failsOnly_pick (hsettled.choice sets hdemands)).bind_of
        (ends_pick unaffected_false sets) ?_
      intro set hmem
      exact hset set (by rw [hdemands]; exact hmem)

end Instance

namespace Generation

open Instance

variable {σ : Type} [Random.Source σ] {setting : Setting σ}

/-- A fault of a run is accounted for. -/
theorem setting_faults_of_run (setting : Setting σ) (valid : setting.options.IsValid)
    (hrange : Constraints.IsFallback setting.options.integerRange) {source : σ}
    {node : Pointer} {seed : UInt64} {fault : Random.Fault}
    (h : run setting source node seed = .error (.fault fault)) : setting.Faults fault := by
  have hfinish := failsOnly_value valid hrange setting.options.maxDepth node none
    (start source node seed) (.fault fault)
  refine hfinish ?_
  change (finish setting source node seed).1 = _
  unfold run at h
  cases hresult : finish setting source node seed with
  | mk outcome progress =>
    rw [hresult] at h
    cases outcome with
    | error failure =>
      cases h
      rfl
    | ok value => cases h

/-- The source of values that comes with the library only adds passwords of the largest length. -/
theorem faults_bundled {locale : Locale} {fault : Random.Fault}
    (h : ({ setting with provider := .bundled locale } : Setting σ).Faults fault) :
    setting.library.Faults fault ∨
      fault = .overflow ∧ ∃ set, setting.document.AsksFor set ∧ MayOverflow setting.options set := by
  cases h with
  | provider h => exact (Provider.not_faults_bundled locale h).elim
  | providerWithin hasked hbounds h =>
    obtain ⟨rfl, hlargest⟩ := Provider.overflow_of_faultsWithin_bundled h
    refine .inr ⟨rfl, _, hasked, .text hbounds ?_⟩
    unfold Random.maxSize at hlargest
    unfold Random.maxRoom
    omega
  | overflow hasked h => exact .inr ⟨rfl, _, hasked, h⟩
  | library h => exact .inl h

/-- **How a draw of a run may fail.** No number is drawn from an empty range, no probability is improper,
and each position that is drawn in a list lies in the list. A run only fails in a draw of its source of
values or of its library of regular expressions; or if some demands of the document ask for a text
that there is no room for, or for multiples of a step so small that their factors cannot be tried in
turn. With the bundled source of values, that source is no case of its own. -/
theorem faults_of_run (valid : setting.options.validate = .ok ())
    (hrange : Constraints.IsFallback setting.options.integerRange) (source : σ) (node : Pointer)
    (seed : UInt64) (fault : Random.Fault) :
    (run setting source node seed = .error (.fault fault) → setting.Faults fault) ∧
    (∀ locale, run { setting with provider := .bundled locale } source node seed =
        .error (.fault fault) → setting.library.Faults fault ∨
      fault = .overflow ∧ ∃ set, setting.document.AsksFor set ∧ MayOverflow setting.options set) ∧
    ∀ (source : σ) (length index : Nat),
      (Random.index length source).1 = .ok index → index < length := by
  have hvalid := Options.validate_eq_ok_iff.mp valid
  refine ⟨setting_faults_of_run setting hvalid hrange, ?_, ?_⟩
  · intro locale hrun
    exact faults_bundled (setting_faults_of_run { setting with provider := .bundled locale } hvalid
      hrange hrun)
  · intro source length index hindex
    exact ((Random.yields_index length source).2 index hindex).resolve_left fun hf => hf

/-- Passwords of the largest length. -/
def longestPasswords : Setting Random.Highest where
  document := .ofJson (.object
    [("type", .str "string"), ("format", .str "password"), ("minLength", .int (2 ^ 64 - 1))])
  options := { Options.default with maxDepth := 1 }
  provider := .bundled .enUS
  library := .bundled

/-- A password of the largest length is asked for, and the length behind it does not exist. -/
theorem faults_of_run_longestPasswords : longestPasswords.options.validate = .ok () ∧
    Constraints.IsFallback longestPasswords.options.integerRange ∧
    run longestPasswords ⟨⟩ .root 0 = .error (.fault .overflow) ∧
    ∃ set, longestPasswords.document.AsksFor set ∧ MayOverflow longestPasswords.options set := by
  have hvalid : longestPasswords.options.validate = .ok () :=
    Options.validate_eq_ok_iff.mpr (Options.isValid_default.withLimits (Nat.succ_ne_zero 0))
  have hrange : Constraints.IsFallback longestPasswords.options.integerRange :=
    ⟨by decide, by decide, by decide⟩
  have hrun : (match run longestPasswords ⟨⟩ .root 0 with
      | .error failure => some failure
      | .ok _ => none) = some (.fault .overflow) := by
    have hroot (path : List Pointer) :=
      Normalization.alternatives.eq_1 longestPasswords.document path [] .root
    have hdepth : longestPasswords.options.maxDepth = 0 + 1 := rfl
    simp only [run, finish, hdepth, Instance.value, normalized_eq, Normalization.normalize,
      Normalization.demandsOn, Normalization.settledDemands, hroot]
    decide +kernel
  have hfault : run longestPasswords ⟨⟩ .root 0 = .error (.fault .overflow) := by
    split at hrun
    · rename_i failure hfailure
      rw [hfailure, Option.some.inj hrun]
    · cases hrun
  obtain ⟨-, hbundled, -⟩ := faults_of_run hvalid hrange ⟨⟩ .root 0 .overflow
  rcases hbundled .enUS hfault with hlibrary | ⟨-, hdemands⟩
  · obtain ⟨hendless, -⟩ := Pattern.Library.stalls_of_faults_bundled hlibrary
    cases hendless
  · exact ⟨hvalid, hrange, hfault, hdemands⟩

end Generation

end Specimen
