import Specimen.Proofs.Instance.Faultless
import Specimen.Proofs.Instance.Keys

/-!
# Specimen.Proofs.Instance.Reaching

Whether an object without further properties gets as many as it needs (`object_reaching`).

Names are added in a random order, each with all that it requires, and a name with which there would
be too many is passed over for good. So the choice may end with too few names that none can be added
to (`IsDeadEnd`), although another choice would have been large enough (`IsAdmissible`). This takes
two names that require each other: of names that do not, one can be added alone
(`IsDeadEnd.exists_entangled`).
-/

namespace Specimen.Instance

open NameSet (Closed LeadsTo closure requiredBy)
open Specimen.Random (Scripted)

variable {σ : Type} {document : Document} {set : Constraints} {optional : List String}
variable {names chosen : NameSet} {name : String}

/-! ### Choices that are large enough, and choices that cannot grow -/

/-- How many properties there have to be. -/
def leastProperties (set : Constraints) : Nat := set.minProperties.getD 0

/-- How many properties there may be. -/
def greatestProperties (set : Constraints) : Nat := set.maxProperties.getD Constraints.maxCount

/-- Declared names that an object may have, and no others. -/
structure IsAdmissible (set : Constraints) (names : NameSet) : Prop where
  declared : ∀ name ∈ names, set.properties.has name = true
  required : ∀ name ∈ set.required, name ∈ names
  closed : Closed set.dependentRequired names
  enough : leastProperties set ≤ names.size
  room : names.size ≤ greatestProperties set

/-- Too few names, while each further declared name would bring too many. -/
structure IsDeadEnd (set : Constraints) (names : NameSet) : Prop where
  choice : IsChoice set names
  few : names.size < leastProperties set
  blocked : ∀ name, set.properties.has name = true → name ∉ names →
    greatestProperties set < (closure set.dependentRequired (names.insert name)).size

/-- There may be as many properties as have to be there. -/
theorem IsAdmissible.forced_size_le (h : IsAdmissible set names) :
    ∀ limit ∈ set.maxProperties, (closure set.dependentRequired set.required).size ≤ limit := by
  intro limit hlimit
  have hroom := h.room
  rw [greatestProperties, hlimit] at hroom
  have hforced : ∀ name ∈ closure set.dependentRequired set.required, name ∈ names :=
    fun _ => NameSet.closure_subset h.closed h.required
  exact Nat.le_trans (NameSet.size_le_of_subset hforced) hroom

/-- A name that could be added alone would end a dead end. -/
theorem IsDeadEnd.exists_required {admissible : NameSet} (h : IsDeadEnd set names)
    (ha : IsAdmissible set admissible) (hname : name ∈ admissible) (hnot : name ∉ names) :
    ∃ other ∈ requiredBy set.dependentRequired name, other ≠ name ∧ other ∉ names := by
  refine Decidable.byContradiction fun hnone => ?_
  have hclosed : Closed set.dependentRequired (names.insert name) := by
    intro source hsource other hother
    rw [NameSet.mem_insert] at hsource ⊢
    rcases hsource with rfl | hsource
    · by_cases hsame : other = source
      · exact .inl hsame
      · exact .inr (Decidable.byContradiction fun hmem => hnone ⟨other, hother, hsame, hmem⟩)
    · exact .inr (h.choice.closed source hsource other hother)
  have hgrown : (closure set.dependentRequired (names.insert name)).size ≤ names.size + 1 := by
    rw [← NameSet.size_insert hnot]
    exact NameSet.size_le_of_subset fun other => NameSet.closure_subset hclosed fun _ hmem => hmem
  have hblocked := h.blocked name (ha.declared name hname) hnot
  have hfew := h.few
  have henough := ha.enough
  have hroom := ha.room
  omega

/-- Behind an admissible name that is missing from a dead end, names require each other. The
induction is on how many names the missing one leads to. -/
theorem IsDeadEnd.entangled_of_mem {admissible : NameSet} (h : IsDeadEnd set names)
    (ha : IsAdmissible set admissible) (hname : name ∈ admissible) (hnot : name ∉ names) :
    ∃ first second, first ≠ second ∧ first ∉ names ∧ second ∉ names ∧
      LeadsTo set.dependentRequired first second ∧ LeadsTo set.dependentRequired second first := by
  induction hsize : (closure set.dependentRequired (.insert ∅ name)).size
    using Nat.strongRecOn generalizing name with
  | ind size ih =>
    obtain ⟨other, hrequired, hne, hnot'⟩ := h.exists_required ha hname hnot
    have hleads : LeadsTo set.dependentRequired name other := .single hrequired
    by_cases hback : LeadsTo set.dependentRequired other name
    · exact ⟨name, other, hne.symm, hnot, hnot', hleads, hback⟩
    · refine ih _ ?_ (ha.closed name hname other hrequired) hnot' rfl
      rw [← hsize]
      have hself : name ∈ closure set.dependentRequired (.insert ∅ name) :=
        NameSet.subset_closure (by simp)
      refine NameSet.size_lt_of_not_mem hself (fun hmem => ?_) fun target htarget => ?_
      · obtain ⟨source, hsource, hpath⟩ := NameSet.mem_closure_iff.mp hmem
        obtain rfl : source = other := by simpa using hsource
        exact hback hpath
      · obtain ⟨source, hsource, hpath⟩ := NameSet.mem_closure_iff.mp htarget
        obtain rfl : source = other := by simpa using hsource
        exact NameSet.mem_closure_iff.mpr ⟨name, by simp, hleads.trans hpath⟩

/-- Beyond a dead end, names require each other. -/
theorem IsDeadEnd.exists_entangled {admissible : NameSet} (h : IsDeadEnd set names)
    (ha : IsAdmissible set admissible) :
    ∃ first second, first ≠ second ∧ first ∉ names ∧ second ∉ names ∧
      LeadsTo set.dependentRequired first second ∧ LeadsTo set.dependentRequired second first := by
  obtain ⟨name, hname, hnot⟩ :=
    NameSet.exists_not_mem_of_size_lt (Nat.lt_of_lt_of_le h.few ha.enough)
  exact h.entangled_of_mem ha hname hnot

/-! ### Where the choice ends -/

/-- A name that is passed over would still bring too many names in the end. -/
theorem blocked_addNames {least greatest : Nat} {addable : List String}
    (h : (addNames set least greatest addable chosen).size < least) (hname : name ∈ addable) :
    name ∈ addNames set least greatest addable chosen ∨
      greatest < (closure set.dependentRequired
        ((addNames set least greatest addable chosen).insert name)).size := by
  induction addable generalizing chosen with
  | nil => cases hname
  | cons first rest ih =>
    unfold addNames at h ⊢
    split at h
    · omega
    · rename_i hfew
      rw [if_neg hfew]
      dsimp only at h ⊢
      rcases List.mem_cons.mp hname with rfl | hname
      · split
        · exact .inl (mem_addNames (NameSet.subset_closure (NameSet.mem_insert.mpr (.inl rfl))))
        · rename_i hbig
          refine .inr (Nat.lt_of_lt_of_le (Nat.lt_of_not_le hbig) (NameSet.size_le_of_subset ?_))
          refine fun other => NameSet.closure_mono fun source hsource => ?_
          rw [NameSet.mem_insert] at hsource ⊢
          exact hsource.imp_right mem_addNames
      · exact ih h hname

variable [Random.Source σ]

/-- The names after growing are enough, or each further optional name would bring too many. -/
theorem yields_extendNames_blocked (optional : List String) (chosen : NameSet) :
    Yields (extendNames set optional chosen : Attempt σ NameSet) fun names =>
      names.size < leastProperties set → ∀ name ∈ optional, name ∉ names →
        greatestProperties set < (closure set.dependentRequired (names.insert name)).size := by
  unfold extendNames leastProperties greatestProperties
  split
  · rename_i hnone
    rw [hnone]
    exact ends_pure fun hfew => absurd hfew (Nat.not_lt_zero _)
  · rename_i least hleast
    rw [hleast]
    refine (yields_attemptDraw (Random.yields_shuffle _)).bind_of fun addable hperm => ?_
    refine ends_pure fun hfew name hname hnot => ?_
    have haddable : name ∈ addable := by
      refine hperm.mem_iff.mpr (List.mem_filter.mpr ⟨hname, ?_⟩)
      exact decide_eq_true fun hchosen => hnot (mem_addNames hchosen)
    exact (blocked_addNames hfew haddable).resolve_left hnot

theorem yields_chooseNames_blocked (document : Document) (set : Constraints)
    (probability : Double) :
    Yields (chooseNames document set probability : Attempt σ NameSet) fun names =>
      names.size < leastProperties set → ∀ name ∈ optionalNames document set, name ∉ names →
        greatestProperties set < (closure set.dependentRequired (names.insert name)).size := by
  unfold chooseNames
  refine (yields_any _).andThen fun drawn => (yields_any _).andThen fun chosen => ?_
  exact yields_extendNames_blocked _ chosen

theorem total_reduceNames
    (h : ∀ limit ∈ set.maxProperties, (closure set.dependentRequired set.required).size ≤ limit) :
    Total (reduceNames set (closure set.dependentRequired set.required) chosen :
      Attempt σ NameSet) := by
  unfold reduceNames
  split
  · exact failsOnly_pure _
  · rename_i limit hlimit
    rw [if_neg (Nat.not_lt_of_le (h limit hlimit))]
    exact (failsOnly_attemptDraw_of_total (Random.total_shuffle _)).bind fun _ => failsOnly_pure _

/-- The choice ends with enough names or in a dead end. -/
theorem exists_chooseNames {probability : Double} {admissible : NameSet}
    (hp : Double.zero ≤ probability ∧ probability ≤ Double.ofNat 1)
    (ha : IsAdmissible set admissible)
    (hopen : ∀ name node, set.properties.get? name = some node →
      (document.fragment node).bool? ≠ some false) (source : σ) :
    ∃ names after, chooseNames document set probability source = (.ok names, after) ∧
      (leastProperties set ≤ names.size ∨ IsDeadEnd set names) := by
  obtain ⟨names, after, hok, hchoice, hblocked⟩ := exists_of_total
    (total_chooseNames document hp ha.forced_size_le)
    ((yields_chooseNames document set probability).and
      (yields_chooseNames_blocked document set probability)) source
  refine ⟨names, after, hok, (Nat.lt_or_ge names.size (leastProperties set)).symm.imp_right ?_⟩
  intro hfew
  refine ⟨hchoice, hfew, fun name hdeclared hnot => hblocked hfew name ?_ hnot⟩
  -- A declared name that is not chosen is optional: it is neither required nor ruled out.
  obtain ⟨node, hnode⟩ := Option.isSome_iff_exists.mp hdeclared
  have hrequired : name ∉ set.required := fun hmem =>
    hnot (hchoice.forced name (NameSet.subset_closure hmem))
  exact mem_optionalNames.mpr ⟨node, hnode, hrequired, hopen name node hnode⟩

/-! ### Every dead end is met -/

omit [Random.Source σ] in
theorem dropNames_of_size_le {limit : Nat} {droppable : List String} (h : chosen.size ≤ limit) :
    dropNames set limit droppable chosen = chosen := by
  cases droppable with
  | nil => rfl
  | cons name rest => exact if_pos h

omit [Random.Source σ] in
/-- Nothing can be added to a dead end. -/
theorem IsDeadEnd.addNames_eq {least : Nat} {addable : List String} (h : IsDeadEnd set chosen)
    (ha : ∀ name ∈ addable, set.properties.has name = true ∧ name ∉ chosen) :
    addNames set least (greatestProperties set) addable chosen = chosen := by
  induction addable with
  | nil => rfl
  | cons name rest ih =>
    obtain ⟨⟨hdeclared, hnot⟩, hrest⟩ := List.forall_mem_cons.mp ha
    unfold addNames
    split
    · rfl
    · dsimp only
      rw [if_neg (Nat.not_le_of_lt (h.blocked name hdeclared hnot)), ih hrest]

theorem IsDeadEnd.size_le {admissible : NameSet} (h : IsDeadEnd set chosen)
    (ha : IsAdmissible set admissible) : chosen.size ≤ greatestProperties set :=
  Nat.le_trans (Nat.le_of_lt h.few) (Nat.le_trans ha.enough ha.room)

/-- A dead end that is drawn stays as it is. -/
theorem IsDeadEnd.yields_reduceNames {admissible : NameSet} (h : IsDeadEnd set chosen)
    (ha : IsAdmissible set admissible) (forced : NameSet) :
    Yields (reduceNames set forced chosen : Attempt σ NameSet) (· = chosen) := by
  have hsize := h.size_le ha
  unfold greatestProperties at hsize
  unfold reduceNames
  split
  · exact ends_pure rfl
  · rename_i limit hlimit
    rw [hlimit, Option.getD_some] at hsize
    have hdrop : Yields (do
        let droppable ← Attempt.draw (Random.shuffle (chosen.toList.filter (· ∉ forced)))
        let kept := dropNames set limit droppable chosen
        return if limit < kept.size then forced else kept : Attempt σ NameSet) (· = chosen) := by
      refine (yields_any _).andThen fun droppable => ends_pure ?_
      rw [dropNames_of_size_le hsize, if_neg (Nat.not_lt_of_le hsize)]
    split
    · exact (yields_any _).andThen fun _ => hdrop
    · exact hdrop

theorem IsDeadEnd.yields_extendNames (h : IsDeadEnd set chosen)
    (ho : ∀ name ∈ optional, set.properties.has name = true) :
    Yields (extendNames set optional chosen : Attempt σ NameSet) (· = chosen) := by
  unfold extendNames
  split
  · exact ends_pure rfl
  · refine (yields_attemptDraw (Random.yields_shuffle _)).bind_of fun addable hperm => ends_pure ?_
    refine h.addNames_eq fun name hname => ?_
    obtain ⟨hoptional, hnot⟩ := List.mem_filter.mp (hperm.mem_iff.mp hname)
    exact ⟨ho name hoptional, of_decide_eq_true hnot⟩

/-- Words with which, for the default probability, some names are drawn and no others. -/
def scriptFor (names : NameSet) (optional : List String) : List UInt32 :=
  optional.flatMap fun name => if name ∈ names then [0, 0] else [0xFFFFFFFF, 0xFFFFFFFF]

theorem chance_scripted (low high : UInt32) (rest : List UInt32) :
    Random.chance (.ofDecimal false 8 (-1)) (⟨low :: high :: rest⟩ : Scripted) =
      (.ok (decide (high.toNat * 2 ^ 32 + low.toNat <
        (Double.ofDecimal false 8 (-1) * Double.ofNat (2 ^ 64)).toUInt64)), ⟨rest⟩) := by
  have hvalid : Double.zero ≤ Double.ofDecimal false 8 (-1) ∧
      Double.ofDecimal false 8 (-1) ≤ Double.ofNat 1 := by decide +kernel
  have huncertain : (Double.ofDecimal false 8 (-1) == Double.ofNat 1) = false := by decide +kernel
  unfold Random.chance
  rw [if_pos hvalid, huncertain]
  rfl

theorem drawNames_scriptFor (names chosen : NameSet) (optional : List String) :
    drawNames (.ofDecimal false 8 (-1)) optional chosen (⟨scriptFor names optional⟩ : Scripted) =
      (.ok (chosen.insertMany (optional.filter (· ∈ names))), ⟨[]⟩) := by
  induction optional generalizing chosen with
  | nil => rfl
  | cons name rest ih =>
    have hlow : decide ((0 : UInt32).toNat * 2 ^ 32 + (0 : UInt32).toNat <
        (Double.ofDecimal false 8 (-1) * Double.ofNat (2 ^ 64)).toUInt64) = true := by
      decide +kernel
    have hhigh : decide ((0xFFFFFFFF : UInt32).toNat * 2 ^ 32 + (0xFFFFFFFF : UInt32).toNat <
        (Double.ofDecimal false 8 (-1) * Double.ofNat (2 ^ 64)).toUInt64) = false := by
      decide +kernel
    unfold drawNames
    rw [bind_apply]
    by_cases hname : name ∈ names
    · have hscript : scriptFor names (name :: rest) = 0 :: 0 :: scriptFor names rest := by
        unfold scriptFor
        rw [List.flatMap_cons, if_pos hname]
        rfl
      rw [hscript, chance_scripted, hlow, List.filter_cons_of_pos (by simpa using hname)]
      exact ih (chosen.insert name)
    · have hscript : scriptFor names (name :: rest) =
          0xFFFFFFFF :: 0xFFFFFFFF :: scriptFor names rest := by
        unfold scriptFor
        rw [List.flatMap_cons, if_neg hname]
        rfl
      rw [hscript, chance_scripted, hhigh, List.filter_cons_of_neg (by simpa using hname)]
      exact ih chosen

/-- Some draws lead to each dead end of declared names. -/
theorem IsDeadEnd.exists_source {admissible : NameSet} (h : IsDeadEnd set names)
    (ha : IsAdmissible set admissible)
    (hopen : ∀ name node, set.properties.get? name = some node →
      (document.fragment node).bool? ≠ some false)
    (hdeclared : ∀ name ∈ names, set.properties.has name = true) :
    ∃ source : Scripted,
      (chooseNames document set (.ofDecimal false 8 (-1)) source).1 = .ok names := by
  let optional := optionalNames document set
  have hdrawn : closure set.dependentRequired
      (set.required.insertMany (optional.filter (· ∈ names))) = names := by
    ext name
    constructor
    · refine NameSet.closure_subset h.choice.closed fun other hother => ?_
      rcases NameSet.mem_insertMany.mp hother with hrequired | hoptional
      · exact h.choice.forced other (NameSet.subset_closure hrequired)
      · exact of_decide_eq_true (List.mem_filter.mp hoptional).2
    · intro hname
      obtain ⟨node, hnode⟩ := Option.isSome_iff_exists.mp (hdeclared name hname)
      refine NameSet.subset_closure (NameSet.mem_insertMany.mpr ?_)
      by_cases hrequired : name ∈ set.required
      · exact .inl hrequired
      · have hoptional := mem_optionalNames.mpr ⟨node, hnode, hrequired, hopen name node hnode⟩
        exact .inr (List.mem_filter.mpr ⟨hoptional, decide_eq_true hname⟩)
  refine ⟨⟨scriptFor names optional⟩, ?_⟩
  have hdraw : Attempt.draw (drawNames (.ofDecimal false 8 (-1)) optional set.required)
      (⟨scriptFor names optional⟩ : Scripted) =
        (.ok (set.required.insertMany (optional.filter (· ∈ names))), ⟨[]⟩) := by
    unfold Attempt.draw
    rw [drawNames_scriptFor]
    rfl
  unfold chooseNames
  rw [bind_apply, hdraw]
  dsimp only
  rw [hdrawn]
  have hextend : Yields (extendNames set optional names : Attempt Scripted NameSet)
      (· = names) := by
    refine h.yields_extendNames fun name hname => ?_
    obtain ⟨node, hnode, -⟩ := mem_optionalNames.mp hname
    exact Option.isSome_iff_exists.mpr ⟨node, hnode⟩
  have hstays : Yields (reduceNames set (closure set.dependentRequired set.required) names >>=
      extendNames set optional : Attempt Scripted NameSet) (· = names) := by
    refine (h.yields_reduceNames ha _).bind_of fun chosen hchosen => ?_
    rw [hchosen]
    exact hextend
  obtain ⟨result, after, hok, hresult⟩ := exists_of_total
    ((total_reduceNames ha.forced_size_le).bind fun chosen => total_extendNames optional chosen)
    hstays ⟨[]⟩
  rw [hok, hresult]

/-! ### Objects without further properties -/

variable {setting : Setting σ} {child : Pointer → Option String → Run σ Json}

theorem extraProperty_eq_none (hforbidden : set.additionalProperties = .forbidden)
    (hpatterns : set.patternProperties = []) (isNeeded : Bool) (members : NameTable Json)
    (attempts : Nat) :
    extraProperty setting set child isNeeded members attempts = pure none := by
  cases attempts with
  | zero => rfl
  | succ attempts =>
    unfold extraProperty choosesPattern permitsMadeUp
    rw [hforbidden, hpatterns]
    rfl

theorem addExtras_eq_pure (hforbidden : set.additionalProperties = .forbidden)
    (hpatterns : set.patternProperties = []) (isNeeded : Bool) (count : Nat)
    (members : NameTable Json) :
    addExtras setting set child isNeeded count members = pure members := by
  cases count with
  | zero => rfl
  | succ count =>
    unfold addExtras
    rw [extraProperty_eq_none hforbidden hpatterns]
    rfl

/-- An object has too few properties. -/
def tooFew (set : Constraints) (count : Nat) : Failure :=
  let least := leastProperties set
  .schema (.unsatisfiable set.pointer
    s!"minProperties {least} cannot be met; only {count} properties could be produced")

/-- The members of an object, before they are counted. -/
def gather (setting : Setting σ) (set : Constraints) (child : Pointer → Option String → Run σ Json)
    (names : NameSet) : Run σ (NameTable Json) := do
  let members ← addProperties setting set child names.toList ∅
  let room := greatestProperties set - members.size
  let needed := leastProperties set - members.size
  let invited ← invitedExtras set setting.options
  addExtras setting set child (0 < needed) (min (max needed invited) room) members

theorem objectWith_eq_gather (names : NameSet) :
    objectWith setting set child names = gather setting set child names >>= fun members =>
      if members.size < leastProperties set then throw (tooFew set members.size)
      else pure members := by
  unfold objectWith gather
  simp only [bind_assoc]
  refine bind_congr fun members => bind_congr fun invited => bind_congr fun result => ?_
  unfold leastProperties
  split
  · funext progress
    rw [bind_apply]
    rfl
  · rfl

theorem gather_eq_addProperties (hforbidden : set.additionalProperties = .forbidden)
    (hpatterns : set.patternProperties = []) (names : NameSet) :
    gather setting set child names = addProperties setting set child names.toList ∅ := by
  have hinvited : invitedExtras set setting.options = (pure 0 : Run σ Nat) := by
    unfold invitedExtras invitesExtras
    rw [hforbidden, hpatterns]
    rfl
  unfold gather
  simp only [hinvited, pure_bind, addExtras_eq_pure hforbidden hpatterns, bind_pure]

/-- Without further properties, only the number of chosen names counts. -/
theorem objectWith_eq (hforbidden : set.additionalProperties = .forbidden)
    (hpatterns : set.patternProperties = []) (names : NameSet) :
    objectWith setting set child names =
      addProperties setting set child names.toList ∅ >>= fun members =>
        if names.size < leastProperties set then throw (tooFew set names.size)
        else pure members := by
  rw [objectWith_eq_gather, gather_eq_addProperties hforbidden hpatterns]
  refine (yields_addProperties_names names).bind_congr fun members hmembers => ?_
  rw [← hmembers, NameTable.size_names]

/-- Once names are chosen, an object is made with them. -/
theorem object_eq_of_chooseNames {progress : Progress σ} {after : σ}
    (child : Pointer → Option String → Run σ Json)
    (h : chooseNames setting.document set setting.options.optionalPropertyProbability
      progress.source = (.ok names, after)) :
    object setting set child progress =
      objectWith setting set child names { progress with source := after } := by
  unfold object
  rw [bind_apply]
  unfold Run.attempt
  rw [h]

/-- **Whether an object without further properties gets enough of them.** If there is an admissible
choice of names, then names are chosen, and unless they are a dead end there are enough of them;
only a dead end makes the object fail for want of properties. A dead end takes two names that require
each other, and every dead end of declared names is met for some draws. -/
theorem object_reaching (child : Pointer → Option String → Run σ Json)
    (valid : setting.options.IsValid)
    (hforbidden : set.additionalProperties = .forbidden) (hpatterns : set.patternProperties = [])
    (hopen : ∀ name node, set.properties.get? name = some node →
      (setting.document.fragment node).bool? ≠ some false)
    (hadmissible : ∃ names, IsAdmissible set names) :
    (∀ progress : Progress σ, ∃ names after,
      chooseNames setting.document set setting.options.optionalPropertyProbability
        progress.source = (.ok names, after) ∧
      ((leastProperties set ≤ names.size ∧
          object setting set child progress =
            addProperties setting set child names.toList ∅ { progress with source := after }) ∨
        (IsDeadEnd set names ∧
          object setting set child progress =
            (addProperties setting set child names.toList ∅ >>= fun _ =>
              throw (tooFew set names.size)) { progress with source := after }))) ∧
    (∀ names, IsDeadEnd set names →
      ∃ first second, first ≠ second ∧ first ∉ names ∧ second ∉ names ∧
        LeadsTo set.dependentRequired first second ∧
        LeadsTo set.dependentRequired second first) ∧
    (∀ names, IsDeadEnd set names → (∀ name ∈ names, set.properties.has name = true) →
      ∃ source : Scripted,
        (chooseNames setting.document set (.ofDecimal false 8 (-1)) source).1 = .ok names) := by
  obtain ⟨admissible, ha⟩ := hadmissible
  refine ⟨fun progress => ?_, fun names h => h.exists_entangled ha,
    fun names h hdeclared => h.exists_source ha hopen hdeclared⟩
  obtain ⟨names, after, hchosen, hend⟩ :=
    exists_chooseNames valid.probability ha hopen progress.source
  have hobject := object_eq_of_chooseNames child hchosen
  refine ⟨names, after, hchosen, hend.imp (fun henough => ⟨henough, ?_⟩) fun hdead => ⟨hdead, ?_⟩⟩
  · rw [hobject, objectWith_eq hforbidden hpatterns]
    simp only [if_neg (Nat.not_lt_of_le henough), bind_pure]
  · rw [hobject, objectWith_eq hforbidden hpatterns]
    simp only [if_pos hdead.few]

/-- Exactly two of three properties, of which the first two require each other. -/
def pairOrSingle : Constraints :=
  { Constraints.any .root with
    properties := .ofList [("a", .root), ("b", .root), ("c", .root)]
    additionalProperties := .forbidden
    dependentRequired := .ofList [("a", .ofList ["b"]), ("b", .ofList ["a"])]
    minProperties := some 2
    maxProperties := some 2 }

/-- The pair is admissible, but once the single name is chosen nothing can be added. -/
theorem object_reaching_pairOrSingle :
    IsAdmissible pairOrSingle (.ofList ["a", "b"]) ∧ IsDeadEnd pairOrSingle (.ofList ["c"]) ∧
      ∃ source : Scripted, (chooseNames withoutOptional.document pairOrSingle
        (.ofDecimal false 8 (-1)) source).1 = .ok (.ofList ["c"]) := by
  have hpair : IsAdmissible pairOrSingle (.ofList ["a", "b"]) := by
    constructor
    · show ∀ name ∈ ["a", "b"], pairOrSingle.properties.has name = true
      decide +kernel
    · exact fun name h => absurd h NameSet.not_mem_empty
    · show ∀ name ∈ ["a", "b"],
        ∀ other ∈ (requiredBy pairOrSingle.dependentRequired name).toList, other ∈ ["a", "b"]
      decide +kernel
    · decide
    · decide
  have hnames {name : String} (h : pairOrSingle.properties.has name = true) :
      name ∈ ["a", "b", "c"] := NameTable.mem_names.mpr h
  have hsingle : IsDeadEnd pairOrSingle (.ofList ["c"]) := by
    refine ⟨⟨?_, fun name h => ?_⟩, by decide, fun name hdeclared hnot => ?_⟩
    · show ∀ name ∈ ["c"],
        ∀ other ∈ (requiredBy pairOrSingle.dependentRequired name).toList, other ∈ ["c"]
      decide +kernel
    · obtain ⟨root, hroot, -⟩ := NameSet.mem_closure_iff.mp h
      exact absurd hroot NameSet.not_mem_empty
    · have hblocked : ∀ name ∈ ["a", "b", "c"], name ∉ ["c"] →
          greatestProperties pairOrSingle <
            (closure pairOrSingle.dependentRequired ((NameSet.ofList ["c"]).insert name)).size := by
        decide +kernel
      exact hblocked name (hnames hdeclared) hnot
  have hopen : ∀ name node, pairOrSingle.properties.get? name = some node →
      (withoutOptional.document.fragment node).bool? ≠ some false := by
    intro name node h
    have hentries : ∀ entry ∈ pairOrSingle.properties.entries,
        (withoutOptional.document.fragment entry.2).bool? ≠ some false := by decide +kernel
    exact hentries (name, node) (Table.mem_of_lookup h)
  have hdeclared : ∀ name ∈ NameSet.ofList ["c"], pairOrSingle.properties.has name = true := by
    show ∀ name ∈ ["c"], pairOrSingle.properties.has name = true
    decide +kernel
  let setting : Setting Random.Highest := { withoutOptional with options := .default }
  have hvalid : setting.options.IsValid := Options.isValid_default
  obtain ⟨-, -, hmet⟩ := object_reaching (fun _ _ => return .null) hvalid rfl rfl hopen ⟨_, hpair⟩
  exact ⟨hpair, hsingle, hmet _ hsingle hdeclared⟩

end Specimen.Instance
