import Specimen.Proofs.Instance.Fits
import Specimen.Proofs.Instance.Step
import Specimen.Proofs.Normalization.Origin
import Specimen.Proofs.Options

/-!
# Specimen.Proofs.Instance.Limits

What the limits of a run do: nothing, until they are reached.

* `run_withBudget` — a budget leaves a run alone that stays within it, and makes every other one
  fail;
* `run_withMaxDepth` — a run that was not cut off is the same with every greatest depth beyond the
  one that it has reached.

Both compare a run with the same run under a limit (`Curtails`). The limit is a property of reports
that is never regained once it is lost (`IsLimit`); so a run whose report has it in the end had it
all the way, and up to there the two runs agree step by step.

The greatest depth limits a run through the room that is left to it. The room and the depth that is
counted add up to the greatest depth, so a run that goes by the depth is the same
(`finish_eq_valueByDepth`).
-/

namespace Specimen

namespace Instance

variable {σ α β : Type} {within : Report → Prop} {stop : Option Failure} {depth : Nat}

/-! ### Limits -/

/-- A property of reports that is not regained once it is lost. If runs fail on losing it, then only
counting a value loses it. -/
structure IsLimit (within : Report → Prop) (stop : Option Failure) : Prop where
  back : ∀ {before after : Report}, before.Grows after → within after → within before
  stay : stop ≠ none → ∀ {before after : Report},
    after.nodesGenerated = before.nodesGenerated → within before → within after

/-- A budget: runs fail as soon as they exceed it. -/
theorem isLimit_budget (limit : Nat) :
    IsLimit (fun report => report.nodesGenerated ≤ limit)
      (some (.schema (.budgetExceeded limit))) where
  back hgrows hafter := Nat.le_trans hgrows.nodes hafter
  stay _ _ _ hsame hbefore := Nat.le_trans (Nat.le_of_eq hsame) hbefore

/-- Staying above a depth without being cut off. -/
def StaysAbove (limit : Nat) (report : Report) : Prop :=
  report.has .depthTruncated = false ∧ report.maxDepthReached < limit

theorem isLimit_staysAbove (limit : Nat) : IsLimit (StaysAbove limit) none where
  back := by
    intro before after hgrows hafter
    refine ⟨?_, Nat.lt_of_le_of_lt hgrows.depth hafter.2⟩
    cases hbefore : before.has .depthTruncated with
    | false => rfl
    | true => rw [← hafter.1, hgrows.issues _ hbefore]
  stay h := absurd rfl h

/-! ### Two runs -/

/-- A run is at a depth, and its report tells of it. -/
structure AtDepth (depth : Nat) (progress : Progress σ) : Prop where
  here : progress.depth = depth
  reached : depth ≤ progress.report.maxDepthReached

theorem unaffected_atDepth : Unaffected (AtDepth depth : Progress σ → Prop) where
  source _ _ h := ⟨h.here, h.reached⟩
  record _ _ _ _ h := ⟨h.here, h.reached⟩
  count _ _ h := ⟨h.here, h.reached⟩

/-- How a part of a run goes on from a state, and how it goes on under a limit: if the report is
within the limit in the end, it was so at first, and both do the same. If the limit is exceeded on
the way, the part under the limit fails with `stop`, provided that this is given. -/
structure CurtailedAt (within : Report → Prop) (stop : Option Failure) (depth : Nat)
    (part limited : Run σ α) (progress : Progress σ) : Prop where
  atDepth : AtDepth depth (part progress).2
  back : within (part progress).2.report → within progress.report
  same : within (part progress).2.report → limited progress = part progress
  stops : within progress.report → ¬within (part progress).2.report →
    ∀ failure ∈ stop, (limited progress).1 = .error failure

/-- A part of a run and the same part under a limit, wherever they start at a depth. -/
def Curtails (within : Report → Prop) (stop : Option Failure) (depth : Nat) (α : Type)
    (part limited : Run σ α) : Prop :=
  ∀ progress, AtDepth depth progress → CurtailedAt within stop depth part limited progress

/-- A part that takes no notice of limits. -/
theorem curtails_same (hl : IsLimit within stop) {part : Run σ α}
    (hdepth : ∀ progress, AtDepth depth progress → AtDepth depth (part progress).2)
    (hgrows : ∀ progress : Progress σ, progress.report.Grows (part progress).2.report)
    (hnodes : stop ≠ none → ∀ progress,
      (part progress).2.report.nodesGenerated = progress.report.nodesGenerated) :
    Curtails within stop depth α part part := by
  intro progress hat
  refine ⟨hdepth progress hat, hl.back (hgrows progress), fun _ => rfl, ?_⟩
  intro hbefore hafter failure hfailure
  have hstop : stop ≠ none := Option.ne_none_iff_exists'.mpr ⟨failure, hfailure⟩
  exact absurd (hl.stay hstop (hnodes hstop progress) hbefore) hafter

theorem Curtails.bind {part limited : Run σ α} {next following : α → Run σ β}
    (h : Curtails within stop depth α part limited)
    (hn : ∀ a, Curtails within stop depth β (next a) (following a)) :
    Curtails within stop depth β (part >>= next) (limited >>= following) := by
  intro progress hat
  obtain ⟨hdepth, hback, hsame, hstops⟩ := h progress hat
  cases hpart : part progress with
  | mk outcome after =>
    rw [hpart] at hdepth hback hsame hstops
    cases outcome with
    | error error =>
      constructor <;> rw [bind_apply part, hpart]
      · exact hdepth
      · exact hback
      · intro hafter
        rw [bind_apply, hsame hafter]
      · intro hbefore hafter failure hfailure
        exact bind_fst_of_error (hstops hbefore hafter failure hfailure)
    | ok a =>
      have hnext := hn a after hdepth
      constructor <;> rw [bind_apply part, hpart]
      · exact hnext.atDepth
      · exact fun hlast => hback (hnext.back hlast)
      · intro hlast
        -- The limit holds in the end, so it held in the middle.
        rw [bind_apply, hsame (hnext.back hlast)]
        exact hnext.same hlast
      · intro hbefore hlast failure hfailure
        by_cases hafter : within after.report
        · rw [bind_apply, hsame hafter]
          exact hnext.stops hafter hlast failure hfailure
        · exact bind_fst_of_error (hstops hbefore hafter failure hfailure)

/-- Draws and issues take no notice of limits. -/
theorem congruent_curtails (hl : IsLimit within stop) :
    Congruent (Curtails within stop depth : (α : Type) → Run σ α → Run σ α → Prop) where
  attempt α attempt := by
    refine curtails_same hl (fun progress hat => ?_) (fun progress => .refl _) fun _ _ => rfl
    exact unaffected_atDepth.source progress _ hat
  record code node message := by
    refine curtails_same hl (fun progress hat => ?_) (fun progress => ?_) fun _ _ => rfl
    · exact unaffected_atDepth.record progress code node.text message hat
    · exact (Report.Grows.refl _).record
  bind := Curtails.bind

theorem curtails_normalized (hl : IsLimit within stop) (document : Document) (node : Pointer) :
    Curtails within stop depth _ (normalized document node : Run σ Normalization)
      (normalized document node) := by
  have hnormalize (progress : Progress σ) :=
    Normalization.grows_normalize document progress.path node progress.report
  refine curtails_same hl (fun progress hat => ⟨hat.here, ?_⟩)
    (fun progress => (hnormalize progress).1) fun _ progress => (hnormalize progress).2
  exact Nat.le_trans hat.reached (hnormalize progress).1.depth

/-- One level further down, the report is within the limit as before unless the depth itself
matters. -/
theorem curtails_below (hl : IsLimit within stop) {part limited : Run σ α}
    (h : Curtails within stop (depth + 1) α part limited) (entered : List Pointer) :
    Curtails within stop depth α (below entered part) (below entered limited) := by
  intro progress hat
  have hdescend : AtDepth (depth + 1) (progress.descend entered) := by
    obtain ⟨rfl, hreached⟩ := hat
    exact ⟨rfl, Nat.le_max_right _ _⟩
  have hgrows : progress.report.Grows (progress.descend entered).report :=
    ⟨Nat.le_refl _, Nat.le_max_left _ _, fun _ h => h⟩
  obtain ⟨hdepth, hback, hsame, hstops⟩ := h _ hdescend
  constructor
  · constructor
    · show (part (progress.descend entered)).2.depth - 1 = depth
      rw [hdepth.here, Nat.add_sub_cancel]
    · exact Nat.le_of_succ_le hdepth.reached
  · exact fun hafter => hl.back hgrows (hback hafter)
  · intro hafter
    show below entered limited progress = below entered part progress
    unfold below
    rw [hsame hafter]
  · intro hbefore hafter failure hfailure
    have hstop : stop ≠ none := Option.ne_none_iff_exists'.mpr ⟨failure, hfailure⟩
    have hnodes : (progress.descend entered).report.nodesGenerated =
        progress.report.nodesGenerated := rfl
    exact hstops (hl.stay hstop hnodes hbefore) hafter failure hfailure

/-! ### Counting values -/

/-- Counting a value with a budget and without one. -/
theorem curtails_countNode_budget (limit : Nat) :
    Curtails (fun report => report.nodesGenerated ≤ limit)
      (some (.schema (.budgetExceeded limit))) depth _ (countNode none : Run σ Unit)
      (countNode (some limit)) := by
  intro progress hat
  have hnodes : ((countNode none : Run σ Unit) progress).2.report.nodesGenerated =
      progress.report.nodesGenerated + 1 := rfl
  constructor
  · exact unaffected_atDepth.count progress _ hat
  · intro hafter
    rw [hnodes] at hafter
    omega
  · intro hafter
    rw [hnodes] at hafter
    rw [countNode_some, if_neg (by omega)]
  · intro _ hafter failure hfailure
    rw [hnodes] at hafter
    obtain rfl := Option.some.inj hfailure
    rw [countNode_some, if_pos (by omega)]

/-- Counting a value takes no notice of a limit on which runs do not fail. -/
theorem curtails_countNode (hl : IsLimit within none) (budget : Option Nat) :
    Curtails within none depth _ (countNode budget : Run σ Unit) (countNode budget) := by
  refine curtails_same hl ?_ ?_ fun h => absurd rfl h
  · intro progress hat
    exact (ends_countNode unaffected_atDepth budget progress).1 hat
  · intro progress
    rw [report_countNode]
    exact ⟨Nat.le_succ _, Nat.le_refl _, fun _ h => h⟩

/-- The value where a run is cut off takes no notice of limits. -/
theorem curtails_terminal (hl : IsLimit within stop) (node : Pointer) (message : String)
    (value : Json) :
    Curtails within stop depth _ (do record .depthTruncated node message; return value : Run σ Json)
      (do record .depthTruncated node message; return value) :=
  ((congruent_curtails hl).record _ _ _).bind fun _ => (congruent_curtails hl).pure _

/-- Where a run is cut off, nothing is said about any other run. -/
theorem curtails_truncated {limit : Nat} (node : Pointer) (message : String) (value : Json)
    (limited : Run σ Json) :
    Curtails (StaysAbove limit) none depth _
      (do record .depthTruncated node message; return value) limited := by
  intro progress hat
  have hcut : ¬StaysAbove limit
      (progress.report.record .depthTruncated node.text message) := by
    intro habove
    have htruncated : (progress.report.record .depthTruncated node.text message).has
        .depthTruncated = true := Report.has_record_self
    rw [habove.1] at htruncated
    cases htruncated
  constructor
  · exact unaffected_atDepth.record progress .depthTruncated node.text message hat
  · exact fun hafter => absurd hafter hcut
  · exact fun hafter => absurd hafter hcut
  · exact fun _ _ failure hfailure => by cases hfailure

/-! ### Values -/

variable [Random.Source σ] (setting : Setting σ) (maxDepth : Nat) {nodeBudget : Option Nat}

/-- A value for a schema, if counting it and the values for the schemas one level further down are
curtailed. -/
theorem curtails_value_succ (hl : IsLimit within stop)
    (hcount : Curtails within stop depth _ (countNode setting.options.nodeBudget : Run σ Unit)
      (countNode nodeBudget))
    {room other : Nat}
    (hchild : ∀ node property, Curtails within stop (depth + 1) _ (value setting room node property)
      (value (setting.withLimits maxDepth nodeBudget) other node property))
    (node : Pointer) (property : Option String) :
    Curtails within stop depth _ (value setting (room + 1) node property)
      (value (setting.withLimits maxDepth nodeBudget) (other + 1) node property) := by
  have hr (depth : Nat) :
      Congruent (Curtails within stop depth : (α : Type) → Run σ α → Run σ α → Prop) :=
    congruent_curtails hl
  have hset (set : Constraints) (entered : List Pointer) :
      Curtails within stop depth _
        (below entered (ofConstraints setting set property (value setting room)))
        (below entered (ofConstraints (setting.withLimits maxDepth nodeBudget) set property
          (value (setting.withLimits maxDepth nodeBudget) other))) :=
    curtails_below hl (related_ofConstraints (hr _) rfl (fun node _ => hchild node) property) entered
  unfold value
  refine hcount.bind fun _ => ?_
  refine (curtails_normalized hl setting.document node).bind fun normalization => ?_
  cases normalization.demands with
  | cycle target => exact ((hr _).record _ _ _).bind fun _ => (hr _).pure _
  | single set => exact hset set normalization.entered
  | choice sets => exact (related_pick (hr _) sets).bind fun set => hset set normalization.entered

/-! ### The depth that is counted -/

/-- A value for a schema as `value` gives it, where the depth that is counted on the way down is
compared with the greatest one; there are at most so many levels. -/
def valueByDepth (setting : Setting σ) :
    (levels : Nat) → (node : Pointer) → (property : Option String) → Run σ Json
  | 0, _, _ => throw (.fault .overflow)
  | levels + 1, node, property => do
    countNode setting.options.nodeBudget
    if setting.options.maxDepth ≤ (← get).depth then
      record .depthTruncated node
        s!"depth limit {setting.options.maxDepth} reached; terminal value used"
      return terminalValue setting.document node
    else do
      let normalization ← normalized setting.document node
      match normalization.demands with
      | .cycle target =>
        record .cycleBroken node s!"reference to {target} re-enters the current path"
        return terminalValue setting.document target
      | .single set =>
        below normalization.entered
          (ofConstraints setting set property (valueByDepth setting levels))
      | .choice sets => do
        let set ← pick sets
        below normalization.entered
          (ofConstraints setting set property (valueByDepth setting levels))

omit [Random.Source σ] in
/-- At a depth, a test of the depth has one outcome. -/
theorem Curtails.test {greatest : Nat} {part limited other : Run σ α}
    (h : Curtails within stop depth α part (if greatest ≤ depth then limited else other)) :
    Curtails within stop depth α part
      (do if greatest ≤ (← get).depth then limited else other) := by
  intro progress hat
  have htest : (do if greatest ≤ (← get).depth then limited else other : Run σ α) progress =
      (if greatest ≤ depth then limited else other) progress := by
    show (if greatest ≤ progress.depth then limited else other) progress = _
    rw [hat.here]
  obtain ⟨hdepth, hback, hsame, hstops⟩ := h progress hat
  refine ⟨hdepth, hback, fun hafter => htest.trans (hsame hafter), ?_⟩
  rw [htest]
  exact hstops

theorem curtails_valueByDepth (room levels : Nat)
    (hroom : depth + room = setting.options.maxDepth) (hlevels : room < levels) (node : Pointer)
    (property : Option String) :
    Curtails (fun _ => True) none depth _ (value setting room node property)
      (valueByDepth setting levels node property) := by
  have hl : IsLimit (fun _ => True) none := ⟨fun _ _ => trivial, fun h => absurd rfl h⟩
  have hr (depth : Nat) := @congruent_curtails σ (fun _ => True) none depth hl
  induction room generalizing depth levels node property with
  | zero =>
    obtain ⟨levels, rfl⟩ := Nat.exists_eq_succ_of_ne_zero (Nat.ne_zero_of_lt hlevels)
    refine (curtails_countNode hl _).bind fun _ => Curtails.test ?_
    have hreached : setting.options.maxDepth ≤ depth := Nat.le_of_eq hroom.symm
    rw [if_pos hreached]
    exact curtails_terminal hl _ _ _
  | succ room ih =>
    obtain ⟨levels, rfl⟩ := Nat.exists_eq_succ_of_ne_zero (Nat.ne_zero_of_lt hlevels)
    have hchild (node : Pointer) (property : Option String) :=
      @ih (depth + 1) levels (by omega) (by omega) node property
    have hset (set : Constraints) (entered : List Pointer) :
        Curtails (fun _ => True) none depth _
          (below entered (ofConstraints setting set property (value setting room)))
          (below entered (ofConstraints setting set property (valueByDepth setting levels))) :=
      curtails_below hl (related_ofConstraints (hr _) rfl (fun node _ => hchild node) property)
        entered
    have hleft : ¬setting.options.maxDepth ≤ depth := by omega
    refine (curtails_countNode hl _).bind fun _ => Curtails.test ?_
    rw [if_neg hleft]
    refine (curtails_normalized hl setting.document node).bind fun normalization => ?_
    cases normalization.demands with
    | cycle target => exact ((hr _).record _ _ _).bind fun _ => (hr _).pure _
    | single set => exact hset set normalization.entered
    | choice sets =>
      exact (related_pick (hr _) sets).bind fun set => hset set normalization.entered

/-! ### The budget -/

theorem curtails_value_budget (limit room : Nat) (node : Pointer) (property : Option String) :
    Curtails (fun report => report.nodesGenerated ≤ limit)
      (some (.schema (.budgetExceeded limit))) depth _
      (value (setting.withLimits maxDepth none) room node property)
      (value (setting.withLimits maxDepth (some limit)) room node property) := by
  induction room generalizing depth node property with
  | zero =>
    refine (curtails_countNode_budget limit).bind fun _ => ?_
    exact curtails_terminal (isLimit_budget limit) _ _ _
  | succ room ih =>
    have hl := isLimit_budget limit
    exact curtails_value_succ (setting.withLimits maxDepth none) maxDepth hl
      (curtails_countNode_budget limit) ih node property

/-! ### The greatest depth -/

/-- A run whose report is within the limit in the end was within it all the way. -/
theorem curtails_value_self (hl : IsLimit within none) (room : Nat) (node : Pointer)
    (property : Option String) :
    Curtails within none depth _ (value setting room node property)
      (value setting room node property) := by
  induction room generalizing depth node property with
  | zero =>
    exact (curtails_countNode hl _).bind fun _ => curtails_terminal hl _ _ _
  | succ room ih =>
    exact curtails_value_succ setting setting.options.maxDepth hl (curtails_countNode hl _) ih node
      property

theorem curtails_value_depth {limit : Nat} (room other : Nat) (hother : depth + other = limit)
    (node : Pointer) (property : Option String) :
    Curtails (StaysAbove limit) none depth _ (value setting room node property)
      (value (setting.withLimits maxDepth setting.options.nodeBudget) other node property) := by
  have hl := isLimit_staysAbove limit
  induction room generalizing depth other node property with
  | zero =>
    -- The run is cut off here, whatever the other one goes on to do.
    have hcount : Curtails (StaysAbove limit) none depth _
        (countNode setting.options.nodeBudget : Run σ Unit)
        (countNode setting.options.nodeBudget) := curtails_countNode hl _
    cases other with
    | zero => exact hcount.bind fun _ => curtails_truncated _ _ _ _
    | succ other => exact hcount.bind fun _ => curtails_truncated _ _ _ _
  | succ room ih =>
    cases other with
    | zero =>
      -- The limit is reached before the run goes on, and its report tells of that for ever.
      intro progress hat
      obtain ⟨hdepth, hback, -, hstops⟩ :=
        curtails_value_self setting hl (room + 1) node property progress hat
      have hreached : ¬StaysAbove limit progress.report := by
        intro habove
        have := hat.reached
        have := habove.2
        omega
      refine ⟨hdepth, hback, fun hafter => absurd (hback hafter) hreached, fun hbefore => ?_⟩
      exact absurd hbefore hreached
    | succ other =>
      refine curtails_value_succ setting maxDepth hl (curtails_countNode hl _)
        (fun child property => ?_) node property
      exact ih other (by omega) child property

end Instance

/-! ### Runs -/

namespace Generation

open Instance

/-- The same setting with another budget. -/
def withBudget {σ : Type} (setting : Setting σ) (budget : Option Nat) : Setting σ :=
  setting.withLimits setting.options.maxDepth budget

/-- The same setting with another greatest depth. -/
def withMaxDepth {σ : Type} (setting : Setting σ) (maxDepth : Nat) : Setting σ :=
  setting.withLimits maxDepth setting.options.nodeBudget

theorem atDepth_start {σ : Type} (source : σ) (node : Pointer) (seed : UInt64) :
    AtDepth 0 (start source node seed) :=
  ⟨rfl, Nat.le_refl 0⟩

variable {σ : Type} [Random.Source σ] {setting other : Setting σ} {source : σ} {node : Pointer}
variable {seed : UInt64} {value : Json} {report : Report} {failure : Failure} {limit : Nat}

/-- In a run, the room that is left is what the depth leaves of the greatest one: going by the room
and going by the depth is the same. -/
theorem finish_eq_valueByDepth (setting : Setting σ) (source : σ) (node : Pointer)
    (seed : UInt64) :
    finish setting source node seed =
      valueByDepth setting (setting.options.maxDepth + 1) node none (start source node seed) :=
  ((curtails_valueByDepth setting _ _ (Nat.zero_add _) (Nat.lt_succ_self _) node none _
    (atDepth_start source node seed)).same trivial).symm

omit [Random.Source σ] in
theorem withBudget_none (h : setting.options.nodeBudget = none) :
    withBudget setting none = setting := by
  rw [← h]
  rfl

theorem run_eq (h : finish other source node seed = finish setting source node seed) :
    run other source node seed = run setting source node seed := by
  unfold run
  rw [h]

/-- The report of a run is the one in which it ends. -/
theorem report_finish (h : run setting source node seed = .ok (value, report)) :
    (finish setting source node seed).2.report = report := by
  unfold run at h
  cases hfinish : finish setting source node seed with
  | mk outcome progress =>
    rw [hfinish] at h
    cases outcome with
    | error failure => cases h
    | ok found => cases h; rfl

theorem result_finish (h : run setting source node seed = .ok (value, report)) :
    (finish setting source node seed).1 = .ok value := by
  unfold run at h
  cases hfinish : finish setting source node seed with
  | mk outcome progress =>
    rw [hfinish] at h
    cases outcome with
    | error failure => cases h
    | ok found => cases h; rfl

theorem run_eq_error (h : (finish setting source node seed).1 = .error failure) :
    run setting source node seed = .error failure := by
  unfold run
  cases hfinish : finish setting source node seed with
  | mk outcome progress =>
    rw [hfinish] at h
    cases h
    rfl

/-- A run with a budget is the run without one, as long as that counts no more values than the
budget allows; otherwise the budget is exceeded. -/
theorem run_withBudget_eq (setting : Setting σ) (source : σ) (node : Pointer) (seed : UInt64)
    (limit : Nat) :
    run (withBudget setting (some limit)) source node seed =
      if (finish (withBudget setting none) source node seed).2.report.nodesGenerated ≤ limit then
        run (withBudget setting none) source node seed
      else .error (.schema (.budgetExceeded limit)) := by
  have hcurtailed := curtails_value_budget setting setting.options.maxDepth limit
    setting.options.maxDepth node none _ (atDepth_start source node seed)
  split
  · rename_i hwithin
    exact run_eq (hcurtailed.same hwithin)
  · rename_i hexceeded
    exact run_eq_error (hcurtailed.stops (Nat.zero_le limit) hexceeded _ rfl)

/-- **A budget only cuts runs short.** Where there is a value without a budget, every budget that
allows for as many values as the run counts gives the same value and the same report, and every
smaller one is exceeded. Where there is none, a budget leaves the reason as it is or is exceeded. -/
theorem run_withBudget (setting : Setting σ) (source : σ) (node : Pointer) (seed : UInt64)
    (limit : Nat) :
    (∀ value report, run (withBudget setting none) source node seed = .ok (value, report) →
      run (withBudget setting (some limit)) source node seed =
        if report.nodesGenerated ≤ limit then .ok (value, report)
        else .error (.schema (.budgetExceeded limit))) ∧
    ∀ failure, run (withBudget setting none) source node seed = .error failure →
      run (withBudget setting (some limit)) source node seed = .error failure ∨
        run (withBudget setting (some limit)) source node seed =
          .error (.schema (.budgetExceeded limit)) := by
  rw [run_withBudget_eq]
  constructor
  · intro value report hrun
    rw [report_finish hrun, hrun]
  · intro failure hrun
    rw [hrun]
    split
    · exact .inl rfl
    · exact .inr rfl

/-- An array and its item count as two values on two levels. -/
theorem run_singletons : ∃ value report, run singletons ⟨⟩ .root 0 = .ok (value, report) ∧
    report.nodesGenerated = 2 ∧ report.has .depthTruncated = false ∧
      report.maxDepthReached = 2 := by
  have hrun : (run singletons ⟨⟩ .root 0).toOption.map (fun result =>
      (result.2.nodesGenerated, result.2.has .depthTruncated, result.2.maxDepthReached)) =
        some (2, false, 2) := by
    have hwalk := @Normalization.alternatives_eq_descended singletons.document 3 (by decide +kernel)
    have hdepth : singletons.options.maxDepth = 1 + 1 := rfl
    simp only [run, finish, hdepth, Instance.value, normalized_eq, Normalization.normalize,
      Normalization.demandsOn, Normalization.settledDemands, hwalk]
    decide +kernel
  obtain ⟨⟨value, report⟩, hresult, hreport⟩ := Option.map_eq_some_iff.mp hrun
  obtain ⟨hnodes, hrest⟩ := Prod.mk.inj hreport
  obtain ⟨htruncated, hdepth⟩ := Prod.mk.inj hrest
  refine ⟨value, report, ?_, hnodes, htruncated, hdepth⟩
  cases houtcome : run singletons ⟨⟩ .root 0 with
  | error failure => rw [houtcome] at hresult; cases hresult
  | ok other => rw [houtcome] at hresult; cases hresult; rfl

/-- A budget of one value is exceeded, a budget of two is not. -/
theorem run_withBudget_singletons : ∃ value report,
    run (withBudget singletons none) ⟨⟩ .root 0 = .ok (value, report) ∧
      run (withBudget singletons (some 1)) ⟨⟩ .root 0 = .error (.schema (.budgetExceeded 1)) ∧
      run (withBudget singletons (some 2)) ⟨⟩ .root 0 = .ok (value, report) := by
  have hunlimited : withBudget singletons none = singletons := withBudget_none rfl
  obtain ⟨value, report, hrun, hnodes, -, -⟩ := run_singletons
  rw [← hunlimited] at hrun
  have hexceeded := (run_withBudget singletons ⟨⟩ .root 0 1).1 value report hrun
  have hkept := (run_withBudget singletons ⟨⟩ .root 0 2).1 value report hrun
  rw [hnodes, if_neg (by decide)] at hexceeded
  rw [hnodes, if_pos (by decide)] at hkept
  exact ⟨value, report, hrun, hexceeded, hkept⟩

/-- **A depth that is not reached does not matter.** A run that produces a value without being cut
off is the same, step by step, with every greatest depth beyond the one that it has reached. -/
theorem run_withMaxDepth (valid : setting.options.validate = .ok ())
    (h : run setting source node seed = .ok (value, report))
    (htruncated : report.has .depthTruncated = false) (hlimit : report.maxDepthReached < limit) :
    (withMaxDepth setting limit).options.validate = .ok () ∧
      finish (withMaxDepth setting limit) source node seed = finish setting source node seed ∧
      run (withMaxDepth setting limit) source node seed = .ok (value, report) := by
  have hwithin : StaysAbove limit (finish setting source node seed).2.report := by
    rw [report_finish h]
    exact ⟨htruncated, hlimit⟩
  have hcurtailed := curtails_value_depth setting limit setting.options.maxDepth limit
    (Nat.zero_add limit) node none _ (atDepth_start source node seed)
  have hsame : finish (withMaxDepth setting limit) source node seed =
      finish setting source node seed := hcurtailed.same hwithin
  have hvalid : (withMaxDepth setting limit).options.IsValid :=
    (Options.validate_eq_ok_iff.mp valid).withLimits (Nat.ne_zero_of_lt hlimit)
  refine ⟨Options.validate_eq_ok_iff.mpr hvalid, hsame, ?_⟩
  rw [run_eq hsame, h]

theorem run_withMaxDepth_singletons : ∃ value report,
    singletons.options.validate = .ok () ∧ run singletons ⟨⟩ .root 0 = .ok (value, report) ∧
      report.has .depthTruncated = false ∧ report.maxDepthReached < 30 ∧
      run (withMaxDepth singletons 30) ⟨⟩ .root 0 = .ok (value, report) := by
  obtain ⟨value, report, hrun, -, htruncated, hdepth⟩ := run_singletons
  have hvalid : singletons.options.validate = .ok () :=
    Options.validate_eq_ok_iff.mpr (Options.isValid_default.withLimits (Nat.succ_ne_zero 1))
  have hlimit : report.maxDepthReached < 30 := by omega
  obtain ⟨-, -, hsame⟩ := run_withMaxDepth hvalid hrun htruncated hlimit
  exact ⟨value, report, hvalid, hrun, htruncated, hlimit, hsame⟩

end Generation

end Specimen
