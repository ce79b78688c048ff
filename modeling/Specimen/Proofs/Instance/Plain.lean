import Specimen.Proofs.Constraint.Settled
import Specimen.Proofs.Instance.Faultless
import Specimen.Proofs.Normalization.Plain

/-!
# Specimen.Proofs.Instance.Plain

Runs for a schema that is not composed of others and leaves one kind of values.

Such a schema leads to one set of demands (`value_of_isPlain`). If these can be met, a run gives what is
drawn for the kind (`exists_run_of_isPlain`); if not, it fails because of the schema
(`run_eq_error_of_isPlain`).
-/

namespace Specimen

/-- Of a schema that is written out, it can be read off that it is not composed. -/
theorem Document.isPlain_of_all {document : Document} {node : Pointer}
    (object : ∃ members, document.fragment node = .obj members)
    (h : composingKeywords.all fun keyword => (document.keyword? node keyword).isNone) :
    document.IsPlain node :=
  ⟨object, fun keyword hkeyword => Option.isNone_iff_eq_none.mp (List.all_eq_true.mp h keyword hkeyword)⟩

/-- Demands on values of one kind, of which none are listed and none are excluded. -/
structure Constraints.IsOfKind (set : Constraints) (kind : Kind) : Prop where
  known : kind ∈ Kind.known
  kinds : set.kinds = .of [kind]
  candidates : set.candidates = none
  excluded : set.excluded = []

namespace Instance

variable {σ : Type} {set : Constraints} {kind : Kind} {node : Pointer} {result : Json → Prop}

theorem normalized_of_isPlain {document : Document} (hplain : document.IsPlain node)
    (hset : Constraints.ofSchema document node = .ok set) :
    (normalized document node : Run σ Normalization) =
      Run.check (set.finalize.map fun settled => ⟨.single settled, []⟩) := by
  funext progress
  unfold normalized Normalization.normalize
  rw [Normalization.demandsOn_of_isPlain hplain, hset]
  show (Except.mapError _ (Except.map _ (set.finalize.map Demands.single)), progress) = _
  cases set.finalize with
  | error error => rfl
  | ok settled => rfl

variable [Random.Source σ] {setting : Setting σ} {child : Pointer → Option String → Run σ Json}

/-- A schema that is not composed of others leads to one set of demands. -/
theorem value_of_isPlain (hplain : setting.document.IsPlain node)
    (hset : Constraints.ofSchema setting.document node = .ok set) (room : Nat)
    (property : Option String) :
    value setting (room + 1) node property = (do
      countNode setting.options.nodeBudget
      let settled ← Run.check set.finalize
      below [] (ofConstraints setting settled property (value setting room))) := by
  rw [value, normalized_of_isPlain hplain hset]
  cases set.finalize with
  | error error => rfl
  | ok settled => rfl

/-- Where no value is excluded, the first one counts. -/
theorem ofConstraints_of_free (hcandidates : set.candidates = none) (hexcluded : set.excluded = [])
    (hattempts : setting.options.uniqueAttempts ≠ 0) (property : Option String) :
    ofConstraints setting set property child =
      (do ofKind setting set property child (← pick set.kinds.kinds)) := by
  obtain ⟨attempts, hsucc⟩ := Nat.exists_eq_succ_of_ne_zero hattempts
  unfold ofConstraints
  rw [hcandidates, hsucc]
  dsimp only
  unfold drawAdmissible
  congr 1
  funext kind
  rw [hexcluded]
  exact bind_pure _

/-- For demands on one kind, what is drawn for the kind is the value. The kind is picked at random all
the same, from a list of one. -/
theorem drawn_of_isOfKind (h : set.IsOfKind kind) (hattempts : setting.options.uniqueAttempts ≠ 0)
    {property : Option String} (htotal : Total (ofKind setting set property child kind))
    (hyields : Yields (ofKind setting set property child kind) result) :
    Total (ofConstraints setting set property child) ∧
      Yields (ofConstraints setting set property child) result := by
  have hkinds : set.kinds.kinds = [kind] := by
    have hknown := h.known
    rw [h.kinds]
    revert hknown
    cases kind <;> decide
  rw [ofConstraints_of_free h.candidates h.excluded hattempts, hkinds]
  have hpick : Yields (pick [kind] : Run σ Kind) (· = kind) :=
    (ends_pick unaffected_false _).mono fun _ => List.mem_singleton.mp
  constructor
  · refine (failsOnly_pick (List.cons_ne_nil _ _)).bind_of hpick ?_
    rintro _ rfl
    exact htotal
  · refine hpick.bind_of ?_
    rintro _ rfl
    exact hyields

/-- A schema that is not composed of others and whose demands can be met gives what is drawn for its
kind. -/
theorem drawn_of_isPlain (hplain : setting.document.IsPlain node)
    (hset : Constraints.ofSchema setting.document node = .ok set) (h : set.IsOfKind kind)
    (hfinal : set.finalize = .ok set) (hattempts : setting.options.uniqueAttempts ≠ 0)
    (hbudget : setting.options.nodeBudget = none) {property : Option String}
    (hdrawn : ∀ child : Pointer → Option String → Run σ Json,
      Total (ofKind setting set property child kind) ∧
        Yields (ofKind setting set property child kind) result)
    (room : Nat) :
    Total (value setting (room + 1) node property) ∧
      Yields (value setting (room + 1) node property) result := by
  have hcount : Total (countNode none : Run σ Unit) := fun progress failure hf => by cases hf
  obtain ⟨htotal, hyields⟩ := hdrawn (value setting room)
  obtain ⟨htotal, hyields⟩ := drawn_of_isOfKind h hattempts htotal hyields
  rw [value_of_isPlain hplain hset, hfinal, hbudget]
  constructor
  · refine hcount.bind fun _ => ?_
    show Total (below [] _)
    exact failsOnly_below htotal []
  · refine Ends.andThen (yields_any _) fun _ => ?_
    show Yields (below [] _) _
    exact fun progress => hyields (progress.descend [])

end Instance

namespace Generation

open Instance

variable {σ : Type} [Random.Source σ] {setting : Setting σ} {set : Constraints} {kind : Kind}
variable {result : Json → Prop}

/-- Where the demands can be met, a run gives what is drawn for the kind. -/
theorem exists_run_of_isPlain (valid : setting.options.IsValid)
    (hbudget : setting.options.nodeBudget = none) (hplain : setting.document.IsPlain .root)
    (hset : Constraints.ofSchema setting.document .root = .ok set) (h : set.IsOfKind kind)
    (hfinal : set.finalize = .ok set)
    (hdrawn : ∀ child : Pointer → Option String → Run σ Json,
      Total (ofKind setting set none child kind) ∧
        Yields (ofKind setting set none child kind) result)
    (source : σ) (seed : UInt64) :
    ∃ value report, run setting source .root seed = .ok (value, report) ∧ result value := by
  obtain ⟨room, hroom⟩ := Nat.exists_eq_succ_of_ne_zero valid.maxDepth
  obtain ⟨htotal, hyields⟩ := drawn_of_isPlain hplain hset h hfinal valid.uniqueAttempts hbudget
    hdrawn room
  obtain ⟨value, progress, hvalue, hresult⟩ :=
    exists_of_total htotal hyields (start source .root seed)
  refine ⟨value, progress.report, ?_, hresult⟩
  unfold run finish
  rw [hroom, hvalue]
  rfl

/-- Where they cannot, it fails for that reason. -/
theorem run_eq_error_of_isPlain (valid : setting.options.IsValid)
    (hbudget : setting.options.nodeBudget = none) (hplain : setting.document.IsPlain .root)
    (hset : Constraints.ofSchema setting.document .root = .ok set) {error : SchemaError}
    (hfinal : set.finalize = .error error) (source : σ) (seed : UInt64) :
    run setting source .root seed = .error (.schema error) := by
  obtain ⟨room, hroom⟩ := Nat.exists_eq_succ_of_ne_zero valid.maxDepth
  unfold run finish
  rw [hroom, value_of_isPlain hplain hset, hfinal, hbudget]
  rfl

end Generation

end Specimen
