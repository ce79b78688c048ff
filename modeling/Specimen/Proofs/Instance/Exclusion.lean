import Specimen.Proofs.Instance.Depth
import Specimen.Proofs.Instance.Fits
import Specimen.Proofs.Instance.Telling
import Specimen.Proofs.Normalization.Exclusion

/-!
# Specimen.Proofs.Instance.Exclusion

A value that a `not` excludes is never given unnoticed (`accounts_of_value`).

Where a schema, or one that is merged into it, lists values under `not`, a call for the schema gives
none of them unless it tells why: it was too far down, it came back to its own path, it left a
reference on the way to the `not` open, or none of its attempts gave another value. The call tells
so itself (`Records`), whatever is recorded before it and inside it.
-/

namespace Specimen.Instance

open Normalization (Excludes LeavesOpen Merges negatedValues)

variable {σ : Type} {document : Document} {node part : Pointer} {excluded : Json}

/-! ### What there is to tell -/

/-- Issues by which a call for a schema accounts for a value that the `not` of `part` excludes. -/
def Accounts (document : Document) (node part : Pointer) (lists : IssueCode → Pointer → Prop) :
    Prop :=
  lists .depthTruncated node ∨ lists .cycleBroken node ∨
    LeavesOpen document (lists .cycleBroken) node part ∨ lists .excludedValueRetained node

theorem Accounts.mono {lists other : IssueCode → Pointer → Prop}
    (h : Accounts document node part lists)
    (hl : ∀ code place, lists code place → other code place) : Accounts document node part other :=
  h.imp (hl _ _) fun h => h.imp (hl _ _) fun h =>
    h.imp (fun hopen => hopen.mono (hl .cycleBroken)) (hl _ _)

/-- A report accounts for a value. -/
def Told (document : Document) (node part : Pointer) (progress : Progress σ) : Prop :=
  Accounts document node part fun code place => progress.report.Lists code place.text

theorem unaffected_told : Unaffected (Told document node part : Progress σ → Prop) where
  source _ _ h := h
  record _ _ _ _ h := h.mono fun _ _ hlists => hlists.record
  count _ _ h := h

theorem ends_below_told {entered : List Pointer} {inner : Run σ α} {result : α → Prop}
    (h : Ends (Told document node part) inner result) :
    Ends (Told document node part) (below entered inner) result :=
  fun progress => h (progress.descend entered)

theorem ends_mute_told (inner : Run σ α) :
    Ends (Told document node part) (mute inner) fun _ => True :=
  fun _ => ⟨fun h => h, fun _ _ => .inr trivial⟩

/-- After an issue that accounts for values nothing need be known of a value. -/
theorem ends_record_told {code : IssueCode} {message : String} {value : Json}
    {result : Json → Prop} (h : ∀ lists, lists code node → Accounts document node part lists) :
    Ends (Told document node part : Progress σ → Prop) (do record code node message; return value)
      result :=
  ends_of_kept fun _ => h _ Report.lists_record_self

theorem ends_normalized_told (hway : Relation.ReflTransGen (Merges document) node part)
    (he : excluded ∈ negatedValues document part) :
    Ends (Told document node part : Progress σ → Prop) (normalized document node)
      fun normalization => ∀ set ∈ normalization.demands.sets, Excludes node excluded set := by
  intro progress
  refine ⟨fun h => ?_, fun normalization h => ?_⟩
  · exact h.mono fun code place hlists =>
      Normalization.lists_normalize hlists document progress.path node
  · have hexcludes := Normalization.excludes_of_normalize hway he (normalize_of_normalized h)
    exact hexcludes.imp_left fun hopen => .inr (.inr (.inl hopen))

/-! ### Values for demands -/

variable [Random.Source σ] {setting : Setting σ} {set : Constraints}
variable {child : Pointer → Option String → Run σ Json}

/-- A value is drawn again as long as it is excluded; otherwise there is an issue in the end. -/
theorem ends_drawAdmissible_told
    (hc : ∀ inner property, Ends (Told document node part) (child inner property) fun _ => True)
    (hpointer : set.pointer = node) (property : Option String) (last : Json) (attempts : Nat) :
    Ends (Told document node part) (drawAdmissible setting set property child last attempts)
      fun value => Json.contains set.excluded value = false := by
  induction attempts generalizing last with
  | zero =>
    -- Only the last value is given unseen, and that is what the issue is for.
    unfold drawAdmissible
    rw [hpointer]
    exact ends_record_told fun lists hretained => .inr (.inr (.inr hretained))
  | succ attempts ih =>
    unfold drawAdmissible
    refine (ends_pick unaffected_told set.kinds.kinds).andThen fun kind => ?_
    refine (ends_ofKind unaffected_told (fun inner _ property => hc inner property) property
      kind).andThen fun value => ?_
    split
    · exact ih value
    · rename_i hfree
      exact ends_pure (Bool.eq_false_iff.mpr hfree)

theorem ends_ofConstraints_told
    (hc : ∀ inner property, Ends (Told document node part) (child inner property) fun _ => True)
    (he : Excludes node excluded set) (property : Option String) :
    Ends (Told document node part) (ofConstraints setting set property child)
      fun value => (value == excluded) = false := by
  have hdiffers (value : Json) (hfree : Json.contains set.excluded value = false) :
      (value == excluded) = false := by
    refine Bool.eq_false_iff.mpr fun heq => Bool.eq_false_iff.mp hfree ?_
    exact Json.contains_iff.mpr ⟨excluded, he.excluded, Json.beq_comm value excluded ▸ heq⟩
  unfold ofConstraints
  cases hcandidates : set.candidates with
  | some candidates =>
    refine (ends_pick unaffected_told candidates).mono fun value hvalue => ?_
    exact hdiffers value (he.candidates candidates hcandidates value hvalue)
  | none =>
    exact (ends_drawAdmissible_told hc he.pointer property .null _).mono hdiffers

/-! ### Calls -/

/-- A call by itself gives no excluded value, or it tells why. -/
theorem ends_alone_told (hway : Relation.ReflTransGen (Merges setting.document) node part)
    (he : excluded ∈ negatedValues setting.document part) (room : Nat) (property : Option String) :
    Ends (Told setting.document node part) (alone setting room node property)
      fun value => (value == excluded) = false := by
  cases room with
  | zero =>
    refine (ends_countNode unaffected_told _).andThen fun _ => ?_
    exact ends_record_told fun lists htruncated => .inl htruncated
  | succ room =>
    refine ends_valueWith unaffected_told (ends_normalized_told hway he) ?_ ?_
    · exact fun target message => ends_record_told fun lists hbroken => .inr (.inl hbroken)
    · intro set entered
      refine ends_below_told (Ends.of_known ?_ fun hexcludes => ?_)
      · exact keeps_ofConstraints unaffected_told (fun _ _ _ => ends_mute_told _) property
      · exact ends_ofConstraints_told (fun _ _ => ends_mute_told _) hexcludes property

/-- **Excluded values are accounted for.** Let a schema have another one as the target of its
reference, in its `allOf` or as its `then`, and so on down to a schema with a `not`. A call that
gives a value listed there records why: for its own schema that it is too far down, that it came
back to its path or that no attempt gave another value, or for the holder of a reference on the way
that it was left open. -/
theorem accounts_of_value {negated : Pointer} {value : Json} {room : Nat}
    {property : Option String} {progress : Progress σ}
    (hway : Relation.ReflTransGen (Merges setting.document) node part)
    (hnot : setting.document.subschema? part "not" = some negated)
    (he : excluded ∈ Normalization.listedValues setting.document negated)
    (h : (Instance.value setting room node property progress).1 = .ok value)
    (heq : (value == excluded) = true) :
    Accounts setting.document node part (Records setting room node property progress) := by
  have hlisted : excluded ∈ negatedValues setting.document part := by
    rw [negatedValues, hnot]
    exact he
  have htold := (ends_alone_told hway hlisted room property progress.afresh).2 value
    (alone_fst.trans h)
  have haccounts := htold.resolve_right fun hdiffers => Bool.eq_false_iff.mp hdiffers heq
  exact haccounts.mono fun code place hlists => records_of_alone hlists

/-- Nothing but `null`, which a member of `allOf` excludes. -/
def voided : Setting Random.Highest where
  document := .ofJson (.object
    [("type", .str "null"), ("allOf", .arr [.object [("not", .object [("const", .null)])]])])
  options := Options.default
  provider := .ofTable []
  library := .bundled

/-- The member with the `not`. -/
def voidedMember : Pointer := (Pointer.root.push "allOf").pushIndex 0

/-- After ten attempts the excluded value stays. -/
theorem value_voided : (value voided 1 .root none (Generation.start ⟨⟩ .root 0)).1.toOption.map
    (· == Json.null) = some true := by
  have hmembers : voided.document.subschemas .root "allOf" = [voidedMember] := by decide +kernel
  have hroot (path : List Pointer) : Normalization.alternatives voided.document path [] .root = _ :=
    Normalization.alternatives_of_obj _ rfl
  have hmember (path : List Pointer) :
      Normalization.alternatives voided.document path [] voidedMember = _ :=
    Normalization.alternatives_of_obj _ rfl
  simp only [value, normalized_eq, Normalization.normalize, Normalization.demandsOn,
    Normalization.settledDemands, hroot, hmembers, List.foldlM_cons, List.foldlM_nil, hmember]
  decide +kernel

theorem accounts_of_value_voided :
    ∃ value, Relation.ReflTransGen (Merges voided.document) .root voidedMember ∧
      voided.document.subschema? voidedMember "not" = some (voidedMember.push "not") ∧
      Json.null ∈ Normalization.listedValues voided.document (voidedMember.push "not") ∧
      (Instance.value voided 1 .root none (Generation.start ⟨⟩ .root 0)).1 = .ok value ∧
      (value == Json.null) = true ∧
      Accounts voided.document .root voidedMember
        (Records voided 1 .root none (Generation.start ⟨⟩ .root 0)) := by
  obtain ⟨value, hresult, heq⟩ := Option.map_eq_some_iff.mp value_voided
  have hvalue := eq_ok_of_toOption hresult
  have hmember : voidedMember ∈ voided.document.subschemas .root "allOf" := by decide +kernel
  have hnot : voided.document.subschema? voidedMember "not" = some (voidedMember.push "not") := by
    decide +kernel
  have hlisted : Json.null ∈ Normalization.listedValues voided.document (voidedMember.push "not") :=
    List.mem_singleton_self Json.null
  have hway := Relation.ReflTransGen.single (Merges.member hmember)
  exact ⟨value, hway, hnot, hlisted, hvalue, heq,
    accounts_of_value hway hnot hlisted hvalue heq⟩

end Specimen.Instance
