import Specimen.Generation
import Specimen.Proofs.Instance.Value
import Specimen.Proofs.Normalization.Origin

/-!
# Specimen.Proofs.Instance.Depth

How far down a run goes, whatever its options allow: references that lead back are broken, and that
alone bounds the depth (`maxDepthReached_le`).

On the way down, each level lies lower in the document or behind a target that was not on the path
before. `Document.levels` weighs the two against each other: it is the number of levels that are
possible from a schema on, and it is smaller for every schema one level down
(`Document.levels_lt`).
-/

namespace Specimen

/-! ### Levels -/

/-- How many levels there can be from a schema on, below the reference targets on a path. A target
that is opened makes room for another way through the whole document. -/
def Document.levels (document : Document) (path : List Pointer) (node : Pointer) : Nat :=
  document.unopened path * (document.root.height + 1) + document.height node + 1

theorem Document.levels_le (document : Document) (path : List Pointer) (node : Pointer) :
    document.levels path node ≤
      (document.resolvedTargets.length + 1) * (document.root.height + 1) := by
  have hopen : document.unopened path * (document.root.height + 1) ≤
      document.resolvedTargets.length * (document.root.height + 1) :=
    Nat.mul_le_mul_right _ document.unopened_le
  have hheight := document.height_le node
  rw [Nat.succ_mul]
  unfold levels
  omega

/-- There are fewer levels from the schemas one level further down. -/
theorem Document.levels_lt {document : Document} {path : List Pointer} {node child : Pointer}
    {normalization : Normalization} {set : Constraints}
    (h : Normalization.Origin document path node normalization)
    (hset : set ∈ normalization.demands.sets) (hc : set.IsChild child) :
    document.levels (path ++ normalization.entered) child < document.levels path node := by
  unfold levels
  rcases h.below set hset child hc with hlower | ⟨target, htarget, -⟩
  · -- The child is lower in the document, and there are no more targets to open than before.
    have hopen : document.unopened (path ++ normalization.entered) * (document.root.height + 1) ≤
        document.unopened path * (document.root.height + 1) :=
      Nat.mul_le_mul_right _ Document.unopened_append_le
    omega
  · -- The child lies behind a target that was not open: there is one less to open from now on, and
    -- that outweighs any height.
    obtain ⟨hresolved, hclosed⟩ := h.entered target htarget
    have hopen : (document.unopened (path ++ normalization.entered) + 1) *
        (document.root.height + 1) ≤ document.unopened path * (document.root.height + 1) :=
      Nat.mul_le_mul_right _ (Document.unopened_append_lt hresolved hclosed htarget)
    have hheight := document.height_le child
    rw [Nat.succ_mul] at hopen
    omega

namespace Instance

variable {σ α : Type} {path : List Pointer} {depth bound : Nat} {node : Pointer}

/-! ### Going down and coming back -/

/-- A run is at a path and a depth and has not been further down than a bound. -/
structure At (path : List Pointer) (depth bound : Nat) (progress : Progress σ) : Prop where
  path : progress.path = path
  depth : progress.depth = depth
  bounded : progress.report.maxDepthReached ≤ bound

theorem unaffected_at : Unaffected (At path depth bound : Progress σ → Prop) where
  source _ _ h := ⟨h.path, h.depth, h.bounded⟩
  record _ _ _ _ h := ⟨h.path, h.depth, h.bounded⟩
  count _ _ h := ⟨h.path, h.depth, h.bounded⟩

/-- A part that runs one level further down comes back to where it was called. -/
theorem ends_below_at {entered : List Pointer} {part : Run σ α} (hdepth : depth + 1 ≤ bound)
    (h : Ends (At (path ++ entered) (depth + 1) bound) part fun _ => True) :
    Ends (At path depth bound) (below entered part) fun _ => True := by
  refine fun progress => ⟨fun hat => ?_, fun _ _ => .inr trivial⟩
  obtain ⟨rfl, rfl, hbounded⟩ := hat
  have hreached := (h (progress.descend entered)).1 ⟨rfl, rfl, Nat.max_le.mpr ⟨hbounded, hdepth⟩⟩
  constructor
  · show (part (progress.descend entered)).2.path.take progress.path.length = progress.path
    rw [hreached.path, List.take_left]
  · show (part (progress.descend entered)).2.depth - 1 = progress.depth
    rw [hreached.depth, Nat.add_sub_cancel]
  · exact hreached.bounded

theorem ends_normalized_at (document : Document) (node : Pointer) :
    Ends (At path depth bound : Progress σ → Prop) (normalized document node) fun _ => True := by
  refine fun progress => ⟨fun hat => ⟨hat.path, hat.depth, ?_⟩, fun _ _ => .inr trivial⟩
  show (Normalization.normalize document progress.path node progress.report).2.maxDepthReached ≤
    bound
  rw [Normalization.maxDepthReached_normalize]
  exact hat.bounded

theorem normalize_of_normalized {document : Document} {progress : Progress σ}
    {normalization : Normalization}
    (h : (normalized document node progress).1 = .ok normalization) :
    (Normalization.normalize document progress.path node progress.report).1 =
      .ok normalization := by
  change (Normalization.normalize document progress.path node progress.report).1.mapError _ = _ at h
  cases hresult : (Normalization.normalize document progress.path node progress.report).1 with
  | error error => rw [hresult] at h; cases h
  | ok found =>
    rw [hresult] at h
    cases h
    rfl

theorem origin_of_normalized {document : Document} {progress : Progress σ}
    (hat : At path depth bound progress) {normalization : Normalization}
    (h : (normalized document node progress).1 = .ok normalization) :
    Normalization.Origin document path node normalization := by
  obtain rfl := hat.path
  exact Normalization.normalize_origin (normalize_of_normalized h)

/-! ### Runs -/

variable [Random.Source σ] {setting : Setting σ}

/-- From a schema on, a run does not go further down than there are levels. -/
theorem ends_value_at (room : Nat) (node : Pointer) (property : Option String)
    (hlevels : depth + setting.document.levels path node ≤ bound) :
    Ends (At path depth bound) (Instance.value setting room node property) fun _ => True := by
  induction room generalizing path depth node property with
  | zero =>
    refine (ends_countNode unaffected_at _).andThen fun _ => ?_
    exact (ends_record unaffected_at _ _ _).andThen fun _ => ends_pure trivial
  | succ room ih =>
    unfold Instance.value
    refine (ends_countNode unaffected_at _).andThen fun _ => ?_
    -- Where the demands come from is known only as long as the run is at its path.
    refine (ends_normalized_at setting.document node).bind_known
      (fun progress hat normalization h => origin_of_normalized hat h) fun normalization horigin => ?_
    have hset (set : Constraints) (hset : set ∈ normalization.demands.sets) :
        Ends (At path depth bound)
          (below normalization.entered
            (ofConstraints setting set property (Instance.value setting room)))
          fun _ => True := by
      have hdepth : depth + 1 ≤ bound := by
        unfold Document.levels at hlevels
        omega
      refine ends_below_at hdepth ?_
      -- One level is used up, and the child has at least one level less to go.
      have hchild (child : Pointer) (hc : set.IsChild child) (property : Option String) :
          Ends (At (path ++ normalization.entered) (depth + 1) bound)
            (Instance.value setting room child property) fun _ => True := by
        have hlower := Document.levels_lt horigin hset hc
        exact ih child property (by omega)
      exact keeps_ofConstraints unaffected_at hchild property
    split
    · exact (ends_record unaffected_at _ _ _).andThen fun _ => ends_pure trivial
    · rename_i set hdemands
      exact hset set (by rw [hdemands]; exact List.mem_singleton_self set)
    · rename_i sets hdemands
      have hpick : Yields (pick sets : Run σ Constraints) (· ∈ sets) := ends_pick unaffected_false sets
      refine ((ends_pick unaffected_at sets).mono fun _ _ => trivial).bind_known
        (fun progress _ set h => ((hpick progress).2 set h).resolve_left id) fun set hmem => ?_
      exact hset set (by rw [hdemands]; exact hmem)

end Instance

namespace Generation

open Instance

/-- **Breaking cycles bounds the depth.** However far down its options allow, no run goes further
than once through the whole document for its start and for each target of a reference. -/
theorem maxDepthReached_le {σ : Type} [Random.Source σ] (setting : Setting σ) (source : σ)
    (node : Pointer) (seed : UInt64) :
    (finish setting source node seed).2.report.maxDepthReached ≤
        (setting.document.resolvedTargets.length + 1) * (setting.document.root.height + 1) ∧
      ∀ value report, run setting source node seed = .ok (value, report) →
        report.maxDepthReached ≤
          (setting.document.resolvedTargets.length + 1) * (setting.document.root.height + 1) := by
  have hlevels : 0 + setting.document.levels [node] node ≤
      (setting.document.resolvedTargets.length + 1) * (setting.document.root.height + 1) := by
    rw [Nat.zero_add]
    exact setting.document.levels_le [node] node
  have hends := (ends_value_at setting.options.maxDepth node none hlevels
    (start source node seed)).1 ⟨rfl, rfl, Nat.zero_le _⟩
  refine ⟨hends.bounded, fun value report h => ?_⟩
  unfold run at h
  cases hfinish : finish setting source node seed with
  | mk result progress =>
    have hbounded := hends.bounded
    change (finish setting source node seed).2.report.maxDepthReached ≤ _ at hbounded
    rw [hfinish] at h hbounded
    cases result with
    | error failure => cases h
    | ok found =>
      cases h
      exact hbounded

end Generation

end Specimen
