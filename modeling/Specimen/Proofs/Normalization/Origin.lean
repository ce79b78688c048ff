import Specimen.Proofs.Normalization.Composition

/-!
# Specimen.Proofs.Normalization.Origin

Where the demands of a schema have their schemas for the parts of a value from
(`normalize_origin`).

Each of them stands under a keyword of the schema, of a schema below it, or of the target of a
reference that was entered on the way. So it is lower than the schema or lower than such a target
(`Constraints.Below`), and a target is only entered if it was not open yet.

The schemas of an alternative are accounted for part by part (`below_of_alternative`), the parts
being the schemas that it is made of.
-/

namespace Specimen

/-- The schemas for the parts of a value are lower than a height or than one of some targets. -/
def Constraints.Below (document : Document) (targets : List Pointer) (height : Nat)
    (set : Constraints) : Prop :=
  ∀ child, set.IsChild child →
    document.height child < height ∨
      ∃ target ∈ targets, document.height child < document.height target

namespace Constraints.Below

variable {document : Document} {targets : List Pointer} {height other : Nat}
variable {set left right : Constraints}

theorem mono (h : set.Below document targets height) (hle : height ≤ other) :
    set.Below document targets other :=
  fun child hc => (h child hc).imp_left fun hlt => Nat.lt_of_lt_of_le hlt hle

/-- The demands of a target that was entered count at every height. -/
theorem of_target {target : Pointer} (h : set.Below document targets (document.height target))
    (ht : target ∈ targets) : set.Below document targets height :=
  fun child hc => .inr ((h child hc).elim (fun hlt => ⟨target, ht, hlt⟩) fun htarget => htarget)

theorem intersect (hl : left.Below document targets height)
    (hr : right.Below document targets height) (h : left.intersect right = .ok set) :
    set.Below document targets height :=
  fun child hc => (hc.of_intersect h).elim (hl child) (hr child)

theorem finalize (hs : left.Below document targets height) (h : left.finalize = .ok set) :
    set.Below document targets height :=
  fun child hc => hs child (hc.of_finalize h)

theorem any (node : Pointer) : (Constraints.any node).Below document targets height :=
  fun _ hc => absurd hc not_isChild_any

end Constraints.Below

namespace Normalization

/-- The schemas of each of some sets are accounted for. -/
def AllBelow (document : Document) (targets : List Pointer) (height : Nat)
    (sets : List Constraints) : Prop :=
  ∀ set ∈ sets, set.Below document targets height

variable {document : Document} {path : List Pointer} {node : Pointer} {report : Report}

/-! ### Alternatives -/

/-- The alternatives of a schema have their schemas from below it or from below a target that was
entered. -/
theorem below_of_alternative {targets : List Pointer} {broken : Pointer → Prop} {visit : Visit}
    {set : Constraints} (h : Alternative document path (· ∈ targets) broken visit set) :
    set.Below document targets (document.height visit.node) := by
  refine Alternative.induct (fun node set => set.Below document targets (document.height node))
    ?_ ?_ ?_ ?_ h
  · exact fun node => .any node
  · intro node own howns child hc
    obtain ⟨set, hset, rfl⟩ := howns
    -- `not` changes no keyword that has a schema.
    exact .inl ((Constraints.isReading_of_ofSchema_eq_ok hset).height_lt hc.of_with)
  · intro node part set hpart hset
    rcases hpart with hentered | hlower
    · exact hset.of_target hentered
    · exact hset.mono (Nat.le_of_lt hlower)
  · exact fun node left right set hleft hright hi => hleft.intersect hright hi

theorem below_of_settles {targets : List Pointer} {broken : Pointer → Prop} {set : Constraints}
    (h : Settles document path (· ∈ targets) broken node set) :
    set.Below document targets (document.height node) := by
  obtain ⟨raw, hraw, hfinal⟩ := h
  exact (below_of_alternative hraw).finalize hfinal

/-! ### Normalizing -/

/-- Where the demands of a schema come from. -/
structure Origin (document : Document) (path : List Pointer) (node : Pointer)
    (normalization : Normalization) : Prop where
  entered : ∀ target ∈ normalization.entered,
    target ∈ document.resolvedTargets ∧ target ∉ path
  below : AllBelow document normalization.entered (document.height node) normalization.demands.sets

/-- Only references that are not open yet are entered, and the report says nothing new of how far
down a run is. -/
theorem steady_entered (depth : Nat) :
    Steady document path (fun _ => True) (fun _ => True) (fun _ => True) fun notes =>
      notes.report.maxDepthReached = depth ∧
        ∀ target ∈ notes.entered, target ∈ document.resolvedTargets ∧ target ∉ path where
  closed _ _ _ _ := trivial
  note _ _ _ _ h := h
  cut _ _ h := h
  enter _ _ _ _ henters h := by
    obtain ⟨reference, hr, ht, hp, -⟩ := henters
    refine ⟨h.1, List.forall_mem_append.mpr ⟨h.2, List.forall_mem_singleton.mpr ?_⟩⟩
    exact ⟨Document.mem_resolvedTargets hr ht, hp⟩
  entered _ _ := .inr trivial
  broken _ _ _ := .inr trivial

theorem notes_of_demandsOn (document : Document) (path : List Pointer) (node : Pointer)
    (report : Report) :
    let notes := (demandsOn document path node ⟨[], report, 0⟩).2
    notes.report.maxDepthReached = report.maxDepthReached ∧
      ∀ target ∈ notes.entered, target ∈ document.resolvedTargets ∧ target ∉ path :=
  (ends_demandsOn (steady_entered report.maxDepthReached) node trivial ⟨[], report, 0⟩).1
    ⟨rfl, fun _ h => absurd h List.not_mem_nil⟩

theorem maxDepthReached_normalize (document : Document) (path : List Pointer) (node : Pointer)
    (report : Report) :
    (normalize document path node report).2.maxDepthReached = report.maxDepthReached :=
  (notes_of_demandsOn document path node report).1

/-- A report is only ever added to, and no value is counted. -/
theorem steady_grows (report : Report) :
    Steady document path (fun _ => True) (fun _ => True) (fun _ => True) fun notes =>
      report.Grows notes.report ∧ notes.report.nodesGenerated = report.nodesGenerated where
  closed _ _ _ _ := trivial
  note _ _ _ _ h := ⟨h.1.record, h.2⟩
  cut _ _ h := h
  enter _ _ _ _ _ h := h
  entered _ _ := .inr trivial
  broken _ _ _ := .inr trivial

theorem grows_normalize (document : Document) (path : List Pointer) (node : Pointer)
    (report : Report) :
    report.Grows (normalize document path node report).2 ∧
      (normalize document path node report).2.nodesGenerated = report.nodesGenerated :=
  (ends_demandsOn (steady_grows report) node trivial ⟨[], report, 0⟩).1 ⟨.refl report, rfl⟩

/-- What is listed stays listed. -/
theorem steady_lists (code : IssueCode) (place : String) :
    Steady document path (fun _ => True) (fun _ => True) (fun _ => True) fun notes =>
      notes.report.Lists code place where
  closed _ _ _ _ := trivial
  note _ _ _ _ h := h.record
  cut _ _ h := h
  enter _ _ _ _ _ h := h
  entered _ _ := .inr trivial
  broken _ _ _ := .inr trivial

theorem lists_normalize {code : IssueCode} {place : String} (h : report.Lists code place)
    (document : Document) (path : List Pointer) (node : Pointer) :
    (normalize document path node report).2.Lists code place :=
  (ends_demandsOn (steady_lists code place) node trivial ⟨[], report, 0⟩).1 h

/-- A normalization is what its walk has found and entered. -/
theorem demandsOn_of_normalize {normalization : Normalization}
    (h : (normalize document path node report).1 = .ok normalization) :
    (demandsOn document path node ⟨[], report, 0⟩).1 = .ok normalization.demands ∧
      (demandsOn document path node ⟨[], report, 0⟩).2.entered = normalization.entered := by
  unfold normalize at h
  cases hwalk : demandsOn document path node ⟨[], report, 0⟩ with
  | mk result notes =>
    rw [hwalk] at h
    cases result with
    | error error => cases h
    | ok demands => cases h; exact ⟨rfl, rfl⟩

theorem normalize_origin {normalization : Normalization}
    (h : (normalize document path node report).1 = .ok normalization) :
    Origin document path node normalization where
  entered := (demandsOn_of_normalize h).2 ▸ (notes_of_demandsOn document path node report).2
  below set hset := below_of_settles (exists_alternative h set hset)

end Normalization

end Specimen
