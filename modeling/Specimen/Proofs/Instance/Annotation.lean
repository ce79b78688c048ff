import Specimen.Generation
import Specimen.Proofs.Instance.Depth
import Specimen.Proofs.Instance.Step
import Specimen.Proofs.Normalization.Annotation

/-!
# Specimen.Proofs.Instance.Annotation

Annotations do not matter to what is generated (`Generation.run_eq_of_resembles`).

Two documents that are the same apart from annotations are gone through side by side. The two runs
only ever come to schemas where the documents are the same apart from annotations again
(`Document.Akin`): below a schema by `Normalization.akin_of_normalize`, and by references because
none of them leads to an annotation that differs. At such a schema they normalize alike, and stop
with the same value (`terminalValue_eq_of_akin`).
-/

namespace Specimen

namespace Instance

open Document (Akin DifferInAnnotations)

variable {σ : Type} {document other : Document} {node : Pointer} {set : Constraints}

theorem terminalValue_eq_of_akin (hd : DifferInAnnotations document other)
    (h : Akin document other node) : terminalValue document node = terminalValue other node := by
  obtain ⟨hresolve, hend⟩ := Document.resolve_eq_of_akin hd h
  have htarget : Akin document other ((other.resolve node).toOption.getD node) := by
    rw [← hresolve]
    cases hr : document.resolve node with
    | error error => exact h
    | ok target => exact hend target hr
  unfold terminalValue
  dsimp only
  rw [hresolve, Constraints.ofSchema_eq_of_akin htarget]

theorem optionalNames_eq_of_akin (h : set.ChildrenAkin document other) :
    optionalNames document set = optionalNames other set := by
  unfold optionalNames
  refine List.filterMap_congr fun (name, node) hentry => ?_
  obtain ⟨naming, hnode⟩ := h node (.property name (NameTable.get?_of_mem hentry))
  dsimp only
  rw [hnode.bool?_eq]

theorem normalized_eq_of_akin (hd : DifferInAnnotations document other)
    (h : Akin document other node) :
    (normalized document node : Run σ Normalization) = normalized other node := by
  funext progress
  unfold normalized
  rw [Normalization.normalize_eq_of_akin hd h]

/-- Where a run goes on, the documents are the same apart from annotations. -/
theorem yields_normalized_akin (hd : DifferInAnnotations document other)
    (h : Akin document other node) :
    Yields (normalized document node : Run σ Normalization) fun normalization =>
      (∀ target, normalization.demands = .cycle target → Akin document other target) ∧
        ∀ set ∈ normalization.demands.sets, set.ChildrenAkin document other :=
  fun _ => ⟨fun hf => hf, fun _ hn =>
    .inr (Normalization.akin_of_normalize hd h (normalize_of_normalized hn))⟩

/-- Equality is a relation between parts of runs as well. -/
theorem congruent_eq : Congruent fun (α : Type) (part other : Run σ α) => part = other where
  attempt _ _ := rfl
  record _ _ _ := rfl
  bind hpart hnext := by rw [hpart, funext hnext]

variable [Random.Source σ] {options : Options} {provider : Provider σ}
variable {library : Pattern.Library σ}

theorem ofConstraints_eq_of_akin {child again : Pointer → Option String → Run σ Json}
    (h : set.ChildrenAkin document other)
    (hc : ∀ node, set.IsChild node → ∀ property, child node property = again node property)
    (property : Option String) :
    ofConstraints ⟨document, options, provider, library⟩ set property child =
      ofConstraints ⟨other, options, provider, library⟩ set property again :=
  @related_ofConstraints _ _ set ⟨document, options, provider, library⟩ options.maxDepth
    options.nodeBudget other _ _ _ congruent_eq (optionalNames_eq_of_akin h) hc property

/-- **Annotations do not matter to a value.** -/
theorem value_eq_of_akin (hd : DifferInAnnotations document other) (room : Nat)
    (h : Akin document other node) (property : Option String) :
    value ⟨document, options, provider, library⟩ room node property =
      value ⟨other, options, provider, library⟩ room node property := by
  induction room generalizing node property with
  | zero =>
    unfold value
    rw [terminalValue_eq_of_akin hd h]
  | succ room ih =>
    have hset (set : Constraints) (entered : List Pointer)
        (hchildren : set.ChildrenAkin document other) :
        below entered (ofConstraints ⟨document, options, provider, library⟩ set property
            (value ⟨document, options, provider, library⟩ room)) =
          below entered (ofConstraints ⟨other, options, provider, library⟩ set property
            (value ⟨other, options, provider, library⟩ room)) := by
      rw [ofConstraints_eq_of_akin hchildren fun node hn property =>
        ih (hchildren node hn) property]
    unfold value
    refine bind_congr fun _ => ?_
    dsimp only
    rw [← normalized_eq_of_akin hd h]
    refine (yields_normalized_akin hd h).bind_congr fun normalization hakin => ?_
    obtain ⟨hcycle, hsets⟩ := hakin
    cases hdemands : normalization.demands with
    | cycle target =>
      dsimp only
      rw [terminalValue_eq_of_akin hd (hcycle target hdemands)]
    | single set =>
      rw [hdemands] at hsets
      exact hset set _ (hsets set (List.mem_singleton_self set))
    | choice sets =>
      rw [hdemands] at hsets
      refine Yields.bind_congr (ends_pick unaffected_false sets) fun set hmem => ?_
      exact hset set _ (hsets set hmem)

end Instance

namespace Generation

open Document

variable {σ : Type} [Random.Source σ] {a b : Json}

/-- **Annotations do not matter to what is generated.** Two documents are the same apart from what
stands under `default`, `examples` and `example`, as far as these are keywords, and no reference in
one of them leads to or into an annotation that they do not have in common. Then runs from their
roots end alike: with the same value and the same report, or with the same failure. -/
theorem run_eq_of_resembles (h : Json.Resembles false a b)
    (hleft : ∀ reference ∈ a.references, ∀ source target,
      (ofJson a).resolveReference reference source = .ok target →
        ¬ReachesChange (ofJson a) (ofJson b) target)
    (hright : ∀ reference ∈ b.references, ∀ source target,
      (ofJson b).resolveReference reference source = .ok target →
        ¬ReachesChange (ofJson a) (ofJson b) target)
    (options : Options) (provider : Provider σ) (library : Pattern.Library σ) (source : σ)
    (seed : UInt64) :
    run ⟨ofJson a, options, provider, library⟩ source .root seed =
      run ⟨ofJson b, options, provider, library⟩ source .root seed := by
  have hd : DifferInAnnotations (ofJson a) (ofJson b) :=
    ⟨h, h.anchors_eq .root, h.identifier?_eq, hleft, hright⟩
  have hroot : Akin (ofJson a) (ofJson b) .root := ⟨false, h⟩
  unfold run finish
  rw [Instance.value_eq_of_akin hd _ hroot]

/-- A schema by a reference. There is an annotation beside the reference and one in its target. -/
def annotated (value : Int) : Json :=
  .obj [("$ref", .str "#/definitions/count"),
    ("definitions", .obj [("count", .obj [("default", .int value), ("type", .str "integer")])]),
    ("examples", .arr [.int value])]

theorem resembles_annotated (first second : Int) :
    Json.Resembles false (annotated first) (annotated second) := by
  have hcount : Json.Resembles false (.obj [("default", .int first), ("type", .str "integer")])
      (.obj [("default", .int second), ("type", .str "integer")]) := by
    refine Json.resembles_of_members (by decide : ["default", "type"].Nodup) ?_
    refine .cons ⟨rfl, Json.resemblesUnder_of_annotates (by decide : "default" ∈ _) _ _⟩ ?_
    exact .cons ⟨rfl, Json.resemblesUnder_same _⟩ .nil
  have hdefinitions : Json.Resembles false
      (.obj [("count", .obj [("default", .int first), ("type", .str "integer")])])
      (.obj [("count", .obj [("default", .int second), ("type", .str "integer")])]) := by
    refine Json.resembles_of_members (by decide : ["count"].Nodup) (.cons ⟨rfl, ?_⟩ .nil)
    exact Json.resemblesUnder_of_resembles (by decide : "count" ∉ _) hcount
  refine Json.resembles_of_members (by decide : ["$ref", "definitions", "examples"].Nodup) ?_
  refine .cons ⟨rfl, Json.resemblesUnder_same _⟩ (.cons ⟨rfl, ?_⟩ (.cons ⟨rfl, ?_⟩ .nil))
  · exact Json.resemblesUnder_of_resembles (by decide : "definitions" ∉ _) hdefinitions
  · exact Json.resemblesUnder_of_annotates (by decide : "examples" ∈ _) _ _

theorem targets_annotated :
    ∀ value ∈ [(1 : Int), 2], (ofJson (annotated value)).targets =
      [(Pointer.root.push "definitions").push "count"] := by
  decide +kernel

/-- The annotations differ, and the runs are the same. -/
theorem run_annotated :
    annotated 1 ≠ annotated 2 ∧ Json.Resembles false (annotated 1) (annotated 2) ∧
      run ⟨ofJson (annotated 1), .default, Provider.bundled default, .bundled⟩
          (Random.ChaCha.ofSeed 0) .root 0 =
        run ⟨ofJson (annotated 2), .default, Provider.bundled default, .bundled⟩
          (Random.ChaCha.ofSeed 0) .root 0 := by
  have hreach (value : Int) (hvalue : value ∈ [(1 : Int), 2]) :
      ∀ reference ∈ (annotated value).references, ∀ source target,
        (ofJson (annotated value)).resolveReference reference source = .ok target →
          ¬ReachesChange (ofJson (annotated 1)) (ofJson (annotated 2)) target := by
    intro reference hr source target ht
    have hmem : target ∈ (ofJson (annotated value)).targets :=
      List.mem_filterMap.mpr ⟨reference, hr, target?_of_resolveReference ht⟩
    rw [targets_annotated value hvalue] at hmem
    obtain rfl := List.mem_singleton.mp hmem
    exact not_reachesChange (by decide)
  refine ⟨by simp [annotated, Json.int], resembles_annotated 1 2, ?_⟩
  exact run_eq_of_resembles (resembles_annotated 1 2) (hreach 1 (by decide)) (hreach 2 (by decide))
    .default (Provider.bundled default) .bundled (Random.ChaCha.ofSeed 0) 0

end Generation

end Specimen
