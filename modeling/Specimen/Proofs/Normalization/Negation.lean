import Specimen.Proofs.Constraint.Settled
import Specimen.Proofs.Normalization.Exactness

/-!
# Specimen.Proofs.Normalization.Negation

Which values a `not` takes away (`applyNot_listed`).

Of a negated schema only `enum` and `const` are read. With one of them, the values that are excluded
are those that the keyword admits, and candidates that it does not admit stay when the demands are
settled. Every other keyword is passed over, `type` among them, so that a value may be excluded which
the negated schema does not admit (`listedValues_otherType`); but then the report tells that the `not`
was not applied as a whole.
-/

namespace Specimen

namespace Normalization

variable {document : Document} {negated : Pointer} {set : Constraints} {value other : Json}
variable {equal : Json → Json → Prop}

/-- A value is one that a schema lists: it equals one of the values of `enum` and that of `const`, as
far as there are any. -/
structure ListedBy (document : Document) (equal : Json → Json → Prop) (node : Pointer)
    (value : Json) : Prop where
  enumerated : ∀ values, document.keyword? node "enum" = some (.arr values) →
    ∃ other ∈ values, equal other value
  constant : ∀ constant, document.keyword? node "const" = some constant → equal constant value

/-- A schema lists values and has no other keyword than those for it. -/
structure OnlyLists (document : Document) (node : Pointer) : Prop where
  lists : ((document.keyword? node "enum").bind Json.elements?).isSome = true ∨
    (document.keyword? node "const").isSome = true
  only : ∀ keyword, (document.keyword? node keyword).isSome = true →
    keyword = "enum" ∨ keyword = "const"

/-- With one of both keywords, whatever equals a listed value is listed. -/
theorem listedBy_of_mem (hone : ¬((document.keyword? negated "enum").isSome = true ∧
    (document.keyword? negated "const").isSome = true))
    (h : other ∈ listedValues document negated) (he : equal other value) :
    ListedBy document equal negated value := by
  unfold listedValues at h
  cases hconst : document.keyword? negated "const" with
  | none =>
    rw [hconst, Option.toList_none, List.append_nil] at h
    refine ⟨fun values hvalues => ?_, fun constant hconstant => nomatch hconst.symm.trans hconstant⟩
    rw [hvalues] at h
    exact ⟨other, h, he⟩
  | some constant =>
    have henum : document.keyword? negated "enum" = none := by
      rw [hconst] at hone
      simpa using hone
    rw [hconst, henum] at h
    refine ⟨fun values hvalues => (nomatch henum.symm.trans hvalues), fun known hknown => ?_⟩
    cases hconst.symm.trans hknown
    cases List.mem_singleton.mp h
    exact he

theorem listedBy_of_contains (hone : ¬((document.keyword? negated "enum").isSome = true ∧
    (document.keyword? negated "const").isSome = true))
    (h : Json.contains (listedValues document negated) value = true) :
    ListedBy document (fun a b => (a == b) = true) negated value := by
  obtain ⟨other, hother, heq⟩ := Json.contains_iff.mp h
  exact listedBy_of_mem hone hother heq

/-- Excluding some values keeps the candidates that equal none of them. -/
theorem keeps_excluding_iff {listed : List Json} (h : Json.contains listed value = false) :
    { set with excluded := set.excluded ++ listed }.Keeps value ↔ set.Keeps value := by
  rw [Constraints.keeps_iff, Constraints.keeps_iff]
  dsimp only
  rw [Json.contains_append, h, Bool.or_false]
  exact Iff.rfl

/-! ### What is passed over -/

theorem any_members_iff (document : Document) (negated : Pointer) (condition : String → Bool) :
    (((document.fragment negated).members?.getD []).any fun (key, _) => condition key) = true ↔
      ∃ keyword, (document.keyword? negated keyword).isSome = true ∧ condition keyword = true := by
  unfold Document.keyword? Json.member? Json.members?
  cases document.fragment negated with
  | obj members =>
    simp only [Option.getD_some, Option.isSome_iff_ne_none, Ne, Table.lookup_eq_none_iff,
      Decidable.not_not, Table.names, List.any_eq_true, List.mem_map]
    constructor
    · intro h
      obtain ⟨member, hmember, hkey⟩ := h
      exact ⟨member.1, ⟨member, hmember, rfl⟩, hkey⟩
    · intro h
      obtain ⟨keyword, ⟨member, hmember, rfl⟩, hkey⟩ := h
      exact ⟨member, hmember, hkey⟩
  | null | bool _ | num _ | str _ | arr _ => simp

/-- Something of a schema is passed over unless it lists values and does nothing else. -/
theorem passes_over_iff : ((((document.keyword? negated "enum").bind Json.elements?).isNone = true ∧
        (document.keyword? negated "const").isNone = true) ∨
      (((document.fragment negated).members?.getD []).any fun (key, _) =>
        key != "enum" && key != "const") = true) ↔ ¬OnlyLists document negated := by
  have hothers := any_members_iff document negated fun key => key != "enum" && key != "const"
  rw [hothers]
  constructor
  · intro h honly
    obtain ⟨henum, hconst⟩ | ⟨keyword, hsome, hkeyword⟩ := h
    · rcases honly.lists with hlists | hlists
      · simp [Option.isNone_iff_eq_none.mp henum] at hlists
      · simp [Option.isNone_iff_eq_none.mp hconst] at hlists
    · rcases honly.only keyword hsome with rfl | rfl <;> simp at hkeyword
  · intro h
    by_cases hother : ∃ keyword, (document.keyword? negated keyword).isSome = true ∧
        (keyword != "enum" && keyword != "const") = true
    · exact .inr hother
    · left
      have honly : ∀ keyword, (document.keyword? negated keyword).isSome = true →
          keyword = "enum" ∨ keyword = "const" := by
        intro keyword hsome
        have hkeyword := not_and.mp (not_exists.mp hother keyword) hsome
        simpa [Classical.or_iff_not_imp_left] using hkeyword
      have hlists := not_or.mp fun hlists => h ⟨hlists, honly⟩
      simpa using hlists

/-- A schema that does nothing but list values names no kinds. -/
theorem readKinds_of_onlyLists (h : OnlyLists document negated) :
    Constraints.readKinds document negated = .ok .unknown := by
  have htype : document.keyword? negated "type" = none := by
    rw [← Option.not_isSome_iff_eq_none]
    intro hsome
    rcases h.only "type" hsome with heq | heq <;> simp at heq
  unfold Constraints.readKinds Constraints.readTypeNames
  rw [htype]
  rfl

theorem applyNot_of_onlyLists (h : OnlyLists document negated) (set : Constraints) (notes : Notes) :
    applyNot document set negated notes =
      (.ok { set with excluded := set.excluded ++ listedValues document negated }, notes) := by
  unfold applyNot
  dsimp only
  rw [if_neg fun hover => passes_over_iff.mp hover h]
  rfl

theorem applyNot_of_not_onlyLists (h : ¬OnlyLists document negated) (set : Constraints)
    (notes : Notes) : applyNot document set negated notes =
      (.ok { set with excluded := set.excluded ++ listedValues document negated },
        { notes with
          report := notes.report.record .notIgnored negated.text
            "`not` is applied only through enum/const; other keywords ignored" }) := by
  unfold applyNot
  dsimp only
  rw [if_pos (passes_over_iff.mpr h)]
  rfl

/-- A `not` with one of `enum` and `const` takes away what that keyword lists and leaves the
candidates that it does not list. All else in the negated schema is passed over: without anything
else the report is left as it is, and the negated schema names no kind that a value taken away could
fail; otherwise the report tells. -/
theorem applyNot_listed (set : Constraints) (notes : Notes)
    (hone : ¬((document.keyword? negated "enum").isSome = true ∧
      (document.keyword? negated "const").isSome = true)) :
    ∃ after excluding, applyNot document set negated notes = (.ok excluding, after) ∧
      excluding = { set with excluded := set.excluded ++ listedValues document negated } ∧
      (∀ value ∈ listedValues document negated, ListedBy document Eq negated value) ∧
      (∀ value, ¬ListedBy document (fun a b => (a == b) = true) negated value →
        (excluding.Keeps value ↔ set.Keeps value)) ∧
      (OnlyLists document negated → after = notes ∧
        ∃ kinds, Constraints.readKinds document negated = .ok kinds ∧
          ∀ value, kinds.accepts value = true) ∧
      (¬OnlyLists document negated →
        after = { notes with
          report := notes.report.record .notIgnored negated.text
            "`not` is applied only through enum/const; other keywords ignored" }) := by
  have hlisted : ∀ value ∈ listedValues document negated, ListedBy document Eq negated value :=
    fun value h => listedBy_of_mem hone h rfl
  have hkeeps (value : Json)
      (h : ¬ListedBy document (fun a b => (a == b) = true) negated value) :
      { set with excluded := set.excluded ++ listedValues document negated }.Keeps value ↔
        set.Keeps value :=
    keeps_excluding_iff (Bool.eq_false_iff.mpr fun hmem => h (listedBy_of_contains hone hmem))
  by_cases honly : OnlyLists document negated
  · refine ⟨notes, _, applyNot_of_onlyLists honly set notes, rfl, hlisted, hkeeps, fun _ => ?_,
      fun h => absurd honly h⟩
    exact ⟨rfl, .unknown, readKinds_of_onlyLists honly, fun value =>
      KindSet.accepts_of_isUnknown (by decide)⟩
  · exact ⟨_, _, applyNot_of_not_onlyLists honly set notes, rfl, hlisted, hkeeps,
      fun h => absurd h honly, fun _ => rfl⟩

/-- Of two listed values, one is taken away. -/
def twoExceptOne : Document := .ofJson (.object [("enum", .arr [.int 1, .int 2]),
  ("not", .object [("enum", .arr [.int 1])])])

theorem applyNot_listed_twoExceptOne :
    ¬((twoExceptOne.keyword? (.push .root "not") "enum").isSome = true ∧
      (twoExceptOne.keyword? (.push .root "not") "const").isSome = true) ∧
    ∃ set after excluding, Constraints.ofSchema twoExceptOne .root = .ok set ∧
      applyNot twoExceptOne set (.push .root "not") ⟨[], .start 0, 0⟩ = (.ok excluding, after) ∧
      set.Keeps (.int 1) ∧ ¬excluding.Keeps (.int 1) ∧ excluding.Keeps (.int 2) := by
  have hone : ¬((twoExceptOne.keyword? (.push .root "not") "enum").isSome = true ∧
      (twoExceptOne.keyword? (.push .root "not") "const").isSome = true) := by
    decide
  obtain ⟨set, hset, hcandidates, hexcluded, hone', htwo'⟩ :
      ∃ set, Constraints.ofSchema twoExceptOne .root = .ok set ∧
        set.candidates = some [.int 1, .int 2] ∧ set.excluded = [] ∧
        set.effectiveKinds.accepts (.int 1) = true ∧ set.effectiveKinds.accepts (.int 2) = true :=
    ⟨_, rfl, rfl, rfl, rfl, rfl⟩
  have hlisted : listedValues twoExceptOne (.push .root "not") = [.int 1] := rfl
  obtain ⟨after, excluding, happly, hexcluding, -, hkeeps, -⟩ :=
    applyNot_listed set ⟨[], .start 0, 0⟩ hone
  refine ⟨hone, set, after, excluding, hset, happly, ?_, ?_, ?_⟩
  · exact Constraints.keeps_iff.mpr ⟨_, hcandidates, by simp, by rw [hexcluded]; rfl, hone'⟩
  · have hlost : Json.contains [.int 1] (.int 1) = true := by decide
    rw [hexcluding, hlisted, hexcluded]
    exact Constraints.not_keeps_of_excluded hlost
  · refine (hkeeps (.int 2) fun h => ?_).mpr
      (Constraints.keeps_iff.mpr ⟨_, hcandidates, by simp, by rw [hexcluded]; rfl, htwo'⟩)
    exact absurd (h.enumerated [.int 1] rfl) (by decide)

/-- The number one, unless it is a text. -/
def oneUnlessText : Document := .ofJson (.object [("const", .int 1),
  ("not", .object [("type", .str "string"), ("const", .int 1)])])

/-- The negated schema names a kind that the value taken away is not of, and so the only candidate is
lost although the negated schema does not admit it. -/
theorem listedValues_otherType :
    oneUnlessText.subschema? .root "not" = some (.push .root "not") ∧
    ∃ set after excluding, Constraints.ofSchema oneUnlessText .root = .ok set ∧
      applyNot oneUnlessText set (.push .root "not") ⟨[], .start 0, 0⟩ = (.ok excluding, after) ∧
      set.excluded = [] ∧ .int 1 ∈ excluding.excluded ∧
      Constraints.readKinds oneUnlessText (.push .root "not") = .ok (.of [.string]) ∧
      (KindSet.of [.string]).accepts (.int 1) = false ∧
      set.Keeps (.int 1) ∧ ¬excluding.Keeps (.int 1) := by
  obtain ⟨set, hset, hcandidates, hexcluded, hkind⟩ :
      ∃ set, Constraints.ofSchema oneUnlessText .root = .ok set ∧
        set.candidates = some [.int 1] ∧ set.excluded = [] ∧
        set.effectiveKinds.accepts (.int 1) = true :=
    ⟨_, rfl, rfl, rfl, rfl⟩
  have hlisted : listedValues oneUnlessText (.push .root "not") = [.int 1] := rfl
  obtain ⟨after, happly, -⟩ :=
    applyNot_eq oneUnlessText set (.push .root "not") ⟨[], .start 0, 0⟩
  rw [hlisted, hexcluded] at happly
  refine ⟨rfl, set, after, _, hset, happly, hexcluded, by simp, rfl, rfl, ?_, ?_⟩
  · exact Constraints.keeps_iff.mpr ⟨_, hcandidates, by simp, by rw [hexcluded]; rfl, hkind⟩
  · have hlost : Json.contains [.int 1] (.int 1) = true := by decide
    exact Constraints.not_keeps_of_excluded hlost

end Normalization

end Specimen
