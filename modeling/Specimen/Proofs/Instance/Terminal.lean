import Specimen.Instance.Value
import Specimen.Proofs.Constraint.Children
import Specimen.Proofs.Constraint.Reading

/-!
# Specimen.Proofs.Instance.Terminal

The value where a run stops, and the demands of its schema (`accepts_terminalValue_iff`).

`terminalValue` reads the demands without settling them. The value is mostly one that the settled
demands accept; the ways in which it is not are those of `Strays`. The first listed value is taken
although it need not be of a kind to produce; the foremost kind is taken although there may be a reason
against it; and an exclusive end that is moved inward may leave the range of doubles, whereupon `null`
stands for a number.
-/

namespace Specimen

/-- The kind that a value is made of where a run stops, unless that value is `null`. -/
def KindSet.foremost? (kinds : KindSet) : Option Kind :=
  if kinds.isUnknown || kinds.contains .null then none else kinds.kinds.head?

namespace KindSet

variable {kinds : KindSet} {kind : Kind}

theorem foremost?_eq_some_iff : kinds.foremost? = some kind ↔
    (kinds.isUnknown || kinds.contains .null) = false ∧ kinds.kinds.head? = some kind := by
  unfold foremost?
  cases kinds.isUnknown || kinds.contains .null <;> simp

theorem foremost?_eq_none_iff :
    kinds.foremost? = none ↔ (kinds.isUnknown || kinds.contains .null) = true := by
  unfold foremost?
  cases kinds.isUnknown || kinds.contains .null <;> simp [kinds.ne_nil]

theorem mem_of_foremost?_eq_some (h : kinds.foremost? = some kind) :
    kinds.isUnknown = false ∧ Kind.null ∉ kinds.kinds ∧ kind ∈ kinds.kinds := by
  obtain ⟨hproper, hhead⟩ := foremost?_eq_some_iff.mp h
  obtain ⟨hunknown, hnull⟩ := Bool.or_eq_false_iff.mp hproper
  refine ⟨hunknown, fun hmem => ?_, List.mem_of_head? hhead⟩
  exact Bool.noConfusion (hnull.symm.trans (List.contains_iff_mem.mpr hmem))

/-- Integers come before the numbers. -/
theorem integer_notMem_of_foremost?_eq_number (h : kinds.foremost? = some .number) :
    Kind.integer ∉ kinds.kinds := by
  intro hmem
  obtain ⟨rest, hrest⟩ := List.head?_eq_some_iff.mp (foremost?_eq_some_iff.mp h).2
  have hlater : Kind.integer ∈ rest := by simpa [hrest] using hmem
  have hsub : [Kind.number, Kind.integer].Sublist Kind.all := by
    refine .trans ?_ kinds.ordered
    rw [hrest]
    exact (List.singleton_sublist.mpr hlater).cons_cons _
  exact absurd hsub (by decide)

end KindSet

namespace Constraints

variable {raw set : Constraints} {value : Json}

/-- A value is one that settled demands leave: it is listed, or without a list it is of one of the
kinds. -/
def Accepts (set : Constraints) (value : Json) : Prop :=
  match set.candidates with
  | some candidates => value ∈ candidates
  | none => set.kinds.accepts value = true

theorem accepts_iff_keeps (h : raw.finalize = .ok set) (hlist : raw.candidates.isSome = true) :
    set.Accepts value ↔ raw.Keeps value := by
  cases settledAs_iff.mpr h with
  | listed candidates =>
    constructor
    · exact fun hmem => ⟨_, _, h, rfl, hmem⟩
    · intro hkeeps
      obtain ⟨other, left, hother, hleft, hmem⟩ := hkeeps
      cases h.symm.trans hother
      cases hleft
      exact hmem
  | unknown hnone => rw [hnone] at hlist; cases hlist
  | kinds left hnone => rw [hnone] at hlist; cases hlist

/-- Without a list, what counts are the kinds to produce that no reason is against. -/
theorem accepts_iff_of_candidates_eq_none (h : raw.finalize = .ok set)
    (hnone : raw.candidates = none) : set.Accepts value ↔
      ∃ kind ∈ raw.effectiveKinds.kinds, raw.conflict? kind = none ∧ kind.accepts value = true := by
  have haccepts : set.Accepts value ↔ set.kinds.accepts value = true := by
    unfold Accepts
    rw [(settlesTo_of_finalize h).unlisted hnone]
  rw [haccepts]
  cases settledAs_iff.mpr h with
  | listed candidates hlist => cases hnone.symm.trans hlist
  | unknown _ hunknown =>
    have hmem : Kind.unknown ∈ raw.effectiveKinds.kinds := List.contains_iff_mem.mp hunknown
    exact iff_of_true (KindSet.accepts_of_isUnknown hunknown)
      ⟨.unknown, hmem, rfl, by cases value <;> rfl⟩
  | kinds left _ hknown hleft =>
    rw [KindSet.accepts_iff, KindSet.kinds_of_filter?_eq_some hleft]
    simp only [List.mem_filter, Bool.and_eq_true, Option.isNone_iff_eq_none, KindSet.contains,
      List.contains_iff_mem, and_assoc]
    constructor
    · intro h
      obtain ⟨kind, -, hmem, hconflict, haccepts⟩ := h
      exact ⟨kind, hmem, hconflict, haccepts⟩
    · intro h
      obtain ⟨kind, hmem, hconflict, haccepts⟩ := h
      exact ⟨kind, KindSet.mem_known_of_mem hknown hmem, hmem, hconflict, haccepts⟩

end Constraints

namespace Instance

variable {raw set : Constraints} {kinds : KindSet} {kind other : Kind}

/-- The ways in which the value where a run stops misses the demands. -/
inductive Strays (raw : Constraints) : Prop
  /-- The first listed value is of none of the kinds to produce. -/
  | listed (first : Json) (rest : List Json) :
      raw.candidates = some (first :: rest) → raw.effectiveKinds.accepts first = false → Strays raw
  /-- There is a reason against the foremost kind; an integer may still do as a number. -/
  | against (kind : Kind) :
      raw.candidates = none → raw.effectiveKinds.foremost? = some kind → raw.conflict? kind ≠ none →
        ¬(kind = .integer ∧ .number ∈ raw.effectiveKinds.kinds ∧ raw.conflict? .number = none) →
          Strays raw
  /-- The end that is nearest to zero is no number any more once it is moved inward. -/
  | beyond :
      raw.candidates = none → raw.effectiveKinds.foremost? = some .number →
        (nearestToZero Double.zero raw.numberBounds).isFinite = false → Strays raw

theorem simplest_eq_null (h : kinds.foremost? = none) : simplest raw kinds = .null := by
  unfold simplest
  rw [if_pos (KindSet.foremost?_eq_none_iff.mp h)]

theorem simplest_eq_null_of_not_isFinite (h : kinds.foremost? = some .number)
    (hfinite : (nearestToZero Double.zero raw.numberBounds).isFinite = false) :
    simplest raw kinds = .null := by
  obtain ⟨hproper, hhead⟩ := KindSet.foremost?_eq_some_iff.mp h
  unfold simplest
  rw [hproper, hhead]
  dsimp only
  rw [hfinite]
  rfl

/-- The simplest value is of the foremost kind, unless a number is not finite. -/
theorem accepts_simplest (h : kinds.foremost? = some kind)
    (hfinite : kind = .number → (nearestToZero Double.zero raw.numberBounds).isFinite = true) :
    kind.accepts (simplest raw kinds) = true := by
  obtain ⟨hproper, hhead⟩ := KindSet.foremost?_eq_some_iff.mp h
  obtain ⟨hknown, hnull, hmem⟩ := KindSet.mem_of_foremost?_eq_some h
  unfold simplest
  rw [hproper, hhead]
  cases kind with
  | number =>
    dsimp only
    rw [hfinite rfl]
    rfl
  | null => exact absurd hmem hnull
  | unknown => exact absurd (KindSet.mem_known_of_mem hknown hmem) (by decide)
  | boolean | integer | string | array | object => rfl

/-- No kind other than the foremost one accepts the simplest value, but that of the numbers an
integer. -/
theorem eq_or_number_of_accepts (h : kinds.foremost? = some kind) (hother : other ∈ kinds.kinds)
    (haccepts : other.accepts (simplest raw kinds) = true) :
    (kind = .number → (nearestToZero Double.zero raw.numberBounds).isFinite = true) ∧
      (other = kind ∨ kind = .integer ∧ other = .number) := by
  obtain ⟨hknown, hnull, hmem⟩ := KindSet.mem_of_foremost?_eq_some h
  have hotherKnown := KindSet.mem_known_of_mem hknown hother
  have hfinite : kind = .number →
      (nearestToZero Double.zero raw.numberBounds).isFinite = true := by
    rintro rfl
    rw [← Bool.not_eq_false]
    intro hbeyond
    -- Otherwise the value is `null`, and no kind of the set accepts that.
    rw [simplest_eq_null_of_not_isFinite h hbeyond] at haccepts
    cases other with
    | null => exact hnull hother
    | unknown => exact absurd hotherKnown (by decide)
    | boolean | integer | number | string | array | object => cases haccepts
  refine ⟨hfinite, ?_⟩
  rcases Kind.eq_or_narrows_of_accepts hotherKnown (KindSet.mem_known_of_mem hknown hmem) haccepts
    (accepts_simplest h hfinite) with heq | ⟨rfl, rfl⟩ | ⟨rfl, rfl⟩
  · exact .inl heq
  · exact absurd hother (KindSet.integer_notMem_of_foremost?_eq_number h)
  · exact .inr ⟨rfl, rfl⟩

/-- Without a list of values, the simplest value is of a kind that is left, unless it strays. -/
theorem accepts_simplest_iff (hnone : raw.candidates = none) :
    (∃ kind ∈ raw.effectiveKinds.kinds, raw.conflict? kind = none ∧
      kind.accepts (simplest raw raw.effectiveKinds) = true) ↔ ¬Strays raw := by
  cases hforemost : raw.effectiveKinds.foremost? with
  | none =>
    have hstays : ¬Strays raw := by
      intro hstrays
      cases hstrays with
      | listed first rest hlist => cases hnone.symm.trans hlist
      | against kind _ h => cases hforemost.symm.trans h
      | beyond _ h => cases hforemost.symm.trans h
    refine iff_of_true ?_ hstays
    rw [simplest_eq_null hforemost]
    rcases Bool.or_eq_true_iff.mp (KindSet.foremost?_eq_none_iff.mp hforemost) with hunknown | hnull
    · exact ⟨.unknown, List.contains_iff_mem.mp hunknown, rfl, rfl⟩
    · exact ⟨.null, List.contains_iff_mem.mp hnull, rfl, rfl⟩
  | some kind =>
    constructor
    · intro h hstrays
      obtain ⟨other, hother, hconflict, haccepts⟩ := h
      obtain ⟨hfinite, hkind⟩ := eq_or_number_of_accepts hforemost hother haccepts
      cases hstrays with
      | listed first rest hlist => cases hnone.symm.trans hlist
      | against _ _ h hagainst hnumber =>
        cases hforemost.symm.trans h
        rcases hkind with rfl | ⟨rfl, rfl⟩
        · exact hagainst hconflict
        · exact hnumber ⟨rfl, hother, hconflict⟩
      | beyond _ h hbeyond =>
        cases hforemost.symm.trans h
        exact Bool.noConfusion (hbeyond.symm.trans (hfinite rfl))
    · intro hstays
      have hfinite : kind = .number →
          (nearestToZero Double.zero raw.numberBounds).isFinite = true := by
        rintro rfl
        rw [← Bool.not_eq_false]
        exact fun hbeyond => hstays (.beyond hnone hforemost hbeyond)
      have haccepts := accepts_simplest hforemost hfinite
      by_cases hconflict : raw.conflict? kind = none
      · exact ⟨kind, (KindSet.mem_of_foremost?_eq_some hforemost).2.2, hconflict, haccepts⟩
      · -- The kind is dropped, but its value is a number as well.
        obtain ⟨rfl, hmem, hfree⟩ := Decidable.not_not.mp fun hnumber =>
          hstays (.against kind hnone hforemost hconflict hnumber)
        exact ⟨.number, hmem, hfree, Kind.accepts_number_of_accepts_integer haccepts⟩

/-- With nothing excluded, the first listed value is left, unless it strays. -/
theorem accepts_first_iff {first : Json} {rest : List Json} (hset : raw.finalize = .ok set)
    (hlist : raw.candidates = some (first :: rest)) (hexcluded : raw.excluded = []) :
    set.Accepts first ↔ ¬Strays raw := by
  rw [Constraints.accepts_iff_keeps hset (by rw [hlist]; rfl), Constraints.keeps_iff, hexcluded]
  constructor
  · intro h hstrays
    obtain ⟨-, -, -, -, haccepts⟩ := h
    cases hstrays with
    | listed _ _ h hnot =>
      cases hlist.symm.trans h
      exact Bool.noConfusion (hnot.symm.trans haccepts)
    | against kind hnone => cases hlist.symm.trans hnone
    | beyond hnone => cases hlist.symm.trans hnone
  · intro hstays
    refine ⟨first :: rest, hlist, List.mem_cons_self, rfl, ?_⟩
    rw [← Bool.not_eq_false]
    exact fun hnot => hstays (.listed first rest hlist hnot)

/-- **Where a run stops, the value is one that the settled demands accept, unless it strays.** -/
theorem accepts_terminalValue_iff {document : Document} {node target : Pointer}
    (htarget : document.resolve node = .ok target)
    (hraw : Constraints.ofSchema document target = .ok raw) (hset : raw.finalize = .ok set) :
    set.Accepts (terminalValue document node) ↔ ¬Strays raw := by
  have hvalue : terminalValue document node = (raw.candidates.bind List.head?).getD
      (simplest raw raw.effectiveKinds) := by
    unfold terminalValue
    rw [htarget]
    dsimp only [Except.toOption, Option.getD_some]
    rw [hraw]
    dsimp only
    cases raw.candidates.bind List.head? <;> rfl
  rw [hvalue]
  cases hcandidates : raw.candidates with
  | none =>
    rw [Constraints.accepts_iff_of_candidates_eq_none hset hcandidates]
    exact accepts_simplest_iff hcandidates
  | some candidates =>
    cases candidates with
    | nil =>
      -- An empty list leaves nothing, so that the demands are not settled.
      cases Constraints.settledAs_iff.mpr hset with
      | listed candidates hlist hviable =>
        cases hcandidates.symm.trans hlist
        exact absurd rfl hviable
      | unknown hnone => cases hcandidates.symm.trans hnone
      | kinds left hnone => cases hcandidates.symm.trans hnone
    | cons first rest =>
      exact accepts_first_iff hset hcandidates (Constraints.isReading_of_ofSchema_eq_ok hraw).excluded

/-- A number is listed among texts. -/
def textsAndOne : Document := .ofJson (.object [("type", .str "string"),
  ("enum", .arr [.int 1, .str "b"])])

/-- The number stands where a run stops, but only the text is left. -/
theorem accepts_terminalValue_iff_textsAndOne :
    textsAndOne.resolve .root = .ok .root ∧
    ∃ raw set, Constraints.ofSchema textsAndOne .root = .ok raw ∧ raw.finalize = .ok set ∧
      terminalValue textsAndOne .root = .int 1 ∧ set.candidates = some [.str "b"] ∧
      ¬set.Accepts (terminalValue textsAndOne .root) := by
  obtain ⟨raw, set, hraw, hset, hlist, hkinds, hleft⟩ :
      ∃ raw set, Constraints.ofSchema textsAndOne .root = .ok raw ∧ raw.finalize = .ok set ∧
        raw.candidates = some [.int 1, .str "b"] ∧ raw.effectiveKinds.accepts (.int 1) = false ∧
        set.candidates = some [.str "b"] :=
    ⟨_, _, rfl, rfl, rfl, rfl, rfl⟩
  have htarget : textsAndOne.resolve .root = .ok .root := textsAndOne.resolve_eq_self rfl
  refine ⟨htarget, raw, set, hraw, hset, ?_, hleft, fun haccepts => ?_⟩
  · unfold terminalValue
    rw [htarget]
    rfl
  · exact (accepts_terminalValue_iff htarget hraw hset).mp haccepts (.listed _ _ hlist hkinds)

end Instance

end Specimen
