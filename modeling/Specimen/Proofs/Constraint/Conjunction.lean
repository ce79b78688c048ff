import Specimen.Constraint.Merge
import Specimen.NameSet.Closure
import Specimen.Proofs.Json.Equality

/-!
# Specimen.Proofs.Constraint.Conjunction

The values that a set of demands admits, and what two sets of demands admit together.

`Constraints.Admits` covers the kinds, the bounds of numbers, the lengths, the counts, the required
names and the listed and excluded values; steps of multiples, patterns, formats and the schemas of
parts are left out. On these demands `Constraints.intersect` is an exact conjunction
(`Constraints.admits_intersect`), and it fails only when no value meets both sets
(`Constraints.not_admits_of_intersect_eq_error`).

The one thing to ask for is that the bounds are numbers (`Constraints.Ordered`): a bound that is not
comes before and behind every other one, and so neither is the tighter one.
-/

namespace Specimen

/-! ### Demands on numbers -/

/-- The size of a number in units, as that of a double (`Double.scaled`). -/
def Number.scaled : Number → Int
  | .int value => value * Double.one
  | .double value => value.scaled

namespace Bound

/-- The bound is a number, so that it can be compared with others. -/
def Ordered (bound : Bound) : Prop := bound.value.isNaN = false

/-- A number lies above a lower bound. -/
def Below (bound : Bound) (number : Number) : Prop :=
  if bound.exclusive then bound.value.scaled < number.scaled
  else bound.value.scaled ≤ number.scaled

/-- A number lies below an upper bound. -/
def Above (bound : Bound) (number : Number) : Prop :=
  if bound.exclusive then number.scaled < bound.value.scaled
  else number.scaled ≤ bound.value.scaled

end Bound

/-! ### All demands -/

namespace Constraints

/-- A value meets the demands of a set, as far as they do not need patterns, formats, steps of
multiples or the schemas of parts. -/
structure Admits (set : Constraints) (value : Json) : Prop where
  kinds : set.kinds.accepts value = true
  minimum : ∀ number, value = .num number → ∀ bound ∈ set.minimum, bound.Below number
  maximum : ∀ number, value = .num number → ∀ bound ∈ set.maximum, bound.Above number
  minLength : ∀ text, value = .str text → ∀ least ∈ set.minLength, least ≤ text.length
  maxLength : ∀ text, value = .str text → ∀ greatest ∈ set.maxLength, text.length ≤ greatest
  minItems : ∀ elements, value = .arr elements → ∀ least ∈ set.minItems, least ≤ elements.length
  maxItems :
    ∀ elements, value = .arr elements → ∀ greatest ∈ set.maxItems, elements.length ≤ greatest
  /-- No two items are equal. -/
  uniqueItems :
    ∀ elements, value = .arr elements → set.uniqueItems = true →
      elements.Pairwise fun a b => (a == b) = false
  required :
    ∀ members, value = .obj members → ∀ name ∈ set.required, Table.has members name = true
  /-- A name that is present comes with all that it requires. -/
  dependentRequired :
    ∀ members, value = .obj members → ∀ name, Table.has members name = true →
      ∀ other ∈ NameSet.requiredBy set.dependentRequired name, Table.has members other = true
  minProperties :
    ∀ members, value = .obj members → ∀ least ∈ set.minProperties, least ≤ members.length
  maxProperties :
    ∀ members, value = .obj members → ∀ greatest ∈ set.maxProperties, members.length ≤ greatest
  candidates : ∀ candidates ∈ set.candidates, Json.contains candidates value = true
  excluded : Json.contains set.excluded value = false

/-- The bounds are numbers. -/
structure Ordered (set : Constraints) : Prop where
  minimum : ∀ bound ∈ set.minimum, bound.Ordered
  maximum : ∀ bound ∈ set.maximum, bound.Ordered

end Constraints

/-! ### Kinds -/

namespace Kind

/-- An integer is a number. -/
theorem accepts_number_of_accepts_integer {value : Json} (h : integer.accepts value = true) :
    number.accepts value = true := by
  cases value <;> simp only [accepts, Bool.false_eq_true] at h ⊢

/-- Of two kinds that a value is of, either both are the same or one is `integer` and the other
`number`. -/
theorem eq_or_narrows_of_accepts {a b : Kind} {value : Json} (ha : a ∈ known) (hb : b ∈ known)
    (hav : a.accepts value = true) (hbv : b.accepts value = true) :
    a = b ∨ (a = integer ∧ b = number) ∨ (a = number ∧ b = integer) := by
  -- Kinds that do not accept the value go first; few pairs are left.
  cases value <;> cases a <;> simp [accepts] at hav <;> cases b <;> simp [accepts] at hbv <;>
    simp [known] at ha hb ⊢

end Kind

namespace KindSet

variable {a b c : KindSet} {value : Json} {condition : Kind → Bool} {kind : Kind}

theorem accepts_iff : a.accepts value = true ↔ ∃ kind ∈ a.kinds, kind.accepts value = true :=
  List.any_eq_true

/-- Without known kinds all values are accepted. -/
theorem accepts_of_isUnknown (h : a.isUnknown = true) : a.accepts value = true :=
  accepts_iff.mpr ⟨.unknown, List.contains_iff_mem.mp h, by cases value <;> rfl⟩

/-- Without the unknown kind, all kinds of a set are known. -/
theorem mem_known_of_mem (h : a.isUnknown = false) (hk : kind ∈ a.kinds) : kind ∈ Kind.known := by
  have hall : kind ∈ Kind.all := a.ordered.subset hk
  rcases List.mem_append.mp hall with hknown | hunknown
  · exact hknown
  · rw [List.mem_singleton.mp hunknown] at hk
    have : a.isUnknown = true := List.contains_iff_mem.mpr hk
    simp [h] at this

theorem kinds_of_filter?_eq_some (h : filter? condition = some a) :
    a.kinds = Kind.known.filter condition := by
  unfold filter? at h
  split at h
  · cases h
  · cases h; rfl

/-- A condition that picks out nothing is met by no known kind. -/
theorem filter?_eq_none (h : filter? condition = none) (hk : kind ∈ Kind.known) :
    condition kind = false := by
  unfold filter? at h
  split at h
  · rename_i hnil
    simpa using List.filter_eq_nil_iff.mp hnil kind hk
  · cases h

/-- A kind that `intersect` keeps when neither set admits everything: it is in both sets, or it is
`integer` and one set has `integer`, the other one `number`. -/
def Common (a b : KindSet) (kind : Kind) : Prop :=
  (kind ∈ a.kinds ∧ kind ∈ b.kinds) ∨
    (kind = .integer ∧
      ((.integer ∈ a.kinds ∧ .number ∈ b.kinds) ∨ (.integer ∈ b.kinds ∧ .number ∈ a.kinds)))

/-- What a common kind accepts, the first set accepts. -/
theorem Common.accepts_left (h : Common a b kind) (hv : kind.accepts value = true) :
    a.accepts value = true := by
  rcases h with ⟨ha, -⟩ | ⟨rfl, ⟨ha, -⟩ | ⟨-, ha⟩⟩
  · exact accepts_iff.mpr ⟨kind, ha, hv⟩
  · exact accepts_iff.mpr ⟨_, ha, hv⟩
  · exact accepts_iff.mpr ⟨_, ha, Kind.accepts_number_of_accepts_integer hv⟩

theorem Common.symm (h : Common a b kind) : Common b a kind := by
  rcases h with ⟨ha, hb⟩ | ⟨rfl, h⟩
  · exact .inl ⟨hb, ha⟩
  · exact .inr ⟨rfl, h.symm⟩

/-- A value that two sets accept is of a kind that they have in common. -/
theorem exists_common (ha : a.isUnknown = false) (hb : b.isUnknown = false)
    (hav : a.accepts value = true) (hbv : b.accepts value = true) :
    ∃ kind ∈ Kind.known, Common a b kind ∧ kind.accepts value = true := by
  obtain ⟨k, hka, hkv⟩ := accepts_iff.mp hav
  obtain ⟨l, hlb, hlv⟩ := accepts_iff.mp hbv
  have hk := mem_known_of_mem ha hka
  have hl := mem_known_of_mem hb hlb
  rcases Kind.eq_or_narrows_of_accepts hk hl hkv hlv with rfl | ⟨rfl, rfl⟩ | ⟨rfl, rfl⟩
  · exact ⟨k, hk, .inl ⟨hka, hlb⟩, hkv⟩
  · exact ⟨_, hk, .inr ⟨rfl, .inl ⟨hka, hlb⟩⟩, hkv⟩
  · exact ⟨_, hl, .inr ⟨rfl, .inr ⟨hlb, hka⟩⟩, hlv⟩

/-- The two sets that admit everything apart, `intersect` is a filter by `Common`. -/
theorem intersect_cases (a b : KindSet) :
    (a.isUnknown = true ∧ a.intersect b = some b) ∨
    (b.isUnknown = true ∧ a.intersect b = some a) ∨
    (a.isUnknown = false ∧ b.isUnknown = false ∧
      ∃ condition, a.intersect b = filter? condition ∧
        ∀ kind, condition kind = true ↔ Common a b kind) := by
  unfold intersect
  cases ha : a.isUnknown with
  | true => exact .inl ⟨rfl, rfl⟩
  | false =>
    cases hb : b.isUnknown with
    | true => exact .inr (.inl ⟨rfl, rfl⟩)
    | false =>
      refine .inr (.inr ⟨rfl, rfl, _, rfl, fun kind => ?_⟩)
      simp [Common, contains]

/-- What the common kinds accept is what both sets accept. -/
theorem accepts_intersect (h : a.intersect b = some c) :
    c.accepts value = true ↔ a.accepts value = true ∧ b.accepts value = true := by
  rcases intersect_cases a b with ⟨hu, hab⟩ | ⟨hu, hab⟩ | ⟨ha, hb, condition, hab, hcommon⟩
  · obtain rfl : b = c := Option.some.inj (hab.symm.trans h)
    simp [accepts_of_isUnknown hu]
  · obtain rfl : a = c := Option.some.inj (hab.symm.trans h)
    simp [accepts_of_isUnknown hu]
  · have hkinds := kinds_of_filter?_eq_some (hab.symm.trans h)
    constructor
    · intro hv
      obtain ⟨kind, hk, hkv⟩ := accepts_iff.mp hv
      rw [hkinds, List.mem_filter, hcommon] at hk
      exact ⟨hk.2.accepts_left hkv, hk.2.symm.accepts_left hkv⟩
    · intro h
      obtain ⟨hav, hbv⟩ := h
      obtain ⟨kind, hk, hcom, hkv⟩ := exists_common ha hb hav hbv
      refine accepts_iff.mpr ⟨kind, ?_, hkv⟩
      rw [hkinds, List.mem_filter, hcommon]
      exact ⟨hk, hcom⟩

/-- Without a common kind, no value is accepted by both sets. -/
theorem not_accepts_of_intersect_eq_none (h : a.intersect b = none) :
    ¬(a.accepts value = true ∧ b.accepts value = true) := by
  intro h
  obtain ⟨hav, hbv⟩ := h
  rcases intersect_cases a b with ⟨-, hab⟩ | ⟨-, hab⟩ | ⟨ha, hb, condition, hab, hcommon⟩
  · simp [hab] at h
  · simp [hab] at h
  · obtain ⟨kind, hk, hcom, -⟩ := exists_common ha hb hav hbv
    have := filter?_eq_none (hab.symm.trans h) hk
    simp [(hcommon kind).mpr hcom] at this

end KindSet

/-! ### Merged demands -/

/-- A demand holds of a merged field exactly when it holds of both fields, if merging two entries
is their conjunction. -/
theorem forall_mem_merge {α : Type} {P : α → Prop} {merge : α → α → α} {a b : Option α}
    (h : ∀ x ∈ a, ∀ y ∈ b, P (merge x y) ↔ P x ∧ P y) :
    (∀ z ∈ Option.merge merge a b, P z) ↔ (∀ x ∈ a, P x) ∧ ∀ y ∈ b, P y := by
  cases a with
  | none => simp
  | some x =>
    cases b with
    | none => simp
    | some y => simpa using h x rfl y rfl

/-- The greater of two least counts is met exactly if both are. -/
theorem forall_mem_merge_max {a b : Option Nat} {count : Nat} :
    (∀ z ∈ Option.merge max a b, z ≤ count) ↔ (∀ x ∈ a, x ≤ count) ∧ ∀ y ∈ b, y ≤ count :=
  forall_mem_merge fun _ _ _ _ => by omega

theorem forall_mem_merge_min {a b : Option Nat} {count : Nat} :
    (∀ z ∈ Option.merge min a b, count ≤ z) ↔ (∀ x ∈ a, count ≤ x) ∧ ∀ y ∈ b, count ≤ y :=
  forall_mem_merge fun _ _ _ _ => by omega

/-- What a name requires in either table, it requires in both together. -/
theorem NameSet.mem_requiredBy_unionWith {a b : NameTable NameSet} {name other : String} :
    other ∈ requiredBy (.unionWith union a b) name ↔
      other ∈ requiredBy a name ∨ other ∈ requiredBy b name := by
  unfold requiredBy
  rw [NameTable.get?_unionWith]
  cases a.get? name <;> cases b.get? name <;> simp

namespace Constraints

variable {a b c : Constraints} {x y : Bound} {number : Number} {value : Json}

theorem lt_iff_of_ordered (hx : x.Ordered) (hy : y.Ordered) :
    x.value.lt y.value = true ↔ x.value.scaled < y.value.scaled := by
  unfold Bound.Ordered at hx hy
  simp [Double.lt, hx, hy]

/-- The tighter lower end is met exactly if both are. -/
theorem below_tighterMinimum (hx : x.Ordered) (hy : y.Ordered) :
    (tighterMinimum x y).Below number ↔ x.Below number ∧ y.Below number := by
  unfold tighterMinimum tighterBound
  simp only [lt_iff_of_ordered hx hy, lt_iff_of_ordered hy hx]
  unfold Bound.Below
  -- The order of the two ends decides which one is kept; at equal ends the flags are joined.
  split
  · grind
  · split <;> grind

/-- The tighter upper end is met exactly if both are. -/
theorem above_tighterMaximum (hx : x.Ordered) (hy : y.Ordered) :
    (tighterMaximum x y).Above number ↔ x.Above number ∧ y.Above number := by
  unfold tighterMaximum tighterBound
  simp only [lt_iff_of_ordered hx hy, lt_iff_of_ordered hy hx]
  unfold Bound.Above
  split
  · grind
  · split <;> grind

/-- The tighter end is one of the two. -/
theorem ordered_tighterBound {isTighter : Double → Double → Bool} (hx : x.Ordered)
    (hy : y.Ordered) : (tighterBound isTighter x y).Ordered := by
  unfold tighterBound
  split
  · exact hx
  · split
    · exact hy
    · exact hx

theorem ordered_merge {isTighter : Double → Double → Bool} {x y : Option Bound}
    (hx : ∀ bound ∈ x, bound.Ordered) (hy : ∀ bound ∈ y, bound.Ordered) :
    ∀ bound ∈ Option.merge (tighterBound isTighter) x y, bound.Ordered := by
  refine (forall_mem_merge fun u hu v hv => ?_).mpr ⟨hx, hy⟩
  exact iff_of_true (ordered_tighterBound (hx u hu) (hy v hv)) ⟨hx u hu, hy v hv⟩

/-- The common candidates are those that both lists have. -/
theorem forall_mem_commonCandidates? {x y z : Option (List Json)}
    (h : commonCandidates? x y = some z) :
    (∀ listed ∈ z, Json.contains listed value = true) ↔
      (∀ listed ∈ x, Json.contains listed value = true) ∧
        ∀ listed ∈ y, Json.contains listed value = true := by
  cases x with
  | none => cases h; simp
  | some xs =>
    cases y with
    | none => cases h; simp
    | some ys =>
      simp only [commonCandidates?] at h
      split at h
      · cases h
      · cases h
        simp [Json.contains_filter_contains]

/-- Without common candidates no value is in both lists. -/
theorem not_contains_of_commonCandidates?_eq_none {x y : Option (List Json)}
    (h : commonCandidates? x y = none) :
    ¬((∀ listed ∈ x, Json.contains listed value = true) ∧
      ∀ listed ∈ y, Json.contains listed value = true) := by
  cases x with
  | none => cases h
  | some xs =>
    cases y with
    | none => cases h
    | some ys =>
      simp only [commonCandidates?] at h
      split at h
      · rename_i hempty
        intro h
        obtain ⟨hx, hy⟩ := h
        -- A value in both lists would be in their intersection, which is empty.
        have hboth : Json.contains (xs.filter (Json.contains ys)) value = true :=
          Json.contains_filter_contains.mpr ⟨hx xs rfl, hy ys rfl⟩
        rw [List.isEmpty_iff.mp hempty] at hboth
        cases hboth
      · cases h

/-! ### Two sets at once -/

/-- What has to hold of a merged set for it to be the conjunction of two sets, apart from its kinds
and its candidates, holds by the way each field is merged. -/
theorem admits_mergeWith {kinds : KindSet} {candidates : Option (List Json)}
    (ha : a.Ordered) (hb : b.Ordered)
    (hkinds : kinds.accepts value = true ↔
      a.kinds.accepts value = true ∧ b.kinds.accepts value = true)
    (hcandidates : (∀ listed ∈ candidates, Json.contains listed value = true) ↔
      (∀ listed ∈ a.candidates, Json.contains listed value = true) ∧
        ∀ listed ∈ b.candidates, Json.contains listed value = true) :
    (mergeWith kinds candidates a b).Admits value ↔ a.Admits value ∧ b.Admits value := by
  have hmin (number : Number) :
      (∀ bound ∈ Option.merge tighterMinimum a.minimum b.minimum, bound.Below number) ↔ _ ∧ _ :=
    forall_mem_merge fun x hx y hy => below_tighterMinimum (ha.minimum x hx) (hb.minimum y hy)
  have hmax (number : Number) :
      (∀ bound ∈ Option.merge tighterMaximum a.maximum b.maximum, bound.Above number) ↔ _ ∧ _ :=
    forall_mem_merge fun x hx y hy => above_tighterMaximum (ha.maximum x hx) (hb.maximum y hy)
  have hunique : (a.uniqueItems || b.uniqueItems) = true ↔
      a.uniqueItems = true ∨ b.uniqueItems = true := Bool.or_eq_true _ _ ▸ Iff.rfl
  have hexcluded : Json.contains (a.excluded ++ b.excluded) value = false ↔
      Json.contains a.excluded value = false ∧ Json.contains b.excluded value = false := by
    rw [Json.contains_append, Bool.or_eq_false_iff]
  constructor
  · intro h
    constructor
    · exact {
        kinds := (hkinds.mp h.kinds).1
        minimum := fun n hn => ((hmin n).mp (h.minimum n hn)).1
        maximum := fun n hn => ((hmax n).mp (h.maximum n hn)).1
        minLength := fun t ht => (forall_mem_merge_max.mp (h.minLength t ht)).1
        maxLength := fun t ht => (forall_mem_merge_min.mp (h.maxLength t ht)).1
        minItems := fun e he => (forall_mem_merge_max.mp (h.minItems e he)).1
        maxItems := fun e he => (forall_mem_merge_min.mp (h.maxItems e he)).1
        uniqueItems := fun e he hu => h.uniqueItems e he (hunique.mpr (.inl hu))
        required := fun m hm name hn => h.required m hm name (NameSet.mem_union.mpr (.inl hn))
        dependentRequired := fun m hm name hn other ho =>
          h.dependentRequired m hm name hn other (NameSet.mem_requiredBy_unionWith.mpr (.inl ho))
        minProperties := fun m hm => (forall_mem_merge_max.mp (h.minProperties m hm)).1
        maxProperties := fun m hm => (forall_mem_merge_min.mp (h.maxProperties m hm)).1
        candidates := (hcandidates.mp h.candidates).1
        excluded := (hexcluded.mp h.excluded).1 }
    · exact {
        kinds := (hkinds.mp h.kinds).2
        minimum := fun n hn => ((hmin n).mp (h.minimum n hn)).2
        maximum := fun n hn => ((hmax n).mp (h.maximum n hn)).2
        minLength := fun t ht => (forall_mem_merge_max.mp (h.minLength t ht)).2
        maxLength := fun t ht => (forall_mem_merge_min.mp (h.maxLength t ht)).2
        minItems := fun e he => (forall_mem_merge_max.mp (h.minItems e he)).2
        maxItems := fun e he => (forall_mem_merge_min.mp (h.maxItems e he)).2
        uniqueItems := fun e he hu => h.uniqueItems e he (hunique.mpr (.inr hu))
        required := fun m hm name hn => h.required m hm name (NameSet.mem_union.mpr (.inr hn))
        dependentRequired := fun m hm name hn other ho =>
          h.dependentRequired m hm name hn other (NameSet.mem_requiredBy_unionWith.mpr (.inr ho))
        minProperties := fun m hm => (forall_mem_merge_max.mp (h.minProperties m hm)).2
        maxProperties := fun m hm => (forall_mem_merge_min.mp (h.maxProperties m hm)).2
        candidates := (hcandidates.mp h.candidates).2
        excluded := (hexcluded.mp h.excluded).2 }
  · intro h
    obtain ⟨hav, hbv⟩ := h
    exact {
      kinds := hkinds.mpr ⟨hav.kinds, hbv.kinds⟩
      minimum := fun n hn => (hmin n).mpr ⟨hav.minimum n hn, hbv.minimum n hn⟩
      maximum := fun n hn => (hmax n).mpr ⟨hav.maximum n hn, hbv.maximum n hn⟩
      minLength := fun t ht => forall_mem_merge_max.mpr ⟨hav.minLength t ht, hbv.minLength t ht⟩
      maxLength := fun t ht => forall_mem_merge_min.mpr ⟨hav.maxLength t ht, hbv.maxLength t ht⟩
      minItems := fun e he => forall_mem_merge_max.mpr ⟨hav.minItems e he, hbv.minItems e he⟩
      maxItems := fun e he => forall_mem_merge_min.mpr ⟨hav.maxItems e he, hbv.maxItems e he⟩
      uniqueItems := fun e he hu =>
        (hunique.mp hu).elim (hav.uniqueItems e he) (hbv.uniqueItems e he)
      required := fun m hm name hn =>
        (NameSet.mem_union.mp hn).elim (hav.required m hm name) (hbv.required m hm name)
      dependentRequired := fun m hm name hn other ho =>
        (NameSet.mem_requiredBy_unionWith.mp ho).elim
          (hav.dependentRequired m hm name hn other) (hbv.dependentRequired m hm name hn other)
      minProperties := fun m hm =>
        forall_mem_merge_max.mpr ⟨hav.minProperties m hm, hbv.minProperties m hm⟩
      maxProperties := fun m hm =>
        forall_mem_merge_min.mpr ⟨hav.maxProperties m hm, hbv.maxProperties m hm⟩
      candidates := hcandidates.mpr ⟨hav.candidates, hbv.candidates⟩
      excluded := hexcluded.mpr ⟨hav.excluded, hbv.excluded⟩ }

/-- The two ways in which combining two sets ends. -/
theorem intersect_cases (a b : Constraints) :
    (∃ kinds candidates, a.kinds.intersect b.kinds = some kinds ∧
      commonCandidates? a.candidates b.candidates = some candidates ∧
      a.intersect b = .ok (mergeWith kinds candidates a b)) ∨
    ((a.kinds.intersect b.kinds = none ∨ commonCandidates? a.candidates b.candidates = none) ∧
      ∃ reason, a.intersect b = .error (.unsatisfiable a.pointer reason)) := by
  unfold intersect
  cases hk : a.kinds.intersect b.kinds with
  | none => exact .inr ⟨.inl rfl, _, rfl⟩
  | some kinds =>
    cases hc : commonCandidates? a.candidates b.candidates with
    | none => exact .inr ⟨.inr rfl, _, rfl⟩
    | some candidates => exact .inl ⟨kinds, candidates, rfl, rfl, rfl⟩

/-- Two sets that meet have kinds and candidates in common, and the other fields are merged. -/
theorem exists_mergeWith_of_intersect (h : a.intersect b = .ok c) :
    ∃ kinds candidates, a.kinds.intersect b.kinds = some kinds ∧
      commonCandidates? a.candidates b.candidates = some candidates ∧
      c = mergeWith kinds candidates a b := by
  rcases intersect_cases a b with ⟨kinds, candidates, hk, hc, hok⟩ | ⟨-, reason, herr⟩
  · exact ⟨kinds, candidates, hk, hc, Except.ok.inj (h.symm.trans hok)⟩
  · cases herr.symm.trans h

/-- The combination of two sets admits what both of them admit. -/
theorem admits_intersect (ha : a.Ordered) (hb : b.Ordered) (h : a.intersect b = .ok c) :
    c.Admits value ↔ a.Admits value ∧ b.Admits value := by
  obtain ⟨kinds, candidates, hk, hc, rfl⟩ := exists_mergeWith_of_intersect h
  exact admits_mergeWith ha hb (KindSet.accepts_intersect hk) (forall_mem_commonCandidates? hc)

/-- Two sets contradict each other only when no value meets both. -/
theorem not_admits_of_intersect_eq_error {error : SchemaError} (h : a.intersect b = .error error) :
    ¬(a.Admits value ∧ b.Admits value) := by
  intro h
  obtain ⟨hav, hbv⟩ := h
  rcases intersect_cases a b with ⟨kinds, candidates, -, -, hok⟩ | ⟨hnone | hnone, -⟩
  · cases hok.symm.trans h
  · exact KindSet.not_accepts_of_intersect_eq_none hnone ⟨hav.kinds, hbv.kinds⟩
  · exact not_contains_of_commonCandidates?_eq_none hnone ⟨hav.candidates, hbv.candidates⟩

/-- The bounds of a combination are numbers again. -/
theorem Ordered.intersect (ha : a.Ordered) (hb : b.Ordered) (h : a.intersect b = .ok c) :
    c.Ordered := by
  obtain ⟨kinds, candidates, -, -, rfl⟩ := exists_mergeWith_of_intersect h
  exact ⟨ordered_merge ha.minimum hb.minimum, ordered_merge ha.maximum hb.maximum⟩

end Constraints

end Specimen
