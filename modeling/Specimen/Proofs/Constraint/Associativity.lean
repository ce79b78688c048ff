import Specimen.Proofs.Constraint.Conjunction

/-!
# Specimen.Proofs.Constraint.Associativity

How three sets of demands are grouped does not matter (`Constraints.intersect_assoc`).

The fields are merged by different rules, and each rule is associative on its own: the first half of
this module goes through them. Kinds and candidates may run out on the way. A step that is skipped
because of that would have found nothing either, so both groupings fail together. Two rules have
something to ask for: ends of ranges are numbers (`Constraints.Ordered`), as those of every schema
are, and the patterns of the set in the middle are different from each other. Steps of multiples
stay out: `Constraints.commonStep` drops a step that it cannot combine.
-/

namespace Specimen

/-! ### Fields that may be missing -/

/-- Only where all three demands are there does the rule for two of them have to be associative. -/
theorem merge_assoc {α : Type} {combine : α → α → α} {a b c : Option α}
    (h : ∀ x ∈ a, ∀ y ∈ b, ∀ z ∈ c, combine (combine x y) z = combine x (combine y z)) :
    Option.merge combine (Option.merge combine a b) c =
      Option.merge combine a (Option.merge combine b c) := by
  cases a <;> cases b <;> cases c <;> simp_all

/-- The latest demand that is there counts, however the three are grouped. -/
theorem later_assoc {α : Type} {a b c : Option α} : (c <|> b <|> a) = ((c <|> b) <|> a) := by
  cases c <;> rfl

theorem Extra.merge_assoc (a b c : Extra) : (a.merge b).merge c = a.merge (b.merge c) := by
  cases a <;> cases b <;> cases c <;> rfl

/-! ### Names -/

theorem NameSet.union_assoc (a b c : NameSet) : (a.union b).union c = a.union (b.union c) := by
  ext name
  simp only [mem_union, or_assoc]

namespace NameTable

variable {α : Type} {a b c : NameTable α}

theorem unionWith_assoc {combine : α → α → α}
    (h : ∀ x y z, combine (combine x y) z = combine x (combine y z)) :
    unionWith combine (unionWith combine a b) c = unionWith combine a (unionWith combine b c) := by
  apply ext_get?
  intro name
  simp only [get?_unionWith]
  exact Specimen.merge_assoc fun x _ y _ z _ => h x y z

theorem union_assoc : (a.union b).union c = a.union (b.union c) :=
  unionWith_assoc fun _ _ _ => rfl

end NameTable

/-! ### Kinds -/

namespace KindSet

variable {a b c : KindSet} {kind : Kind} {p q : Kind → Bool}

/-- There is only one set of unknown kinds. -/
theorem eq_unknown_of_isUnknown (h : a.isUnknown = true) : a = unknown := by
  have hkinds := a.unknown_alone (List.contains_iff_mem.mp h)
  cases a
  cases hkinds
  rfl

/-- Only the answers for known kinds count. -/
theorem filter?_congr (h : ∀ kind ∈ Kind.known, p kind = q kind) : filter? p = filter? q := by
  unfold filter?
  simp only [List.filter_congr h]

/-- The kinds that two conditions on kinds allow together, as in `intersect`. -/
def both (p q : Kind → Bool) (kind : Kind) : Bool :=
  (p kind && q kind) ||
    (kind == .integer && ((p .integer && q .number) || (q .integer && p .number)))

/-- Conditions on kinds are joined in any grouping. -/
theorem both_assoc (p q r : Kind → Bool) : both (both p q) r = both p (both q r) := by
  funext kind
  unfold both
  cases kind <;> simp <;> grind

/-- Two sets of kinds that are known have the kinds in common that meet both conditions. -/
theorem intersect_eq_filter? (ha : a.isUnknown = false) (hb : b.isUnknown = false) :
    a.intersect b = filter? (both a.contains b.contains) := by
  unfold intersect
  simp only [ha, hb, Bool.false_eq_true, if_false]
  rfl

/-- What is picked out of the known kinds is known itself. -/
theorem isUnknown_eq_false_of_filter? (h : filter? p = some a) : a.isUnknown = false := by
  rw [Bool.eq_false_iff]
  intro hunknown
  have hmem := List.contains_iff_mem.mp hunknown
  rw [kinds_of_filter?_eq_some h] at hmem
  exact absurd (List.mem_filter.mp hmem).1 (by decide)

/-- The kinds picked out are those that meet the condition. -/
theorem contains_of_filter? (h : filter? p = some a) (hk : kind ∈ Kind.known) :
    a.contains kind = p kind := by
  rw [Bool.eq_iff_iff, contains, List.contains_iff_mem, kinds_of_filter?_eq_some h,
    List.mem_filter, and_iff_right hk]

theorem both_congr_left {p' : Kind → Bool} (h : ∀ kind ∈ Kind.known, p kind = p' kind)
    (hk : kind ∈ Kind.known) : both p q kind = both p' q kind := by
  unfold both
  rw [h kind hk, h .integer (by decide), h .number (by decide)]

theorem both_comm (p q : Kind → Bool) : both p q = both q p := by
  funext kind
  unfold both
  rw [Bool.and_comm (p kind), Bool.or_comm (p .integer && q .number)]

theorem both_congr_right {q' : Kind → Bool} (h : ∀ kind ∈ Kind.known, q kind = q' kind)
    (hk : kind ∈ Kind.known) : both p q kind = both p q' kind := by
  rw [both_comm p q, both_comm p q', both_congr_left h hk]

/-- A condition that no known kind meets picks out nothing. -/
theorem filter?_eq_none_of (h : ∀ kind ∈ Kind.known, p kind = false) : filter? p = none := by
  unfold filter?
  rw [dif_pos (List.filter_eq_nil_iff.mpr fun kind hk => by simp [h kind hk])]

/-- Without a kind on one side there is none in common. -/
theorem filter?_both_eq_none (h : filter? p = none) : filter? (both p q) = none := by
  have hp (kind : Kind) (hk : kind ∈ Kind.known) : p kind = false := filter?_eq_none h hk
  refine filter?_eq_none_of fun kind hk => ?_
  simp [both, hp kind hk, hp .integer (by decide), hp .number (by decide)]

/-- A set met with what a condition picks out is picked out by both conditions, and runs out exactly
when they do. -/
theorem bind_filter?_intersect (hc : c.isUnknown = false) :
    (filter? p).bind (·.intersect c) = filter? (both p c.contains) := by
  cases hp : filter? p with
  | none => exact (filter?_both_eq_none hp).symm
  | some d =>
    show d.intersect c = _
    rw [intersect_eq_filter? (isUnknown_eq_false_of_filter? hp) hc]
    exact filter?_congr fun _ => both_congr_left fun _ => contains_of_filter? hp

theorem bind_filter?_intersect' (ha : a.isUnknown = false) :
    (filter? q).bind a.intersect = filter? (both a.contains q) := by
  cases hq : filter? q with
  | none => rw [both_comm]; exact (filter?_both_eq_none hq).symm
  | some d =>
    show a.intersect d = _
    rw [intersect_eq_filter? ha (isUnknown_eq_false_of_filter? hq)]
    exact filter?_congr fun _ => both_congr_right fun _ => contains_of_filter? hq

@[simp] theorem unknown_intersect : unknown.intersect = some := rfl

@[simp] theorem intersect_unknown : a.intersect unknown = some a := by
  unfold intersect
  cases ha : a.isUnknown with
  | true => rw [eq_unknown_of_isUnknown ha]; rfl
  | false => rfl

/-- Narrowing the kinds twice, in either grouping. -/
theorem bind_intersect (a b c : KindSet) :
    (a.intersect b).bind (·.intersect c) = (b.intersect c).bind a.intersect := by
  -- A set that admits everything changes nothing at any place.
  cases ha : a.isUnknown with
  | true => rw [eq_unknown_of_isUnknown ha]; simp
  | false =>
    cases hb : b.isUnknown with
    | true => rw [eq_unknown_of_isUnknown hb]; simp
    | false =>
      cases hc : c.isUnknown with
      | true => rw [eq_unknown_of_isUnknown hc]; simp
      | false =>
        rw [intersect_eq_filter? ha hb, intersect_eq_filter? hb hc, bind_filter?_intersect hc,
          bind_filter?_intersect' ha, both_assoc]

@[simp] theorem isUnknown_unknown : unknown.isUnknown = true := rfl

@[simp] theorem unknown_union : unknown.union a = unknown := rfl

@[simp] theorem union_unknown : a.union unknown = unknown := by
  unfold union
  rw [isUnknown_unknown, Bool.or_true, if_pos rfl]

/-- A union is picked out by one of two conditions. -/
theorem filter?_eq_some_union (ha : a.isUnknown = false) (hb : b.isUnknown = false) :
    filter? (fun kind => a.contains kind || b.contains kind) = some (a.union b) := by
  have hof : a.union b = (filter? fun kind => a.contains kind || b.contains kind).getD unknown := by
    unfold union of
    simp only [ha, hb, Bool.or_self, Bool.false_eq_true, if_false]
    refine congrArg (·.getD unknown) (filter?_congr fun kind _ => ?_)
    exact List.contains_append
  cases hfilter : filter? fun kind => a.contains kind || b.contains kind with
  | some d => rw [hof, hfilter]; rfl
  | none =>
    -- The first set has a kind.
    obtain ⟨kind, hk⟩ := List.exists_mem_of_ne_nil _ a.ne_nil
    have hnone := filter?_eq_none hfilter (mem_known_of_mem ha hk)
    simp [contains, hk] at hnone

theorem union_assoc (a b c : KindSet) : (a.union b).union c = a.union (b.union c) := by
  cases ha : a.isUnknown with
  | true => simp [eq_unknown_of_isUnknown ha]
  | false =>
    cases hb : b.isUnknown with
    | true => simp [eq_unknown_of_isUnknown hb]
    | false =>
      cases hc : c.isUnknown with
      | true => simp [eq_unknown_of_isUnknown hc]
      | false =>
        have hab := filter?_eq_some_union ha hb
        have hbc := filter?_eq_some_union hb hc
        apply Option.some.inj
        rw [← filter?_eq_some_union (isUnknown_eq_false_of_filter? hab) hc,
          ← filter?_eq_some_union ha (isUnknown_eq_false_of_filter? hbc)]
        refine filter?_congr fun kind hk => ?_
        rw [contains_of_filter? hab hk, contains_of_filter? hbc hk, Bool.or_assoc]

end KindSet

/-! ### Ends of ranges -/

namespace Constraints

/-- Of bounds whose values compare like their ranks, the one with the smallest rank is kept; at
equal ranks the first, with the flags joined. -/
theorem tighterBound_assoc {isTighter : Double → Double → Bool} (rank : Double → Int)
    (h : ∀ x y : Bound, x.Ordered → y.Ordered →
      (isTighter x.value y.value = true ↔ rank x.value < rank y.value))
    {x y z : Bound} (hx : x.Ordered) (hy : y.Ordered) (hz : z.Ordered) :
    tighterBound isTighter (tighterBound isTighter x y) z =
      tighterBound isTighter x (tighterBound isTighter y z) := by
  have hcompare {u v : Bound} (hu : u.Ordered) (hv : v.Ordered) :
      tighterBound isTighter u v =
        if rank u.value < rank v.value then u
        else if rank v.value < rank u.value then v
        else ⟨u.value, u.exclusive || v.exclusive⟩ := by
    unfold tighterBound
    simp only [h u v hu hv, h v u hv hu]
  rw [hcompare (ordered_tighterBound hx hy) hz, hcompare hx (ordered_tighterBound hy hz),
    hcompare hx hy, hcompare hy hz]
  rcases Int.lt_trichotomy (rank x.value) (rank y.value) with hxy | hxy | hxy <;>
    rcases Int.lt_trichotomy (rank y.value) (rank z.value) with hyz | hyz | hyz <;>
    grind

/-- Ends that are numbers are ordered, so of three the tightest is found in any grouping. -/
theorem tighterMinimum_assoc {x y z : Bound} (hx : x.Ordered) (hy : y.Ordered) (hz : z.Ordered) :
    tighterMinimum (tighterMinimum x y) z = tighterMinimum x (tighterMinimum y z) :=
  tighterBound_assoc (fun value => -value.scaled)
    (fun _ _ hu hv => (lt_iff_of_ordered hv hu).trans Int.neg_lt_neg_iff.symm) hx hy hz

theorem tighterMaximum_assoc {x y z : Bound} (hx : x.Ordered) (hy : y.Ordered) (hz : z.Ordered) :
    tighterMaximum (tighterMaximum x y) z = tighterMaximum x (tighterMaximum y z) :=
  tighterBound_assoc Double.scaled (fun _ _ => lt_iff_of_ordered) hx hy hz

/-! ### Candidates -/

@[simp] theorem none_commonCandidates? : commonCandidates? none = some := by
  funext b
  cases b <;> rfl

@[simp] theorem commonCandidates?_none {a : Option (List Json)} :
    commonCandidates? a none = some a := by
  cases a <;> rfl

/-- The candidates of a list, if there are any. -/
def someCandidates? (common : List Json) : Option (Option (List Json)) :=
  if common.isEmpty then none else some (some common)

/-- Of two lists of candidates, those of the first stay that the second has too. -/
theorem commonCandidates?_some {xs ys : List Json} :
    commonCandidates? (some xs) (some ys) = someCandidates? (xs.filter (Json.contains ys)) := rfl

/-- Where a further step finds none of no candidates, it does not matter that it is skipped. -/
theorem bind_someCandidates? {listed common : List Json}
    {narrow : Option (List Json) → Option (Option (List Json))}
    (h : narrow (some listed) = someCandidates? common) (hnil : listed = [] → common = []) :
    (someCandidates? listed).bind narrow = someCandidates? common := by
  cases listed with
  | nil => rw [hnil rfl]; rfl
  | cons first rest => exact h

/-- Narrowing the candidates twice, in either grouping. -/
theorem bind_commonCandidates? (a b c : Option (List Json)) :
    (commonCandidates? a b).bind (commonCandidates? · c) =
      (commonCandidates? b c).bind (commonCandidates? a) := by
  cases a with
  | none => simp
  | some xs =>
    cases b with
    | none => simp
    | some ys =>
      cases c with
      | none => simp
      | some zs =>
        have hboth : (xs.filter (Json.contains ys)).filter (Json.contains zs) =
            xs.filter (Json.contains (ys.filter (Json.contains zs))) := by
          rw [List.filter_filter]
          refine List.filter_congr fun value _ => ?_
          rw [Bool.eq_iff_iff, Json.contains_filter_contains, Bool.and_eq_true, and_comm]
        have hleft : (someCandidates? (xs.filter (Json.contains ys))).bind
            (commonCandidates? · (some zs)) = someCandidates? _ :=
          bind_someCandidates? commonCandidates?_some fun hnil => by rw [hnil]; rfl
        have hright : (someCandidates? (ys.filter (Json.contains zs))).bind
            (commonCandidates? (some xs)) = someCandidates? _ :=
          bind_someCandidates? commonCandidates?_some fun hnil => by
            rw [hnil]; exact List.filter_eq_nil_iff.mpr fun _ _ => Bool.false_ne_true
        exact hleft.trans ((congrArg someCandidates? hboth).trans hright.symm)

/-! ### Patterns -/

/-- Puts a schema under its pattern, in the place of the one before. -/
def putPattern (patterns : List (String × Pointer)) (entry : String × Pointer) :
    List (String × Pointer) :=
  if patterns.any (·.1 == entry.1) then
    patterns.map fun other => if other.1 = entry.1 then entry else other
  else patterns ++ [entry]

section Patterns

variable {patterns a b c : List (String × Pointer)} {entry other : String × Pointer}

/-- A pattern that is there keeps its place and gets a new schema. -/
theorem putPattern_of_mem (h : entry.1 ∈ patterns.map (·.1)) :
    putPattern patterns entry =
      patterns.map fun other => if other.1 = entry.1 then entry else other := by
  unfold putPattern
  rw [if_pos]
  simpa using h

/-- A pattern that is not there yet comes last. -/
theorem putPattern_of_not_mem (h : entry.1 ∉ patterns.map (·.1)) :
    putPattern patterns entry = patterns ++ [entry] := by
  unfold putPattern
  rw [if_neg]
  simpa using h

/-- Putting a pattern adds it to the patterns at most. -/
theorem patterns_putPattern :
    (putPattern patterns entry).map (·.1) =
      if entry.1 ∈ patterns.map (·.1) then patterns.map (·.1)
      else patterns.map (·.1) ++ [entry.1] := by
  split
  · rename_i h
    rw [putPattern_of_mem h, List.map_map]
    refine List.map_congr_left fun other _ => ?_
    show (if other.1 = entry.1 then entry else other).1 = other.1
    split <;> simp_all
  · rename_i h
    rw [putPattern_of_not_mem h, List.map_append]
    rfl

theorem mem_patterns_putPattern {pattern : String} (h : pattern ∈ patterns.map (·.1)) :
    pattern ∈ (putPattern patterns entry).map (·.1) := by
  rw [patterns_putPattern]
  split
  · exact h
  · exact List.mem_append_left _ h

theorem self_mem_patterns_putPattern : entry.1 ∈ (putPattern patterns entry).map (·.1) := by
  rw [patterns_putPattern]
  split
  · assumption
  · exact List.mem_concat_self

/-- No pattern comes twice. -/
theorem nodup_putPattern (entry : String × Pointer) (h : (patterns.map (·.1)).Nodup) :
    ((putPattern patterns entry).map (·.1)).Nodup := by
  rw [patterns_putPattern]
  split
  · exact h
  · rename_i hnew
    exact List.nodup_append.mpr
      ⟨h, List.pairwise_singleton .., fun x hx y hy heq =>
        hnew (List.mem_singleton.mp hy ▸ heq ▸ hx)⟩

/-- Replacing a pattern that is not there changes nothing. -/
theorem map_replace_of_not_mem (h : entry.1 ∉ patterns.map (·.1)) :
    (patterns.map fun other => if other.1 = entry.1 then entry else other) = patterns := by
  refine (List.map_congr_left fun other hother => if_neg fun heq => h ?_).trans (List.map_id _)
  exact heq ▸ List.mem_map_of_mem hother

theorem putPattern_cons_same (h : other.1 = entry.1) (hnew : entry.1 ∉ patterns.map (·.1)) :
    putPattern (other :: patterns) entry = entry :: patterns := by
  rw [putPattern_of_mem (by simp [h]), List.map_cons, if_pos h, map_replace_of_not_mem hnew]

theorem putPattern_cons_ne (h : other.1 ≠ entry.1) :
    putPattern (other :: patterns) entry = other :: putPattern patterns entry := by
  by_cases hmem : entry.1 ∈ patterns.map (·.1)
  · rw [putPattern_of_mem hmem, putPattern_of_mem (List.mem_cons_of_mem _ hmem), List.map_cons,
      if_neg h]
  · rw [putPattern_of_not_mem hmem, putPattern_of_not_mem, List.cons_append]
    simp [h.symm] at hmem ⊢
    assumption

/-- Of two schemas under one pattern the later one counts. -/
theorem putPattern_putPattern_same (h : other.1 = entry.1) :
    putPattern (putPattern patterns other) entry = putPattern patterns entry := by
  have hplace : entry.1 ∈ (putPattern patterns other).map (·.1) :=
    h ▸ self_mem_patterns_putPattern
  by_cases hmem : entry.1 ∈ patterns.map (·.1)
  · have hother : other.1 ∈ patterns.map (·.1) := h ▸ hmem
    rw [putPattern_of_mem hplace, putPattern_of_mem hother, putPattern_of_mem hmem, List.map_map]
    refine List.map_congr_left fun old _ => ?_
    simp only [Function.comp_apply, h]
    split <;> simp_all
  · have hother : other.1 ∉ patterns.map (·.1) := h ▸ hmem
    rw [putPattern_of_mem hplace, putPattern_of_not_mem hother, putPattern_of_not_mem hmem,
      List.map_append, map_replace_of_not_mem hmem]
    simp [h]

/-- A pattern that has its place keeps it, so another one can go first. -/
theorem putPattern_comm (hmem : entry.1 ∈ patterns.map (·.1)) (hne : other.1 ≠ entry.1) :
    putPattern (putPattern patterns other) entry =
      putPattern (putPattern patterns entry) other := by
  have hplace : entry.1 ∈ (putPattern patterns other).map (·.1) := mem_patterns_putPattern hmem
  by_cases hother : other.1 ∈ patterns.map (·.1)
  · rw [putPattern_of_mem hplace, putPattern_of_mem (mem_patterns_putPattern hother),
      putPattern_of_mem hother, putPattern_of_mem hmem, List.map_map, List.map_map]
    refine List.map_congr_left fun old _ => ?_
    simp only [Function.comp_apply]
    split <;> split <;> simp_all
  · have hnew : other.1 ∉ (putPattern patterns entry).map (·.1) := by
      rwa [patterns_putPattern, if_pos hmem]
    rw [putPattern_of_mem hplace, putPattern_of_not_mem hother, putPattern_of_not_mem hnew,
      putPattern_of_mem hmem, List.map_append, List.map_singleton, if_neg hne]

/-- A pattern that the later list does not have can be put before or after merging with that list.
-/
theorem foldl_putPattern (hmem : entry.1 ∈ a.map (·.1)) (hnew : entry.1 ∉ b.map (·.1)) :
    putPattern (mergePatterns a b) entry = mergePatterns (putPattern a entry) b := by
  induction b generalizing a with
  | nil => rfl
  | cons first rest ih =>
    rw [List.map_cons, List.mem_cons, not_or] at hnew
    show putPattern (mergePatterns (putPattern a first) rest) entry =
      mergePatterns (putPattern (putPattern a entry) first) rest
    rw [ih (mem_patterns_putPattern hmem) hnew.2, putPattern_comm hmem (Ne.symm hnew.1)]

/-- Putting a schema under its pattern before or after the merge. -/
theorem mergePatterns_putPattern (h : (b.map (·.1)).Nodup) :
    mergePatterns a (putPattern b entry) = putPattern (mergePatterns a b) entry := by
  induction b generalizing a with
  | nil => rfl
  | cons first rest ih =>
    obtain ⟨hnew, hrest⟩ := List.nodup_cons.mp h
    by_cases hfirst : first.1 = entry.1
    · replace hnew : entry.1 ∉ rest.map (·.1) := hfirst ▸ hnew
      rw [putPattern_cons_same hfirst hnew]
      show mergePatterns (putPattern a entry) rest =
        putPattern (mergePatterns (putPattern a first) rest) entry
      rw [foldl_putPattern (hfirst ▸ self_mem_patterns_putPattern) hnew,
        putPattern_putPattern_same hfirst]
    · rw [putPattern_cons_ne hfirst]
      exact ih hrest

/-- The list in the middle has to have each pattern once, since putting a pattern replaces every
schema that is there for it. -/
theorem mergePatterns_assoc (h : (b.map (·.1)).Nodup) :
    mergePatterns (mergePatterns a b) c = mergePatterns a (mergePatterns b c) := by
  induction c generalizing b with
  | nil => rfl
  | cons entry rest ih =>
    have hstep := ih (nodup_putPattern entry h)
    rw [mergePatterns_putPattern h] at hstep
    exact hstep

end Patterns

/-! ### Three sets at once -/

variable {a b c : Constraints}

/-- The bounds of either grouping are the same if all of them are numbers. -/
theorem bounds_mergeWith_assoc {kinds left right : KindSet}
    {candidates lefts rights : Option (List Json)}
    (ha : a.Ordered) (hb : b.Ordered) (hc : c.Ordered) :
    (mergeWith kinds candidates (mergeWith left lefts a b) c).minimum =
        (mergeWith kinds candidates a (mergeWith right rights b c)).minimum ∧
      (mergeWith kinds candidates (mergeWith left lefts a b) c).maximum =
        (mergeWith kinds candidates a (mergeWith right rights b c)).maximum := by
  constructor
  · exact merge_assoc fun x hx y hy z hz =>
      tighterMinimum_assoc (ha.minimum x hx) (hb.minimum y hy) (hc.minimum z hz)
  · exact merge_assoc fun x hx y hy z hz =>
      tighterMaximum_assoc (ha.maximum x hx) (hb.maximum y hy) (hc.maximum z hz)

theorem merge_max_assoc {x y z : Option Nat} :
    Option.merge max (Option.merge max x y) z = Option.merge max x (Option.merge max y z) :=
  merge_assoc fun _ _ _ _ _ _ => Nat.max_assoc ..

theorem merge_min_assoc {x y z : Option Nat} :
    Option.merge min (Option.merge min x y) z = Option.merge min x (Option.merge min y z) :=
  merge_assoc fun _ _ _ _ _ _ => Nat.min_assoc ..

/-- The last list that is not empty counts. -/
theorem prefixItems_assoc {α : Type} {x y z : List α} :
    (if z.isEmpty then if y.isEmpty then x else y else z) =
      if (if z.isEmpty then y else z).isEmpty then x else if z.isEmpty then y else z := by
  cases hz : z.isEmpty <;> simp [hz]

/-- Merging all other fields twice, in either grouping. The kinds and the candidates are given;
those of the sets in between leave no trace. -/
theorem mergeWith_assoc {kinds ab bc : KindSet} {candidates abs bcs : Option (List Json)}
    {left right : Constraints}
    (hpatterns : (b.patternProperties.map (·.1)).Nodup)
    (hleft : left = mergeWith kinds candidates (mergeWith ab abs a b) c)
    (hright : right = mergeWith kinds candidates a (mergeWith bc bcs b c)) :
    left = { right with
      multipleOf := left.multipleOf, minimum := left.minimum, maximum := left.maximum } := by
  have hinferred : Option.merge KindSet.union (Option.merge KindSet.union a.inferred b.inferred)
      c.inferred = _ := merge_assoc fun x _ y _ z _ => KindSet.union_assoc x y z
  subst hleft hright
  simp only [mergeWith, hinferred, merge_max_assoc, merge_min_assoc, later_assoc, Bool.or_assoc,
    prefixItems_assoc, Extra.merge_assoc, NameTable.union_assoc, NameSet.union_assoc,
    NameTable.unionWith_assoc NameSet.union_assoc, mergePatterns_assoc hpatterns,
    List.append_assoc]
  rfl

/-- How the grouping to the left ends is told by the kinds and the candidates. -/
theorem intersect_left_cases (a b c : Constraints) :
    (∃ kinds candidates ab abs,
      (a.kinds.intersect b.kinds).bind (·.intersect c.kinds) = some kinds ∧
      (commonCandidates? a.candidates b.candidates).bind (commonCandidates? · c.candidates) =
        some candidates ∧
      (a.intersect b).bind (·.intersect c) =
        .ok (mergeWith kinds candidates (mergeWith ab abs a b) c)) ∨
    (((a.kinds.intersect b.kinds).bind (·.intersect c.kinds) = none ∨
      (commonCandidates? a.candidates b.candidates).bind (commonCandidates? · c.candidates) =
        none) ∧
      ∃ error, (a.intersect b).bind (·.intersect c) = .error error) := by
  rcases intersect_cases a b with ⟨ab, abs, hk, hc, hok⟩ | ⟨hnone, reason, herr⟩
  · rw [hk, hc, hok]
    rcases intersect_cases (mergeWith ab abs a b) c with
      ⟨kinds, candidates, hk', hc', hok'⟩ | ⟨hnone, reason, herr⟩
    · exact .inl ⟨kinds, candidates, ab, abs, hk', hc', hok'⟩
    · exact .inr ⟨hnone, _, herr⟩
  · rw [herr]
    refine .inr ⟨hnone.imp (fun h => ?_) (fun h => ?_), _, rfl⟩
    · rw [h]; rfl
    · rw [h]; rfl

/-- What merging the second and the third set first comes to: all fields merged, or a failure for
lack of kinds or of candidates. -/
theorem intersect_right_cases (a b c : Constraints) :
    (∃ kinds candidates bc bcs, (b.kinds.intersect c.kinds).bind a.kinds.intersect = some kinds ∧
      (commonCandidates? b.candidates c.candidates).bind (commonCandidates? a.candidates) =
        some candidates ∧
      (b.intersect c).bind a.intersect =
        .ok (mergeWith kinds candidates a (mergeWith bc bcs b c))) ∨
    (((b.kinds.intersect c.kinds).bind a.kinds.intersect = none ∨
      (commonCandidates? b.candidates c.candidates).bind (commonCandidates? a.candidates) =
        none) ∧
      ∃ error, (b.intersect c).bind a.intersect = .error error) := by
  rcases intersect_cases b c with ⟨bc, bcs, hk, hc, hok⟩ | ⟨hnone, reason, herr⟩
  · rw [hk, hc, hok]
    rcases intersect_cases a (mergeWith bc bcs b c) with
      ⟨kinds, candidates, hk', hc', hok'⟩ | ⟨hnone, reason, herr⟩
    · exact .inl ⟨kinds, candidates, bc, bcs, hk', hc', hok'⟩
    · exact .inr ⟨hnone, _, herr⟩
  · rw [herr]
    refine .inr ⟨hnone.imp (fun h => ?_) (fun h => ?_), _, rfl⟩
    · rw [h]; rfl
    · rw [h]; rfl

/-- **The grouping of three sets of demands does not matter.** Either both groupings contradict
themselves, or they differ in the steps of multiples at most. (No schema has a bound that is not a
number; such a bound is compared with nothing.) -/
theorem intersect_assoc (hpatterns : (b.patternProperties.map (·.1)).Nodup) :
    ((∃ error, (a.intersect b).bind (·.intersect c) = .error error) ∧
      ∃ error, (b.intersect c).bind a.intersect = .error error) ∨
    ∃ left right, (a.intersect b).bind (·.intersect c) = .ok left ∧
      (b.intersect c).bind a.intersect = .ok right ∧
      left = { right with
        multipleOf := left.multipleOf, minimum := left.minimum, maximum := left.maximum } ∧
      (a.Ordered → b.Ordered → c.Ordered →
        left.minimum = right.minimum ∧ left.maximum = right.maximum) := by
  rcases intersect_left_cases a b c with
    ⟨kinds, candidates, ab, abs, hk, hc, hleft⟩ | ⟨hnone, _, hleft⟩
  · rw [KindSet.bind_intersect] at hk
    rw [bind_commonCandidates?] at hc
    rcases intersect_right_cases a b c with
      ⟨kinds', candidates', bc, bcs, hk', hc', hright⟩ | ⟨hnone, -⟩
    · obtain rfl := Option.some.inj (hk.symm.trans hk')
      obtain rfl := Option.some.inj (hc.symm.trans hc')
      exact .inr ⟨_, _, hleft, hright, mergeWith_assoc hpatterns rfl rfl, bounds_mergeWith_assoc⟩
    · rcases hnone with hnone | hnone
      · cases hk.symm.trans hnone
      · cases hc.symm.trans hnone
  · rw [KindSet.bind_intersect, bind_commonCandidates?] at hnone
    rcases intersect_right_cases a b c with ⟨_, _, _, _, hk, hc, -⟩ | ⟨-, hright⟩
    · rcases hnone with hnone | hnone
      · cases hk.symm.trans hnone
      · cases hc.symm.trans hnone
    · exact .inl ⟨⟨_, hleft⟩, hright⟩

/-- Multiples of a step from 1 on, among values of some kinds, with members under patterns. -/
def multiplesFromOne (kinds : List Kind) (step : Double) (exclusive : Bool)
    (patterns : List (String × Pointer)) : Constraints :=
  { any .root with
    kinds := .of kinds
    minimum := some ⟨.ofNat 1, exclusive⟩
    multipleOf := some step
    patternProperties := patterns }

/-- A step without a common multiple is dropped for the next one, which makes the difference between
multiples of 3 and of 6; everything else is the same. -/
theorem intersect_assoc_multiplesFromOne :
    let a := multiplesFromOne [.number] (.ofNat 2) false [("^a", ⟨["1"]⟩)]
    let b := multiplesFromOne [.integer, .string] (.ofDecimal false 15 (-1)) true
      [("^b", ⟨["2"]⟩), ("^a", ⟨["3"]⟩)]
    let c := multiplesFromOne [.number] (.ofNat 3) false [("^b", ⟨["4"]⟩)]
    (b.patternProperties.map (·.1)).Nodup ∧
      ∃ left right, (a.intersect b).bind (·.intersect c) = .ok left ∧
        (b.intersect c).bind a.intersect = .ok right ∧
        left.multipleOf = some (.ofNat 3) ∧ right.multipleOf = some (.ofNat 6) ∧
        right.patternProperties = [("^a", ⟨["3"]⟩), ("^b", ⟨["4"]⟩)] ∧
        left = { right with multipleOf := some (.ofNat 3) } := by
  intro a b c
  have hone : (Double.ofNat 1).isNaN = false := by decide +kernel
  have hordered (kinds : List Kind) (step : Double) (exclusive : Bool)
      (patterns : List (String × Pointer)) :
      (multiplesFromOne kinds step exclusive patterns).Ordered := by
    constructor
    · intro bound h
      simp only [multiplesFromOne, Option.mem_some_iff] at h
      rw [← h, Bound.Ordered, hone]
    · intro bound h
      cases h
  have hpatterns : (b.patternProperties.map (·.1)).Nodup := by decide
  have hthree : ((a.intersect b).bind (·.intersect c)).toOption.map (·.multipleOf) =
      some (some (.ofNat 3)) := by decide +kernel
  have hsix : ((b.intersect c).bind a.intersect).toOption.map (·.multipleOf) =
      some (some (.ofNat 6)) := by decide +kernel
  have hplaces : ((b.intersect c).bind a.intersect).toOption.map (·.patternProperties) =
      some [("^a", ⟨["3"]⟩), ("^b", ⟨["4"]⟩)] := by decide +kernel
  rcases intersect_assoc (a := a) (c := c) hpatterns with
    ⟨⟨error, herror⟩, -⟩ | ⟨left, right, hleft, hright, heq, hbounds⟩
  · rw [herror] at hthree
    cases hthree
  · rw [hleft] at hthree
    rw [hright] at hsix hplaces
    have hstep : left.multipleOf = some (.ofNat 3) := Option.some.inj hthree
    obtain ⟨hminimum, hmaximum⟩ := hbounds (hordered ..) (hordered ..) (hordered ..)
    rw [hstep, hminimum, hmaximum] at heq
    exact ⟨hpatterns, left, right, hleft, hright, hstep, Option.some.inj hsix,
      Option.some.inj hplaces, heq⟩

end Constraints

end Specimen
