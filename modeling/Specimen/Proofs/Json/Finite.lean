import Specimen.Json.Parser
import Specimen.Schema.Document

/-!
# Specimen.Proofs.Json.Finite

Values whose doubles are finite (`Json.isFinite`).

Every value that a text writes is one (`Json.isFinite_of_parse?`): a number beyond every finite
double is refused, and the parser only puts together what the tokens bring along
(`Json.finite_of_step`).
-/

namespace Specimen.Json

mutual

/-- Whether every double in a value is finite. -/
def isFinite : Json → Bool
  | .num (.double value) => value.isFinite
  | .arr elements => elementsFinite elements
  | .obj members => membersFinite members
  | _ => true

/-- Whether every double in some elements is finite. -/
def elementsFinite : List Json → Bool
  | [] => true
  | value :: rest => isFinite value && elementsFinite rest

/-- Whether every double in some members is finite. -/
def membersFinite : List (String × Json) → Bool
  | [] => true
  | (_, value) :: rest => isFinite value && membersFinite rest

end

theorem elementsFinite_iff {elements : List Json} :
    elementsFinite elements = true ↔ ∀ value ∈ elements, value.isFinite = true := by
  induction elements with
  | nil => simp [elementsFinite]
  | cons value rest ih => simp [elementsFinite, ih]

theorem membersFinite_iff {members : List (String × Json)} :
    membersFinite members = true ↔ ∀ member ∈ members, member.2.isFinite = true := by
  induction members with
  | nil => simp [membersFinite]
  | cons member rest ih => simp [membersFinite, ih]

/-! ### Parts of a value -/

theorem isFinite_of_lookup {key : String} {value : Json} {members : List (String × Json)}
    (h : membersFinite members = true) (hv : members.lookup key = some value) :
    value.isFinite = true := by
  induction members with
  | nil => cases hv
  | cons member rest ih =>
    obtain ⟨hmember, hrest⟩ := List.forall_mem_cons.mp (membersFinite_iff.mp h)
    rw [List.lookup_cons] at hv
    split at hv
    · cases hv
      exact hmember
    · exact ih (membersFinite_iff.mpr hrest) hv

theorem isFinite_of_child? {value child : Json} {token : String} (h : value.isFinite = true)
    (hc : value.child? token = some child) : child.isFinite = true := by
  unfold child? at hc
  split at hc
  · exact isFinite_of_lookup h hc
  · obtain ⟨index, -, hi⟩ := Option.bind_eq_some_iff.mp hc
    exact elementsFinite_iff.mp h child (List.mem_of_getElem? hi)
  · cases hc

theorem isFinite_of_foldlM {tokens : List String} {value part : Json}
    (h : value.isFinite = true) (hp : tokens.foldlM child? value = some part) :
    part.isFinite = true := by
  induction tokens generalizing value with
  | nil =>
    cases hp
    exact h
  | cons token tokens ih =>
    obtain ⟨child, hc, hp⟩ := Option.bind_eq_some_iff.mp hp
    exact ih (isFinite_of_child? h hc) hp

/-! ### Tokens -/

theorem isFinite_of_finite? {value : Double} {number : Number}
    (h : Number.finite? value = some number) : (Json.num number).isFinite = true := by
  unfold Number.finite? at h
  split at h
  · rename_i hfinite
    cases h
    exact hfinite
  · cases h

theorem isFinite_of_unsigned? {negative : Bool} {text : List Char} {number : Number}
    (h : Number.unsigned? negative text = some number) : (Json.num number).isFinite = true := by
  unfold Number.unsigned? at h
  extract_lets whole at h
  split at h
  · cases h
  · split at h
    · split at h
      · cases h
        rfl
      · exact isFinite_of_finite? h
    · extract_lets fraction at h
      split at h
      · cases h
      · obtain ⟨exponent, -, h⟩ := Option.bind_eq_some_iff.mp h
        exact isFinite_of_finite? h
    · obtain ⟨exponent, -, h⟩ := Option.bind_eq_some_iff.mp h
      exact isFinite_of_finite? h

/-- The value of a token, if it has one, is finite. -/
def Token.Finite : Token → Prop
  | .scalar value => value.isFinite = true
  | _ => True

theorem Token.finite_of_next? {text rest : List Char} {token : Token}
    (h : next? text = some (token, rest)) : token.Finite := by
  unfold next? at h
  split at h
  case h_7 =>
    obtain ⟨⟨string, behind⟩, -, h⟩ := Option.bind_eq_some_iff.mp h
    cases h
    rfl
  case h_11 =>
    obtain ⟨number, hnumber, h⟩ := Option.bind_eq_some_iff.mp h
    cases h
    unfold Number.parse? at hnumber
    split at hnumber <;> exact isFinite_of_unsigned? hnumber
  all_goals
    cases h
    trivial

theorem Token.finite_of_scanWith {read : Array Token} {text : List Char} {fuel : Nat}
    {tokens : List Token} (h : scanWith read text fuel = some tokens)
    (hread : ∀ token ∈ read, token.Finite) : ∀ token ∈ tokens, token.Finite := by
  induction fuel generalizing read text with
  | zero => cases h
  | succ fuel ih =>
    unfold scanWith at h
    split at h
    · cases h
      simpa using hread
    · obtain ⟨⟨token, rest⟩, hnext, h⟩ := Option.bind_eq_some_iff.mp h
      refine ih h fun other hother => ?_
      rcases Array.mem_push.mp hother with hother | rfl
      · exact hread other hother
      · exact finite_of_next? hnext

/-! ### Parsing -/

/-- The parts of an open container are finite. -/
def Open.Finite : Open → Prop
  | .array elements => ∀ value ∈ elements, value.isFinite = true
  | .object members _ => ∀ member ∈ members, member.2.isFinite = true

/-- Everything that the parser has read is finite. -/
structure StateFinite (state : List Open × Expected) : Prop where
  stack : ∀ container ∈ state.1, container.Finite
  value : ∀ value, state.2 = .nothing value → value.isFinite = true

theorem isFinite_object {members : List (String × Json)}
    (h : ∀ member ∈ members, member.2.isFinite = true) : (object members).isFinite = true :=
  membersFinite_iff.mpr fun member hm => h member (Table.mem_of_mem_ofList hm)

theorem finite_of_complete {value : Json} {stack : List Open} (hv : value.isFinite = true)
    (hs : ∀ container ∈ stack, container.Finite) : StateFinite (complete value stack) := by
  cases stack with
  | nil =>
    refine ⟨hs, fun other h => ?_⟩
    cases h
    exact hv
  | cons container outer =>
    obtain ⟨hcontainer, houter⟩ := List.forall_mem_cons.mp hs
    cases container with
    | array elements =>
      have helements : (Open.array (value :: elements)).Finite :=
        List.forall_mem_cons.mpr ⟨hv, hcontainer⟩
      exact ⟨List.forall_mem_cons.mpr ⟨helements, houter⟩, by simp [complete]⟩
    | object members key =>
      have hmembers : (Open.object ((key, value) :: members) key).Finite :=
        List.forall_mem_cons.mpr ⟨hv, hcontainer⟩
      exact ⟨List.forall_mem_cons.mpr ⟨hmembers, houter⟩, by simp [complete]⟩

theorem finite_of_enter {container : Open} {expected : Expected} {stack : List Open}
    {next : List Open × Expected} (hc : container.Finite) (he : ∀ value, expected ≠ .nothing value)
    (hs : ∀ container ∈ stack, container.Finite)
    (h : enter container expected stack = some next) : StateFinite next := by
  unfold enter at h
  split at h
  · cases h
    exact ⟨List.forall_mem_cons.mpr ⟨hc, hs⟩, fun value hvalue => absurd hvalue (he value)⟩
  · cases h

theorem finite_of_startValue {stack : List Open} {token : Token} {next : List Open × Expected}
    (hs : ∀ container ∈ stack, container.Finite) (ht : token.Finite)
    (h : startValue stack token = some next) : StateFinite next := by
  have harray : (Open.array []).Finite := fun _ h => absurd h List.not_mem_nil
  have hobject : (Open.object [] "").Finite := fun _ h => absurd h List.not_mem_nil
  unfold startValue at h
  split at h
  · cases h
    exact finite_of_complete ht hs
  · exact finite_of_enter harray (by simp) hs h
  · exact finite_of_enter hobject (by simp) hs h
  · cases h

/-- One more token keeps everything that is read finite. -/
theorem finite_of_step {state next : List Open × Expected} {token : Token}
    (hs : StateFinite state) (ht : token.Finite) (h : step state token = some next) :
    StateFinite next := by
  have hstack := hs.stack
  unfold step at h
  split at h
  case h_1 | h_2 =>
    -- A closing bracket: the array is a value of the container around it.
    cases h
    obtain ⟨hc, houter⟩ := List.forall_mem_cons.mp hstack
    refine finite_of_complete (elementsFinite_iff.mpr fun value hv => ?_) houter
    exact hc value (List.mem_reverse.mp hv)
  case h_3 | h_4 =>
    cases h
    obtain ⟨hc, houter⟩ := List.forall_mem_cons.mp hstack
    refine finite_of_complete (isFinite_object fun member hm => ?_) houter
    exact hc member (List.mem_reverse.mp hm)
  case h_5 | h_6 =>
    -- A key: the members of the object stay.
    cases h
    obtain ⟨hc, houter⟩ := List.forall_mem_cons.mp hstack
    exact ⟨List.forall_mem_cons.mpr ⟨hc, houter⟩, by simp⟩
  case h_7 | h_8 =>
    cases h
    exact ⟨hstack, by simp⟩
  case h_9 =>
    cases h
    obtain ⟨hc, houter⟩ := List.forall_mem_cons.mp hstack
    exact ⟨List.forall_mem_cons.mpr ⟨hc, houter⟩, by simp⟩
  case h_10 | h_11 => exact finite_of_startValue hstack ht h
  case h_12 => cases h

theorem finite_of_steps {state next : List Open × Expected} {tokens : List Token}
    (hs : StateFinite state) (ht : ∀ token ∈ tokens, token.Finite)
    (h : tokens.foldlM step state = some next) : StateFinite next := by
  induction tokens generalizing state with
  | nil =>
    cases h
    exact hs
  | cons token rest ih =>
    obtain ⟨hfirst, hrest⟩ := List.forall_mem_cons.mp ht
    rw [List.foldlM_cons] at h
    obtain ⟨middle, hmiddle, h⟩ := Option.bind_eq_some_iff.mp h
    exact ih (finite_of_step hs hfirst hmiddle) hrest h

/-- A value that a text writes has no other doubles than finite ones. -/
theorem isFinite_of_parse? {text : String} {value : Json} (h : parse? text = some value) :
    value.isFinite = true := by
  obtain ⟨tokens, hscan, h⟩ := Option.bind_eq_some_iff.mp h
  obtain ⟨⟨stack, expected⟩, hsteps, h⟩ := Option.bind_eq_some_iff.mp h
  have htokens : ∀ token ∈ tokens, token.Finite :=
    Token.finite_of_scanWith hscan fun token ht => absurd ht (by simp)
  have hstart : StateFinite ([], .value) := ⟨fun _ h => absurd h List.not_mem_nil, by simp⟩
  have hend := finite_of_steps hstart htokens hsteps
  dsimp only at h
  split at h
  · cases h
    exact hend.value value rfl
  · cases h

end Specimen.Json
