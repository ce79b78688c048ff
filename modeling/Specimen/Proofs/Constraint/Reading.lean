import Specimen.Constraint.Keywords
import Specimen.Proofs.Constraint.Conjunction
import Specimen.Proofs.Double.Order
import Specimen.Proofs.Json.Finite
import Specimen.Schema.Reference

/-!
# Specimen.Proofs.Constraint.Reading

What reading the keywords of a schema gives.

`Constraints.IsReading` takes the reader apart, one field of the demands at a time; every other fact
about the demands of a schema rests on it. The first one is that the bounds are numbers, in a
document whose own numbers are finite (`Constraints.IsReading.ordered`).
-/

namespace Specimen

/-- A computation in two steps succeeds only if both of them do. -/
theorem exists_of_bind_eq_ok {ε α β : Type} {first : Except ε α} {next : α → Except ε β} {b : β}
    (h : (first >>= next) = .ok b) : ∃ a, first = .ok a ∧ next a = .ok b := by
  cases first with
  | error e => cases h
  | ok a => exact ⟨a, rfl, h⟩

/-! ### Values of keywords -/

namespace Document

variable {document : Document} {node : Pointer} {keyword : String} {value : Json}

/-- The doubles of a document are finite, as those that a text writes are (`finite_ofJson`). -/
def Finite (document : Document) : Prop := document.root.isFinite = true

instance (document : Document) : Decidable document.Finite := inferInstanceAs (Decidable (_ = true))

theorem finite_ofJson {text : String} {root : Json} (h : Json.parse? text = some root) :
    (ofJson root).Finite :=
  Json.isFinite_of_parse? h

theorem Finite.fragment (h : document.Finite) (node : Pointer) :
    (document.fragment node).isFinite = true := by
  unfold Document.fragment Pointer.lookup
  cases hf : node.tokens.foldlM Json.child? document.root with
  | none => rfl
  | some part => exact Json.isFinite_of_foldlM h hf

/-- The value of a keyword stands one step below the schema. -/
theorem fragment_push_of_keyword? (h : document.keyword? node keyword = some value) :
    document.fragment (node.push keyword) = value := by
  unfold keyword? fragment at h
  unfold fragment
  rw [Pointer.lookup_push]
  cases hn : node.lookup document.root with
  | none => simp [hn, Json.member?] at h
  | some part =>
    rw [hn, Option.getD_some] at h
    cases part <;> simp only [Json.member?, reduceCtorEq] at h
    simp [Json.child?, h]

end Document

/-! ### The fields of the demands -/

namespace Constraints

variable {document : Document} {node : Pointer} {set : Constraints}

/-- Every field of a set comes from the keywords of a schema. -/
structure IsReading (document : Document) (node : Pointer) (set : Constraints) : Prop where
  pointer : set.pointer = node
  kinds : readKinds document node = .ok set.kinds
  inferred : set.inferred = inferKinds document node
  minimum : readBound document node "minimum" "exclusiveMinimum" tighterMinimum = .ok set.minimum
  maximum : readBound document node "maximum" "exclusiveMaximum" tighterMaximum = .ok set.maximum
  multipleOf : readStep document node = .ok set.multipleOf
  minLength : readCount document node "minLength" = .ok set.minLength
  maxLength : readCount document node "maxLength" = .ok set.maxLength
  pattern : readText document node "pattern" = .ok set.pattern
  format : readText document node "format" = .ok set.format
  minItems : readCount document node "minItems" = .ok set.minItems
  maxItems : readCount document node "maxItems" = .ok set.maxItems
  uniqueItems :
    set.uniqueItems = ((document.keyword? node "uniqueItems").bind Json.bool?).getD false
  items : (set.prefixItems, set.items) = readItems document node
  contains : set.contains = document.subschema? node "contains"
  properties : set.properties = .ofList (document.namedSubschemas node "properties")
  required : readRequired document node = .ok set.required
  additionalProperties : set.additionalProperties = readExtra document node "additionalProperties"
  patternProperties : set.patternProperties = document.namedSubschemas node "patternProperties"
  propertyNames : set.propertyNames = document.subschema? node "propertyNames"
  minProperties : readCount document node "minProperties" = .ok set.minProperties
  maxProperties : readCount document node "maxProperties" = .ok set.maxProperties
  dependentRequired : readDependencies document node = .ok set.dependentRequired
  candidates : readCandidates document node = .ok set.candidates
  excluded : set.excluded = []

theorem isReading_of_ofSchema_eq_ok (h : ofSchema document node = .ok set) :
    IsReading document node set := by
  unfold ofSchema at h
  obtain ⟨kinds, hkinds, h⟩ := exists_of_bind_eq_ok h
  obtain ⟨minimum, hminimum, h⟩ := exists_of_bind_eq_ok h
  obtain ⟨maximum, hmaximum, h⟩ := exists_of_bind_eq_ok h
  obtain ⟨multipleOf, hmultipleOf, h⟩ := exists_of_bind_eq_ok h
  obtain ⟨minLength, hminLength, h⟩ := exists_of_bind_eq_ok h
  obtain ⟨maxLength, hmaxLength, h⟩ := exists_of_bind_eq_ok h
  obtain ⟨pattern, hpattern, h⟩ := exists_of_bind_eq_ok h
  obtain ⟨format, hformat, h⟩ := exists_of_bind_eq_ok h
  obtain ⟨minItems, hminItems, h⟩ := exists_of_bind_eq_ok h
  obtain ⟨maxItems, hmaxItems, h⟩ := exists_of_bind_eq_ok h
  obtain ⟨required, hrequired, h⟩ := exists_of_bind_eq_ok h
  obtain ⟨minProperties, hminProperties, h⟩ := exists_of_bind_eq_ok h
  obtain ⟨maxProperties, hmaxProperties, h⟩ := exists_of_bind_eq_ok h
  obtain ⟨dependentRequired, hdependentRequired, h⟩ := exists_of_bind_eq_ok h
  obtain ⟨candidates, hcandidates, h⟩ := exists_of_bind_eq_ok h
  cases h
  constructor <;> first | assumption | rfl

/-! ### Bounds -/

variable {keyword inclusiveKeyword exclusiveKeyword : String}

theorem isNaN_of_keyword? (finite : document.Finite) {value : Json} {number : Double}
    (hk : document.keyword? node keyword = some value) (hd : value.double? = some number) :
    number.isNaN = false := by
  cases value with
  | num n =>
    cases Option.some.inj hd
    cases n with
    | int i => exact Double.isNaN_ofRatio ..
    | double d =>
      have hfinite := finite.fragment (node.push keyword)
      rw [Document.fragment_push_of_keyword? hk] at hfinite
      exact Double.isNaN_of_isFinite hfinite
  | null | bool _ | str _ | arr _ | obj _ => cases hd

theorem isNaN_of_readNumber (finite : document.Finite) {number : Double}
    (h : readNumber document node keyword = .ok (some number)) : number.isNaN = false := by
  unfold readNumber at h
  split at h
  · cases h
  · rename_i value hk
    split at h
    · rename_i hd
      cases h
      exact isNaN_of_keyword? finite hk hd
    · cases h

theorem ordered_of_readBound (finite : document.Finite)
    {isTighter : Double → Double → Bool} {bound? : Option Bound}
    (h : readBound document node inclusiveKeyword exclusiveKeyword (tighterBound isTighter) =
      .ok bound?) : ∀ bound ∈ bound?, bound.Ordered := by
  unfold readBound at h
  obtain ⟨inclusive, hinclusive, h⟩ := exists_of_bind_eq_ok h
  have hordered (exclusive : Bool) :
      ∀ bound ∈ inclusive.map fun value => (⟨value, exclusive⟩ : Bound), bound.Ordered := by
    cases inclusive with
    | none => simp
    | some value => simpa [Bound.Ordered] using isNaN_of_readNumber finite hinclusive
  -- The forms of the second keyword: missing, `false`, `true`, a number of its own.
  split at h
  · cases h; exact hordered false
  · cases h; exact hordered false
  · cases h; exact hordered true
  · rename_i value _ _ hk
    split at h
    · rename_i exclusive hd
      cases h
      refine ordered_merge (hordered false) ?_
      simpa [Bound.Ordered] using isNaN_of_keyword? finite hk hd
    · cases h

/-- The bounds that a schema sets are numbers. -/
theorem IsReading.ordered (h : IsReading document node set) (finite : document.Finite) :
    set.Ordered :=
  ⟨ordered_of_readBound finite h.minimum, ordered_of_readBound finite h.maximum⟩

end Constraints

end Specimen
