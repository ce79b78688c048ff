import Specimen.Instance.Run
import Specimen.NameSet.Closure
import Specimen.Random.Shuffle

/-!
# Specimen.Instance.Object

Objects for a schema.

* `chooseNames` — the declared and required names that an object gets: optional ones at random,
  then fewer or more of them as the number of properties demands, always together with the names
  that they require;
* `addProperties` — a property for each chosen name;
* `addExtras` — further properties, under names that are sampled from a pattern or made up;
* `objectWith` — an object with the chosen names; `object` — the whole object.
-/

namespace Specimen.Instance

variable {σ : Type} [Random.Source σ]

/-! ### Choosing names -/

/-- The declared names that may be left out and are not ruled out. -/
def optionalNames (document : Document) (set : Constraints) : List String :=
  set.properties.entries.filterMap fun (name, node) =>
    if name ∉ set.required ∧ (document.fragment node).bool? ≠ some false then some name else none

/-- Adds each of some names with the given probability. -/
def drawNames (probability : Double) : List String → NameSet → Random.Draw σ NameSet
  | [], chosen => return chosen
  | name :: rest, chosen => do
    let isChosen ← Random.chance probability
    drawNames probability rest (if isChosen then chosen.insert name else chosen)

/-- Whether one of the chosen names requires a name. -/
def isRequired (set : Constraints) (chosen : NameSet) (name : String) : Bool :=
  chosen.toList.any fun other =>
    other ≠ name ∧ name ∈ NameSet.requiredBy set.dependentRequired other

/-- Drops some of the chosen names in turn until at most `limit` are left; a name that another one
requires stays. -/
def dropNames (set : Constraints) (limit : Nat) : List String → NameSet → NameSet
  | [], chosen => chosen
  | name :: rest, chosen =>
    if chosen.size ≤ limit then chosen
    else dropNames set limit rest
      (if isRequired set chosen name then chosen else chosen.erase name)

/-- Adds some names in turn, each with all that it requires, until at least `least` are chosen. A
name with which there would be more than `greatest` is passed over. -/
def addNames (set : Constraints) (least greatest : Nat) : List String → NameSet → NameSet
  | [], chosen => chosen
  | name :: rest, chosen =>
    if least ≤ chosen.size then chosen
    else
      let grown := NameSet.closure set.dependentRequired (chosen.insert name)
      addNames set least greatest rest (if grown.size ≤ greatest then grown else chosen)

/-- Reduces the chosen names to as many as there may be, at worst to those that are `forced`. -/
def reduceNames (set : Constraints) (forced chosen : NameSet) : Attempt σ NameSet :=
  match set.maxProperties with
  | none => return chosen
  | some limit => do
    if limit < forced.size then
      unsatisfiable set.pointer
        s!"{forced.size} required properties (with dependencies) exceed maxProperties {limit}"
    let droppable ← Attempt.draw (Random.shuffle (chosen.toList.filter (· ∉ forced)))
    let chosen := dropNames set limit droppable chosen
    return if limit < chosen.size then forced else chosen

/-- Adds optional names to the chosen ones until there are as many as there have to be, or until
there are no more. -/
def extendNames (set : Constraints) (optional : List String) (chosen : NameSet) :
    Attempt σ NameSet :=
  match set.minProperties with
  | none => return chosen
  | some least => do
    let addable ← Attempt.draw (Random.shuffle (optional.filter (· ∉ chosen)))
    return addNames set least (set.maxProperties.getD Constraints.maxCount) addable chosen

/-- The names that an object gets before any are made up. -/
def chooseNames (document : Document) (set : Constraints) (probability : Double) :
    Attempt σ NameSet := do
  let optional := optionalNames document set
  let drawn ← Attempt.draw (drawNames probability optional set.required)
  let chosen ← reduceNames set (NameSet.closure set.dependentRequired set.required)
    (NameSet.closure set.dependentRequired drawn)
  extendNames set optional chosen

/-! ### Values of properties -/

/-- A value for a property of which nothing is known: one that its name suggests, or else `null`. -/
def unknownValue (provider : Provider σ) (property : Option String) : Random.Draw σ Json :=
  match property.bind provider.propertyHint with
  | some hint => provider.provideOrText hint
  | none => return .null

/-- The schema of the first pattern that matches a name. -/
def patternSchema? (library : Pattern.Library σ) (set : Constraints) (name : String) :
    Option Pointer :=
  (set.patternProperties.find? fun (pattern, _) =>
    (library.matches? pattern).any (· name)).map (·.2)

/-- The schema of the value under a name: that of the property, of a pattern, or of all others. -/
def memberSchema? (library : Pattern.Library σ) (set : Constraints) (name : String) :
    Option Pointer :=
  set.properties.get? name <|> patternSchema? library set name <|>
    set.additionalProperties.schema?

variable (setting : Setting σ) (set : Constraints) (child : Pointer → Option String → Run σ Json)

/-- The value under a chosen name. -/
def propertyValue (name : String) : Run σ Json :=
  match memberSchema? setting.library set name with
  | some node => child node (some name)
  | none => do
    if set.additionalProperties = .forbidden then
      record .requiredWithoutProperty set.pointer
        s!"required property '{name}' has no schema; unconstrained value used"
    Run.draw (unknownValue setting.provider (some name))

/-- Adds a property under each of some names. -/
def addProperties : List String → NameTable Json → Run σ (NameTable Json)
  | [], members => return members
  | name :: rest, members => do
    addProperties rest (members.insert name (← propertyValue setting set child name))

/-! ### Further properties -/

/-- Whether properties are added without need. -/
def invitesExtras : Bool :=
  !set.patternProperties.isEmpty ||
    match set.additionalProperties with
    | .allowed | .schema _ => true
    | .unspecified | .forbidden => false

/-- Whether names may be made up. -/
def permitsMadeUp (isNeeded : Bool) : Bool :=
  match set.additionalProperties with
  | .forbidden => false
  | .unspecified => isNeeded || set.patternProperties.isEmpty
  | .allowed | .schema _ => true

/-- Whether a name is declared or already present. -/
def isTaken (members : NameTable Json) (name : String) : Bool :=
  members.has name || set.properties.has name

/-- A property under a name that is sampled from one of the patterns, unless the name is taken. -/
def patternedProperty (members : NameTable Json) : Run σ (Option (String × Json)) := do
  let index ← Run.draw (Random.index set.patternProperties.length)
  match set.patternProperties[index]? with
  | none => return none
  | some (pattern, node) =>
    match setting.library.samples? pattern setting.options.patternMaxRepeat with
    | none =>
      record .patternUnsupported node s!"property pattern '{pattern}' cannot be sampled"
      return none
    | some sample =>
      let name ← Run.draw sample
      if isTaken set members name then return none
      return some (name, ← child node (some name))

/-- A name that fits the schema of names, or else a word. -/
def madeUpName : Run σ String :=
  match set.propertyNames with
  | some node => return Provider.textOf (← child node none)
  | none => return Letters.lower (← Run.draw (setting.provider.provideText "word"))

/-- A property under a made-up name, unless the name is taken or belongs to a pattern. -/
def madeUpProperty (members : NameTable Json) : Run σ (Option (String × Json)) := do
  let name ← madeUpName setting set child
  if name.isEmpty || isTaken set members name || (patternSchema? setting.library set name).isSome then
    return none
  match set.additionalProperties.schema? with
  | some node => return some (name, ← child node (some name))
  | none => return some (name, ← Run.draw (unknownValue setting.provider (some name)))

/-- Whether the next name is sampled from a pattern; where both ways are open, by chance. -/
def choosesPattern (isNeeded : Bool) : Run σ Bool :=
  if set.patternProperties.isEmpty then return false
  else if permitsMadeUp set isNeeded then Run.draw (Random.chance (.ofDecimal false 5 (-1)))
  else return true

/-- One more property, if the name that is tried can be taken. -/
def tryProperty (usesPattern : Bool) (members : NameTable Json) :
    Run σ (Option (String × Json)) :=
  if usesPattern then patternedProperty setting set child members
  else madeUpProperty setting set child members

/-- One more property, if a name for it is found. -/
def extraProperty (isNeeded : Bool) (members : NameTable Json) :
    (attempts : Nat) → Run σ (Option (String × Json))
  | 0 => return none
  | attempts + 1 => do
    let usesPattern ← choosesPattern set isNeeded
    if !usesPattern && !permitsMadeUp set isNeeded then return none
    match ← tryProperty setting set child usesPattern members with
    | some property => return some property
    | none => extraProperty isNeeded members attempts

/-- Adds so many further properties, or fewer when no more names are found. -/
def addExtras (isNeeded : Bool) : (count : Nat) → NameTable Json → Run σ (NameTable Json)
  | 0, members => return members
  | count + 1, members => do
    match ← extraProperty setting set child isNeeded members setting.options.uniqueAttempts with
    | some (name, value) => addExtras isNeeded count (members.insert name value)
    | none => return members

/-! ### Objects -/

/-- How many further properties are added without need, if there is room for them. -/
def invitedExtras (options : Options) : Run σ Nat :=
  if invitesExtras set then Run.draw (Random.size 0 options.maxExtraProperties) else return 0

/-- The members of an object that has the given names for certain. -/
def objectWith (names : NameSet) : Run σ (NameTable Json) := do
  let members ← addProperties setting set child names.toList ∅
  let least := set.minProperties.getD 0
  let room := set.maxProperties.getD Constraints.maxCount - members.size
  let needed := least - members.size
  let invited ← invitedExtras set setting.options
  let members ←
    addExtras setting set child (0 < needed) (min (max needed invited) room) members
  if members.size < least then
    Run.attempt (unsatisfiable set.pointer
      s!"minProperties {least} cannot be met; only {members.size} properties could be produced")
  return members

/-- The members of an object for a schema; `child` produces a value for the schema of a property. -/
def object : Run σ (NameTable Json) := do
  objectWith setting set child (← Run.attempt
    (chooseNames setting.document set setting.options.optionalPropertyProbability))

end Specimen.Instance
