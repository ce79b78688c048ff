import Specimen.Instance.Run
import Specimen.Json.Printer
import Specimen.Random.Range

/-!
# Specimen.Instance.Array

Arrays for a schema. Each item is produced for the schema at its position (`itemSchema?`), one of
them for `contains`. Where items have to be different, an item that was there before is drawn
again a number of times (`distinct`); items are different when their texts are.
-/

namespace Specimen.Instance

variable {σ : Type} [Random.Source σ]

/-- The lengths to choose from. The first items are filled in as far as the length allows. -/
def arrayBounds (set : Constraints) (fallback : Nat × Nat) : Except SchemaError (Nat × Nat) :=
  let count := set.prefixItems.length
  let limit := set.maxItems.getD (max fallback.2 (set.minItems.getD 0))
  let greatest := if set.items = .forbidden then min limit count else limit
  let filled := max (set.minItems.getD (min fallback.1 greatest)) (min count greatest)
  let least := if set.contains.isSome then max filled 1 else filled
  if greatest < least then
    .error (.unsatisfiable set.pointer
      s!"array needs at least {least} items but at most {greatest} are allowed")
  else .ok (least, greatest)

/-- The schema of the item at a position, if there is one. -/
def itemSchema? (set : Constraints) (index : Nat) : Option Pointer :=
  set.prefixItems[index]? <|> set.items.schema?

/-- The schema of the item at a position of an array that has its item for `contains` at
`containsAt`. -/
def schemaAt? (set : Constraints) (containsAt : Option Nat) (index : Nat) : Option Pointer :=
  if containsAt = some index then set.contains else itemSchema? set index

/-- A value for the schema of an item; where there is none, `null`. -/
def element (child : Pointer → Run σ Json) : Option Pointer → Run σ Json
  | some node => child node
  | none => return .null

/-- An item whose text is not among those of the items before, if one is found in so many further
attempts. -/
def distinct (known : List String) (draw : Run σ Json) (item : Json) :
    (attempts : Nat) → Run σ Json
  | 0 => return item
  | attempts + 1 => do
    if known.contains item.text then distinct known draw (← draw) attempts else return item

/-- The item at one position. Where items have to be different, it is drawn again as long as its text
is among those of the items before. -/
def itemFrom (options : Options) (set : Constraints) (known : List String) (draw : Run σ Json) :
    Run σ Json :=
  if set.uniqueItems then do
    let item ← distinct known draw (← draw) (options.uniqueAttempts - 1)
    if known.contains item.text then
      record .uniqueItemsExhausted set.pointer
        s!"no distinct item after {options.uniqueAttempts} attempts; duplicate kept"
    return item
  else draw

/-- The items from the one at `index` on, as many as asked for. -/
def items (options : Options) (set : Constraints) (child : Pointer → Run σ Json)
    (containsAt : Option Nat) (known : List String) (index : Nat) :
    (count : Nat) → Run σ (List Json)
  | 0 => return []
  | count + 1 => do
    let item ← itemFrom options set known (element child (schemaAt? set containsAt index))
    let known := if set.uniqueItems then item.text :: known else known
    return item :: (← items options set child containsAt known (index + 1) count)

/-- A length in `[least, greatest]`; the only one takes no draw. -/
def lengthWithin (least greatest : Nat) : Run σ Nat :=
  if least = greatest then return least else Run.draw (Random.size least greatest)

/-- The position of the item for `contains`, if there has to be one. -/
def containsPosition (set : Constraints) (length : Nat) : Run σ (Option Nat) :=
  if set.contains.isSome then some <$> Run.draw (Random.index length) else return none

/-- An array for a schema; `child` produces a value for the schema of an item. -/
def array (options : Options) (set : Constraints) (child : Pointer → Run σ Json) :
    Run σ (List Json) := do
  let (least, greatest) ← Run.check (arrayBounds set options.arrayLength)
  let length ← lengthWithin least greatest
  let containsAt ← containsPosition set length
  items options set child containsAt [] 0 length

end Specimen.Instance
