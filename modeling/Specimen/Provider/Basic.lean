import Specimen.Json.Printer
import Specimen.PlainText
import Specimen.Provider.Hint

/-!
# Specimen.Provider

Sources of realistic values.

* `Provider` — what a source of values for hints can do;
* `Provider.ofTable` — gives out listed values;
* `Provider.provideOrText`, `provideText`, `provideTextWithin` — values and texts for a hint;
* `Provider.propertyHint` — the hint that the name of a property suggests, if the source knows
  it.
-/

namespace Specimen

/-- A source of values for hints, which draws from the random source `σ`. -/
structure Provider (σ : Type) where
  /-- Whether a hint is known. -/
  supports : String → Bool
  /-- A value for a hint, if there is one. -/
  provide : String → Random.Draw σ (Option Json)
  /-- A value for a hint with a number of characters between two bounds, as far as the source
  minds them. -/
  provideWithin : String → Nat → Nat → Random.Draw σ (Option Json)

namespace Provider

variable {σ : Type} [Random.Source σ]

/-- Gives out the values listed for a hint: a single one without a draw, otherwise one of them. It
minds no bounds. -/
def ofTable (table : List (String × List Json)) : Provider σ :=
  let provide (hint : String) : Random.Draw σ (Option Json) :=
    match (table.lookup hint).getD [] with
    | [] => return none
    | [value] => return some value
    | values => do return values[(← Random.draw32) % values.length]?
  { supports := fun hint => Table.has table hint
    provide
    provideWithin := fun hint _ _ => provide hint }

variable (provider : Provider σ)

/-- A value as a text: a string stands for itself. -/
def textOf : Json → String
  | .str text => text
  | value => value.text

/-- A value for a hint, or else a short text. -/
def provideOrText (hint : String) : Random.Draw σ Json := do
  match ← provider.provide hint with
  | some value => return value
  | none => return .str (← PlainText.draw 1 16)

/-- A text for a hint. -/
def provideText (hint : String) : Random.Draw σ String :=
  return textOf (← provider.provideOrText hint)

/-- A text for a hint with a number of characters between two bounds, as far as the source minds
them. -/
def provideTextWithin (hint : String) (minLength maxLength : Nat) :
    Random.Draw σ (Option String) :=
  return (← provider.provideWithin hint minLength maxLength).map textOf

/-- The hint that the name of a property suggests. -/
def propertyHint (property : String) : Option String :=
  (Hint.ofProperty? property).filter provider.supports

end Provider

end Specimen
