import Specimen.Pattern.Matcher
import Specimen.Pattern.Sampler

/-!
# Specimen.Pattern.Library

The library of regular expressions that patterns are compiled with.

Reading, sampling and matching an expression is left to a `Library`. It may refuse any expression,
for example one that is nested too deep or gets too large. A pattern has samples
(`Library.samples?`) and is matched (`Library.matches?`) through its two translations.
`Library.bundled` reads expressions with `Regex.parse?`, without limits.
-/

namespace Specimen.Pattern

variable {σ : Type}

/-- What a library of regular expressions makes of the text of an expression. -/
structure Library (σ : Type) where
  /-- Draws texts of an expression; a repetition without limit goes `maxRepeat` beyond its lower
  bound. -/
  sampler? : (expression : String) → (maxRepeat : Nat) → Option (Random.Draw σ String)
  /-- Tests whether an expression matches some part of a text. -/
  matcher? : (expression : String) → Option (String → Bool)

namespace Library

/-- Draws the samples of a pattern. -/
def samples? (library : Library σ) (pattern : String) (maxRepeat : Nat) :
    Option (Random.Draw σ String) :=
  library.sampler? (translate pattern true) maxRepeat

/-- Tests whether a pattern matches some part of a text. -/
def matches? (library : Library σ) (pattern : String) : Option (String → Bool) :=
  library.matcher? (translate pattern false)

variable [Random.Source σ]

/-- Expressions are read by `Regex.parse?`, and no property has a name. -/
def bundled : Library σ where
  sampler? expression maxRepeat :=
    (Regex.parse? .bundled expression >>= Sampler.ofRegex? maxRepeat).map Sampler.draw
  matcher? expression := (Regex.parse? .bundled expression).map Regex.matchesPart

/-- The samples of a pattern are those of its sampler. -/
theorem samples?_bundled (pattern : String) (maxRepeat : Nat) :
    (bundled : Library σ).samples? pattern maxRepeat =
      (Sampler.ofPattern? pattern maxRepeat).map Sampler.draw :=
  rfl

/-- A pattern is matched with its expression. -/
theorem matches?_bundled (pattern : String) :
    (bundled : Library σ).matches? pattern =
      (Pattern.matcher? pattern).map Regex.matchesPart :=
  rfl

end Library

end Specimen.Pattern
