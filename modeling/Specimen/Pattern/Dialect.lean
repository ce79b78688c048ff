/-!
# Specimen.Pattern.Dialect

Patterns are written in the syntax of ECMA-262. `Pattern.translate` writes them in the
dialect that `Regex.parse?` reads:

* the shorthand classes become ASCII classes;
* a slash loses its backslash;
* inside a class, an opening bracket and a leading closing bracket are literals;
* for sampling, anchors and word boundaries are left out, because a sample is a whole text
  and a pattern may match any part of a text.
-/

namespace Specimen.Pattern

/-- The ASCII digits. -/
def digitClass : List Char := "0-9".toList

/-- The ASCII characters of words. -/
def wordClass : List Char := "A-Za-z0-9_".toList

/-- The ASCII blanks. -/
def spaceClass : List Char := " \\t\\n\\r".toList

/-- The translation of a backslash and the character behind it. -/
def translateEscape (forSampling inClass : Bool) (c : Char) : List Char :=
  match c, inClass with
  | 'd', true => digitClass
  | 'w', true => wordClass
  | 's', true => spaceClass
  | 'd', false => '[' :: digitClass ++ [']']
  | 'w', false => '[' :: wordClass ++ [']']
  | 's', false => '[' :: spaceClass ++ [']']
  | 'D', false => '[' :: '^' :: digitClass ++ [']']
  | 'W', false => '[' :: '^' :: wordClass ++ [']']
  | 'S', false => '[' :: '^' :: spaceClass ++ [']']
  | '/', _ => ['/']
  | c, inClass =>
    if forSampling ∧ !inClass ∧ (c = 'b' ∨ c = 'B') then [] else ['\\', c]

/-- The translation of a pattern from some position on, inside or outside a class. -/
def translateFrom (forSampling : Bool) : Bool → List Char → List Char
  | _, [] => []
  | _, ['\\'] => ['\\', '\\']
  | inClass, '\\' :: c :: rest =>
    translateEscape forSampling inClass c ++ translateFrom forSampling inClass rest
  | false, '[' :: '^' :: ']' :: rest =>
    '[' :: '^' :: '\\' :: ']' :: translateFrom forSampling true rest
  | false, '[' :: '^' :: rest => '[' :: '^' :: translateFrom forSampling true rest
  | false, '[' :: ']' :: rest => '[' :: '\\' :: ']' :: translateFrom forSampling true rest
  | false, '[' :: rest => '[' :: translateFrom forSampling true rest
  | true, '[' :: rest => '\\' :: '[' :: translateFrom forSampling true rest
  | true, ']' :: rest => ']' :: translateFrom forSampling false rest
  | inClass, c :: rest =>
    if forSampling ∧ !inClass ∧ (c = '^' ∨ c = '$') then translateFrom forSampling inClass rest
    else c :: translateFrom forSampling inClass rest

/-- A pattern in the dialect of the regular expressions. -/
def translate (pattern : String) (forSampling : Bool) : String :=
  String.ofList (translateFrom forSampling false pattern.toList)

end Specimen.Pattern
