import Specimen.Random.Range

/-!
# Specimen.PlainText

Texts without a meaning (`PlainText.draw`): a short one is a sequence of letters and digits, a
longer one consists of words with single blanks between them, cut to its length. There is no room
for one beyond `Random.maxRoom`.
-/

namespace Specimen.PlainText

/-- The characters of short texts. -/
def letters : Array Char :=
  "abcdefghijklmnopqrstuvwxyzABCDEFGHIJKLMNOPQRSTUVWXYZ0123456789".toList.toArray

/-- The words of longer texts. -/
def words : Array String :=
  #["lorem", "ipsum", "dolor", "sit", "amet", "consectetur", "adipiscing", "elit", "sed", "do",
    "eiusmod", "tempor", "incididunt", "ut", "labore", "et", "dolore", "magna", "aliqua"]

/-- The length from which on a text consists of words. -/
def wordsFrom : Nat := 6

variable {σ : Type} [Random.Source σ]

/-- Letters and digits, as many as asked for. -/
def drawLetters : Nat → Random.Draw σ (List Char)
  | 0 => return []
  | count + 1 => do
    let first ← Random.choose letters
    return first :: (← drawLetters count)

/-- Words with single blanks between them, cut to the given number of characters. -/
def drawWords (missing : Nat) : Random.Draw σ (List Char) := do
  let word := (← Random.choose words).toList
  if _ : word.length < missing then
    return word ++ ' ' :: (← drawWords (missing - word.length - 1))
  else return word.take missing
termination_by missing

/-- How much room the last word may take behind the length asked for. -/
def spareRoom : Nat := 12

/-- The characters of a text of the given length. Words need room, and a blank at the end gives way
to a letter. -/
def drawChars (length : Nat) : Random.Draw σ (List Char) := do
  if length < wordsFrom then drawLetters length
  else
    Random.reserve (length + spareRoom)
    let chars ← drawWords length
    if chars.getLast? = some ' ' then return chars.dropLast ++ (← drawLetters 1) else return chars

/-- A length in `[minLength, maxLength]`; where the bounds are not in order, it is the lower one. -/
def drawLength (minLength maxLength : Nat) : Random.Draw σ Nat :=
  if maxLength ≤ minLength then return minLength else Random.size minLength maxLength

/-- A text with a number of characters in `[minLength, maxLength]`. -/
def draw (minLength maxLength : Nat) : Random.Draw σ String := do
  return String.ofList (← drawChars (← drawLength minLength maxLength))

end Specimen.PlainText
