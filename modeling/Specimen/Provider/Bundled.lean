import Specimen.Provider.Basic
import Specimen.Provider.Color
import Specimen.Provider.Locale
import Specimen.Provider.Words.Business
import Specimen.Provider.Words.Lorem
import Specimen.Provider.Words.Person
import Specimen.Provider.Words.Place

/-!
# Specimen.Provider.Bundled

The source of realistic values that comes with the library (`Provider.bundled`).

`Bundled.text` draws a text for a hint. Passwords and encoded bytes can also be drawn with a
chosen length (`Bundled.sizedText`): four characters of base64 stand for three bytes and two
hexadecimal digits for one.
-/

namespace Specimen.Provider

namespace Bundled

variable {σ : Type} [Random.Source σ]

/-! ### Lists by locale -/

/-- First names. -/
def firstNames : Locale → Array String
  | .enUS => Words.Person.firstNamesEnglish
  | .ptBR => Words.Person.firstNamesPortuguese

/-- Last names. -/
def lastNames : Locale → Array String
  | .enUS => Words.Person.lastNamesEnglish
  | .ptBR => Words.Person.lastNamesPortuguese

/-- What company names end in. -/
def companySuffixes : Locale → Array String
  | .enUS => Words.Business.companySuffixesEnglish
  | .ptBR => Words.Business.companySuffixesPortuguese

/-- Forms of telephone numbers. -/
def phoneFormats : Locale → Array String
  | .enUS => Words.Business.phoneFormatsEnglish
  | .ptBR => Words.Business.phoneFormatsPortuguese

/-! ### Bytes -/

/-- The characters of base64. -/
def base64Letters : Array Char :=
  "ABCDEFGHIJKLMNOPQRSTUVWXYZabcdefghijklmnopqrstuvwxyz0123456789+/".toList.toArray

/-- The character of base64 for six bits. -/
def base64Char (bits : Nat) : Char := base64Letters.getD (bits % 64) '='

/-- Bytes in base64, filled up to groups of four characters. -/
def base64 : List UInt8 → List Char
  | a :: b :: c :: rest =>
    let bits := a.toNat * 65536 + b.toNat * 256 + c.toNat
    base64Char (bits / 262144) :: base64Char (bits / 4096) :: base64Char (bits / 64) ::
      base64Char bits :: base64 rest
  | [a, b] =>
    let bits := a.toNat * 65536 + b.toNat * 256
    [base64Char (bits / 262144), base64Char (bits / 4096), base64Char (bits / 64), '=']
  | [a] =>
    let bits := a.toNat * 65536
    [base64Char (bits / 262144), base64Char (bits / 4096), '=', '=']
  | [] => []

/-- Bytes in hexadecimal digits. -/
def hex (bytes : List UInt8) : List Char :=
  bytes.flatMap fun byte => [Numeral.hexDigit (byte.toNat / 16), Numeral.hexDigit (byte.toNat % 16)]

/-- Between `lo` and `hi` random bytes. -/
def drawBytes (lo hi : Nat) : Random.Draw σ (List UInt8) := do
  Random.bytes (← Random.size lo hi)

/-- A random identifier of the fourth version, in its usual groups. -/
def drawUuid : Random.Draw σ String := do
  let bytes ← Random.bytes 16
  let marked := bytes.mapIdx fun i byte =>
    if i = 6 then (byte &&& 0x0f) ||| 0x40 else if i = 8 then (byte &&& 0x3f) ||| 0x80 else byte
  let digits := hex marked
  let group (start length : Nat) : String := String.ofList ((digits.drop start).take length)
  return "-".intercalate [group 0 8, group 8 4, group 12 4, group 16 4, group 20 12]

/-! ### Dates and times -/

/-- A number below 100 with two digits. -/
def twoDigits (value : Nat) : String := (if value < 10 then "0" else "") ++ toString value

/-- The days of the months of a year. -/
def monthLengths (year : Nat) : List Nat :=
  let isLeap := year % 4 = 0 ∧ (year % 100 ≠ 0 ∨ year % 400 = 0)
  [31, if isLeap then 29 else 28, 31, 30, 31, 30, 31, 31, 30, 31, 30, 31]

/-- The date that lies some days behind the first of a month, in the months that are left. -/
def dateIn (year month days : Nat) : List Nat → Option String
  | [] => none
  | length :: rest =>
    if days < length then some s!"{year}-{twoDigits month}-{twoDigits (days + 1)}"
    else dateIn year (month + 1) (days - length) rest

/-- The date that lies some days behind the start of a year, within the given number of years. -/
def dateFrom (year days : Nat) : Nat → String
  | 0 => ""
  | years + 1 =>
    match dateIn year 1 days (monthLengths year) with
    | some date => date
    | none => dateFrom (year + 1) (days - (monthLengths year).foldl (· + ·) 0) years

/-- A date from the start of 2020 to the end of 2025. -/
def drawDate : Random.Draw σ String := return dateFrom 2020 (← Random.below64 2191) 7

/-- A time of day. -/
def drawTime : Random.Draw σ String := do
  let seconds ← Random.below32 86400
  return ":".intercalate
    [twoDigits (seconds / 3600), twoDigits (seconds / 60 % 60), twoDigits (seconds % 60)]

/-- A span of days, hours and minutes. -/
def drawDuration : Random.Draw σ String := do
  let days ← Random.below32 30
  let hours ← Random.below32 24
  let minutes ← Random.below32 60
  return s!"P{days}DT{hours}H{minutes}M"

/-! ### Words and names -/

/-- A word. -/
def drawWord : Random.Draw σ String := Random.choose Words.Lorem.words

/-- As many words as asked for. -/
def drawWords : Nat → Random.Draw σ (List String)
  | 0 => return []
  | count + 1 => do
    let first ← drawWord
    return first :: (← drawWords count)

/-- A sentence of `lo` up to, but not including, `stop` words. -/
def drawSentence (lo stop : Nat) : Random.Draw σ String := do
  return " ".intercalate (← drawWords (← Random.sizeBefore lo stop)) ++ "."

/-- As many sentences as asked for. -/
def drawSentences : Nat → Random.Draw σ (List String)
  | 0 => return []
  | count + 1 => do
    let first ← drawSentence 4 10
    return first :: (← drawSentences count)

/-- One or two sentences. -/
def drawParagraph : Random.Draw σ String := do
  return "\n".intercalate (← drawSentences (← Random.sizeBefore 1 3))

/-- A host name. -/
def drawHostname : Random.Draw σ String := do
  let label ← drawWord
  return Letters.lower label ++ "." ++ (← Random.choose Words.Business.domainSuffixes)

/-- A user name: a first name, alone or with a word or a number. -/
def drawUsername (locale : Locale) : Random.Draw σ String := do
  let form := (← Random.byte).toNat
  let drawFirst : Random.Draw σ String := return Letters.lower (← Random.choose (firstNames locale))
  if form = 0 then drawFirst
  else if form ≤ 2 then
    let word ← drawWord
    return word ++ "." ++ (← drawFirst)
  else if form ≤ 4 then
    let first ← drawFirst
    return first ++ toString (← Random.byte)
  else
    let first ← drawFirst
    return first ++ "_" ++ (← drawWord)

/-- Replaces each caret of a form by a digit other than zero and each number sign by a digit. -/
def fillDigits : List Char → Random.Draw σ (List Char)
  | [] => return []
  | c :: rest => do
    let c ←
      if c = '^' then pure (Nat.digitChar (1 + (← Random.below32 9)))
      else if c = '#' then pure (Nat.digitChar (← Random.below32 10))
      else pure c
    return c :: (← fillDigits rest)

/-- One of some forms with its digits filled in. -/
def drawForm (forms : Array String) : Random.Draw σ String := do
  return String.ofList (← fillDigits (← Random.choose forms).toList)

/-- The name of a city. -/
def drawCity (locale : Locale) : Random.Draw σ String := do
  let form ← Random.below32 5
  if form = 0 then
    let cityPrefix ← Random.choose Words.Place.cityPrefixes
    let first ← Random.choose (firstNames locale)
    let last ← Random.choose (lastNames locale)
    return " ".intercalate [cityPrefix, first, last, ← Random.choose Words.Place.citySuffixes]
  else
    let name ← Random.choose (if form = 1 then firstNames locale else lastNames locale)
    return name ++ " " ++ (← Random.choose Words.Place.citySuffixes)

/-- The name of a street. -/
def drawStreet (locale : Locale) : Random.Draw σ String := do
  let name ← Random.choose (if ← Random.flip then firstNames locale else lastNames locale)
  match locale with
  | .enUS => return name ++ " " ++ (← Random.choose Words.Place.streetSuffixesEnglish)
  | .ptBR => return (← Random.choose Words.Place.streetSuffixesPortuguese) ++ " " ++ name

/-- The name of a company: a last name, or two. -/
def drawCompany (locale : Locale) : Random.Draw σ String := do
  let form ← Random.index 2
  let first ← Random.choose (lastNames locale)
  let second ← Random.choose (lastNames locale)
  let suffix ← Random.choose (companySuffixes locale)
  return if form = 0 then s!"{first} {suffix}" else s!"{first} and {second} {suffix}"

/-! ### Addresses of machines -/

/-- An address of four bytes; the first one lies in `[1, 223]`. -/
def drawIpv4 : Random.Draw σ String := do
  let first ← Random.between32 1 223
  let second ← Random.byte
  let third ← Random.byte
  let fourth ← Random.byte
  return ".".intercalate [toString first, toString second, toString third, toString fourth]

/-- As many groups of an address as asked for: the low half of a word in capital digits. -/
def drawGroups : Nat → Random.Draw σ (List String)
  | 0 => return []
  | count + 1 => do
    let group := String.ofList (Nat.toDigits 16 ((← Random.draw32) % 65536))
    return group.toUpper :: (← drawGroups count)

/-- An address of eight groups. -/
def drawIpv6 : Random.Draw σ String := return ":".intercalate (← drawGroups 8)

/-- A pointer of as many words as asked for. -/
def drawTokens (count : Nat) : Random.Draw σ String := do
  return "".intercalate ((← drawWords count).map ("/" ++ ·))

/-! ### Passwords -/

/-- The characters of passwords. -/
def passwordLetters : Array Char :=
  "0123456789ABCDEFGHIJKLMNOPQRSTUVWXYZabcdefghijklmnopqrstuvwxyz".toList.toArray

/-- As many characters as asked for. -/
def drawPasswordChars : Nat → Random.Draw σ (List Char)
  | 0 => return []
  | count + 1 => do
    let first ← Random.choose passwordLetters
    return first :: (← drawPasswordChars count)

/-- A password of `lo` up to, but not including, `stop` characters. -/
def drawPassword (lo stop : Nat) : Random.Draw σ String := do
  return String.ofList (← drawPasswordChars (← Random.sizeBefore lo stop))

/-! ### Hints -/

/-- A text for a hint. -/
def text (locale : Locale) : Hint → Random.Draw σ String
  | .email => do
    let name ← Random.choose Words.Person.firstNamesEnglish
    return Letters.lower name ++ "@example." ++ (← Random.choose #["com", "net", "org"])
  | .uuid => drawUuid
  | .date => drawDate
  | .dateTime => do
    let date ← drawDate
    return s!"{date}T{← drawTime}Z"
  | .time => return s!"{← drawTime}Z"
  | .duration => drawDuration
  | .uri => do
    let host ← drawHostname
    return "https://" ++ host ++ "/" ++ Letters.lower (← drawWord)
  | .hostname => drawHostname
  | .ipv4 => drawIpv4
  | .ipv6 => drawIpv6
  | .password => drawPassword 8 20
  | .byte => return String.ofList (base64 (← drawBytes 4 24))
  | .binary => return String.ofList (hex (← drawBytes 4 24))
  | .jsonPointer => do drawTokens (← Random.between32 1 3)
  | .name => do
    let first ← Random.choose (firstNames locale)
    return first ++ " " ++ (← Random.choose (lastNames locale))
  | .firstName => Random.choose (firstNames locale)
  | .lastName => Random.choose (lastNames locale)
  | .username => drawUsername locale
  | .word => drawWord
  | .sentence => drawSentence 3 8
  | .paragraph => drawParagraph
  | .phone => drawForm (phoneFormats locale)
  | .city => drawCity locale
  | .country => Random.choose Words.Place.countries
  | .street => drawStreet locale
  | .zip => drawForm Words.Place.zipFormats
  | .company => drawCompany locale
  | .color => Color.draw

/-- A text for a hint with a number of characters in `[minLength, maxLength]`. There is none where
no such number is a multiple of the size of a group. The length of other hints is left to
chance. -/
def sizedText (locale : Locale) (hint : Hint) (minLength maxLength : Nat) :
    Random.Draw σ (Option String) :=
  match hint with
  | .password => do
    let length ← Random.size minLength maxLength
    return some (← drawPassword length (← Random.sizeAfter length))
  | .byte => do
    let lo := (minLength + 3) / 4
    let hi := maxLength / 4
    if hi < lo then return none
    let groups ← Random.size lo hi
    return some (String.ofList (base64 (← drawBytes (groups * 3) (groups * 3))))
  | .binary => do
    let lo := (minLength + 1) / 2
    let hi := maxLength / 2
    if hi < lo then return none
    return some (String.ofList (hex (← drawBytes lo hi)))
  | hint => return some (← text locale hint)

end Bundled

/-- The source of realistic values for a locale. -/
def bundled {σ : Type} [Random.Source σ] (locale : Locale) : Provider σ where
  supports hint := (Hint.parse? hint).isSome
  provide hint :=
    match Hint.parse? hint with
    | some hint => return some (.str (← Bundled.text locale hint))
    | none => return none
  provideWithin hint minLength maxLength :=
    match Hint.parse? hint with
    | some hint =>
      if maxLength < minLength then return none
      else return (← Bundled.sizedText locale hint minLength maxLength).map .str
    | none => return none

end Specimen.Provider
