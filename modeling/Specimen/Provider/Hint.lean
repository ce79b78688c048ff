import Specimen.Letters

/-!
# Specimen.Provider.Hint

What a realistic value is about. A hint comes from a `format`, which names it
(`Hint.parse?`), or from the name of a property (`Hint.ofProperty?`).
-/

namespace Specimen

/-- What a realistic value is about. -/
inductive Hint where
  | email
  | uuid
  | date
  | dateTime
  | time
  | duration
  | uri
  | hostname
  | ipv4
  | ipv6
  | password
  /-- Bytes in base64. -/
  | byte
  /-- Bytes in hexadecimal digits. -/
  | binary
  | jsonPointer
  | name
  | firstName
  | lastName
  | username
  | word
  | sentence
  | paragraph
  | phone
  | city
  | country
  | street
  | zip
  | company
  | color
  deriving DecidableEq

namespace Hint

/-- The hint of a name in one of its spellings. -/
def parse? : String → Option Hint
  | "email" | "idn-email" => some email
  | "uuid" | "guid" => some uuid
  | "date" => some date
  | "date-time" | "datetime" => some dateTime
  | "time" => some time
  | "duration" => some duration
  | "uri" | "uri-reference" | "iri" | "iri-reference" | "url" => some uri
  | "hostname" | "idn-hostname" => some hostname
  | "ipv4" => some ipv4
  | "ipv6" => some ipv6
  | "password" => some password
  | "byte" => some byte
  | "binary" => some binary
  | "json-pointer" => some jsonPointer
  | "name" => some name
  | "first-name" => some firstName
  | "last-name" => some lastName
  | "username" => some username
  | "word" => some word
  | "sentence" => some sentence
  | "paragraph" => some paragraph
  | "phone" => some phone
  | "city" => some city
  | "country" => some country
  | "street" => some street
  | "zip" => some zip
  | "company" => some company
  | "color" => some color
  | _ => none

/-- The names of properties, in small letters and without separators, that suggest a hint. -/
def ofProperties : List (String × String) :=
  [("email", "email"), ("emailaddress", "email"), ("mail", "email"),
    ("firstname", "first-name"), ("givenname", "first-name"),
    ("lastname", "last-name"), ("surname", "last-name"), ("familyname", "last-name"),
    ("name", "name"), ("fullname", "name"),
    ("username", "username"), ("login", "username"),
    ("password", "password"),
    ("phone", "phone"), ("phonenumber", "phone"), ("mobile", "phone"),
    ("city", "city"), ("country", "country"), ("street", "street"), ("address", "street"),
    ("zip", "zip"), ("zipcode", "zip"), ("postcode", "zip"), ("postalcode", "zip"),
    ("company", "company"), ("organization", "company"),
    ("color", "color"), ("colour", "color"),
    ("uuid", "uuid"), ("guid", "uuid"),
    ("url", "uri"), ("website", "uri"), ("homepage", "uri"),
    ("hostname", "hostname"), ("domain", "hostname"),
    ("ip", "ipv4"), ("ipaddress", "ipv4"),
    ("title", "sentence"), ("description", "paragraph"), ("summary", "sentence"),
    ("date", "date"), ("birthdate", "date"),
    ("createdat", "date-time"), ("updatedat", "date-time"), ("timestamp", "date-time")]

/-- The name of the hint that a property suggests. -/
def ofProperty? (property : String) : Option String :=
  let separators := ['_', '-', ' ', '.']
  ofProperties.lookup
    (String.ofList ((property.toList.filter (· ∉ separators)).flatMap Letters.small))

end Hint

end Specimen
