/-!
# Specimen.Provider.Locale

The languages that realistic values are available in.
-/

namespace Specimen

/-- A language and a country. -/
inductive Locale where
  | enUS
  | ptBR
  deriving DecidableEq, Inhabited

namespace Locale

/-- The locale of a name in one of its spellings. -/
def parse? : String → Option Locale
  | "en_US" | "en-US" | "en" => some enUS
  | "pt_BR" | "pt-BR" | "pt" => some ptBR
  | _ => none

/-- The name of a locale. -/
def name : Locale → String
  | enUS => "en_US"
  | ptBR => "pt_BR"

/-- The sentence that refuses a name. -/
def unsupported (text : String) : String := s!"unsupported locale '{text}'"

end Locale

end Specimen
