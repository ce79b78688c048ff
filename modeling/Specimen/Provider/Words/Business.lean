import Specimen.Provider.Words.Lorem

/-!
# Specimen.Provider.Words.Business

Companies, host names and telephone numbers.
-/

namespace Specimen.Provider.Words.Business

open Words (entries)

/-- What English company names end in. -/
def companySuffixesEnglish : Array String :=
  entries [
    "Inc; and Sons; LLC; Group"]

/-- What Portuguese company names end in. -/
def companySuffixesPortuguese : Array String :=
  entries [
    "e Filhos; e Associados; Ltda.; S.A."]

/-- Top-level domains. -/
def domainSuffixes : Array String :=
  entries [
    "com; biz; info; name; net; org; io; co"]

/-- Forms of English telephone numbers, with a caret for a digit other than zero and a number sign
for any digit. -/
def phoneFormatsEnglish : Array String :=
  entries [
    "(^##) ###-#### x###; (^##) ###-#### x####; (^##) ###-#### x#####; (^##) ###-####",
    "1-^##-###-#### x###; 1-^##-###-#### x####; 1-^##-###-#### x#####; 1-^##-###-####",
    "^##-###-#### x###; ^##-###-#### x####; ^##-###-#### x#####; ^##-###-####",
    "^##.###.#### x###; ^##.###.#### x####; ^##.###.#### x#####; ^##.###.####"]

/-- Forms of Portuguese telephone numbers. -/
def phoneFormatsPortuguese : Array String :=
  entries [
    "(^#) 2###-####; (^#) 3###-####; (^#) 4###-####"]

end Specimen.Provider.Words.Business
