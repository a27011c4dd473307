import AffixSpeller.Text.LetterCase

/-!
# Language codes

Codes such as `en_US` and `en-us` name the same language. The normal form joins the parts with
hyphens, has the first part in lower case, and has later parts of two bytes, which are countries,
in upper case.

## Main definitions

* `Language.parts`: the parts of a code.
* `Language.normalize`: the normal form of a code.
-/

namespace AffixSpeller.Language

/-- The parts of a code between low lines and hyphens, blanks around the code dropped. -/
def parts (code : Text) : List Text :=
  (Text.trim code).splitOnP fun c => c == '_' || c == '-'

/-- The normal form of a part after the first one. -/
def normalizeLater (part : Text) : Text :=
  if Text.utf8Length part = 2 then Text.toUpper part else part

/-- The normal form of a code. -/
def normalize (code : Text) : Text :=
  match parts code with
  | [] => []
  | first :: later => ['-'].intercalate (Text.toLower first :: later.map normalizeLater)

end AffixSpeller.Language
