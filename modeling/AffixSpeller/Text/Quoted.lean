import AffixSpeller.Text.Basic
import AffixSpeller.Unicode.Unseen

/-!
# Quoted texts

A quoted text stands between double quotes. Quotes and backslashes in it get a backslash in front,
and characters that cannot be seen by themselves are written by name or by number.

## Main definitions

* `Text.quoted`: the quoted form of a text.
-/

namespace AffixSpeller.Text

/-- The form of a character between quotes. -/
def quotedChar (c : Char) : String :=
  if c = '"' then "\\\""
  else if c = '\\' then "\\\\"
  else if c = '\n' then "\\n"
  else if c = '\r' then "\\r"
  else if c = '\t' then "\\t"
  else if c = '\x00' then "\\0"
  else if Unicode.isUnseen c then
    "\\u\x7b" ++ String.ofList (Nat.toDigits 16 c.toNat) ++ "\x7d"
  else String.singleton c

/-- The text between double quotes. -/
def quoted (t : Text) : String :=
  "\"" ++ String.join (t.map quotedChar) ++ "\""

end AffixSpeller.Text
