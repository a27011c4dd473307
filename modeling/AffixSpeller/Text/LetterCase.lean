import AffixSpeller.Text.Basic
import AffixSpeller.Unicode.CaseMapping
import AffixSpeller.Unicode.Cased

/-!
# Letter case of texts

Upper-casing maps every character by itself. Lower-casing does so too, except that a capital sigma
at the end of a word becomes the final sigma. Capitalizing looks at single characters only, so it
never makes a final sigma.

## Main definitions

* `Text.toUpper`, `Text.toLower`, `Text.capitalize`: the case forms of a text.
* `Text.isUpper`, `Text.isLower`, `Text.isCapitalized`, `Text.isMixed`: which case a text has.
-/

namespace AffixSpeller.Text

open Unicode

/-- The upper-case form. -/
def toUpper (t : Text) : Text :=
  t.flatMap upperChar

/-- Whether the first character that case does not ignore has a case. -/
def startsCased (t : Text) : Bool :=
  match t.dropWhile isCaseIgnorable with
  | [] => false
  | c :: _ => isCased c

/-- The lower-case form of a text that follows the characters of `before`, the nearest one first.
A sigma is final if a cased character comes before it and none comes after it, characters that
case ignores being passed over. -/
def lowerAfter (before : Text) : Text → Text
  | [] => []
  | c :: cs =>
    let lower :=
      if c = 'Σ' then (if startsCased before && !startsCased cs then ['ς'] else ['σ'])
      else lowerChar c
    lower ++ lowerAfter (c :: before) cs

/-- The lower-case form. -/
def toLower (t : Text) : Text :=
  lowerAfter [] t

/-- The first character in upper case and the others in lower case, each mapped by itself. -/
def capitalize : Text → Text
  | [] => []
  | c :: cs => upperChar c ++ cs.flatMap lowerChar

/-- Whether the text is its own upper-case form. -/
def isUpper (t : Text) : Bool :=
  t == toUpper t

/-- Whether the text is its own lower-case form. -/
def isLower (t : Text) : Bool :=
  t == toLower t

/-- Whether the text is its own capitalized form. -/
def isCapitalized (t : Text) : Bool :=
  t == capitalize t

/-- Whether the text is of none of the three plain cases. -/
def isMixed (t : Text) : Bool :=
  !isLower t && !isUpper t && !isCapitalized t

end AffixSpeller.Text
