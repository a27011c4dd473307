import AffixSpeller.Text.Basic

/-!
# Settings

What a user may choose: the language, where dictionaries are installed, which stretches of a text
are not to be checked, how many suggestions are wanted, and whether words without a suggestion get
a second look.

## Main definitions

* `Settings`: a choice of all values.
* `Settings.standard`: the values that hold unless others are chosen.
-/

namespace AffixSpeller

/-- A choice of all values. -/
structure Settings where
  language : Text
  dictionaryDirectory : Text
  ignorePatterns : List Text
  maxSuggestions : Nat
  refineSuggestions : Bool
  deriving DecidableEq, Repr

/-- The patterns that are ignored unless others are chosen: addresses of pages, long hexadecimal
numbers, and mail addresses. -/
def Settings.standardPatterns : List Text :=
  ["https?://\\S+", "\\b[a-fA-F0-9]\x7b32,\x7d\\b",
    "[a-zA-Z0-9._%+-]+@[a-zA-Z0-9.-]+\\.[a-zA-Z]\x7b2,\x7d"].map String.toList

/-- The values that hold unless others are chosen. Where dictionaries are installed depends on the
machine. -/
def Settings.standard (dataDirectory : Text) : Settings where
  language := "en_US".toList
  dictionaryDirectory := dataDirectory
  ignorePatterns := standardPatterns
  maxSuggestions := 5
  refineSuggestions := true

end AffixSpeller
