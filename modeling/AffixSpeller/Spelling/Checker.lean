import AffixSpeller.Event
import AffixSpeller.Pattern.Reader
import AffixSpeller.Settings.Basic
import AffixSpeller.Spelling.Suggestion

/-!
# Spell checkers

A checker answers for single words. It accepts words that it was told to learn or to ignore, asks
its dictionary about the others, and takes a second look at words that the dictionary can only
echo: the word may be right but for its case, or right but for its case and one letter.

## Main definitions

* `Checker`: a dictionary with settings and the words accepted in a session.
* `Checker.ofDictionary`: a fresh checker, with a record of the patterns that are no patterns.
* `Checker.learn`, `Checker.ignore`: accept a word from now on.
* `Checker.suggest`: the answer for a word.
* `Checker.isCorrect`: whether a word is right.
-/

namespace AffixSpeller

/-- A dictionary with settings and the words accepted in a session. -/
structure Checker where
  dictionary : Dictionary
  learned : List Text := []
  ignored : List Text := []
  patterns : List Regex
  maxSuggestions : Nat
  refines : Bool

namespace Checker

/-- A fresh checker. Patterns that are not well formed are recorded and left out. -/
def ofDictionary (dictionary : Dictionary) (settings : Settings) : List Event × Checker :=
  let read := settings.ignorePatterns.map fun p => (p, Regex.ofPattern? p)
  let invalid := read.filterMap fun (p, r) => if r.isNone then some (.patternInvalid p) else none
  (invalid,
    { dictionary
      patterns := read.filterMap (·.2)
      maxSuggestions := settings.maxSuggestions
      refines := settings.refineSuggestions })

/-- Accept the word from now on, in upper case and capitalized too. -/
def learn (checker : Checker) (word : Text) : Checker :=
  { checker with learned := appendNew checker.learned word }

/-- Accept exactly this word from now on. -/
def ignore (checker : Checker) (word : Text) : Checker :=
  { checker with ignored := appendNew checker.ignored word }

/-- Whether the session has accepted the word. -/
def accepts (checker : Checker) (word : Text) : Bool :=
  checker.ignored.contains word || checker.learned.contains word
    || ((Text.isUpper word || Text.isCapitalized word)
      && checker.learned.contains (Text.toLower word))

end Checker

namespace Dictionary

variable (dictionary : Dictionary)

/-- Whether the dictionary has nothing to say against the word. -/
def approves (word : Text) : Bool :=
  (dictionary.suggest word).isEmpty

/-- What a text with one letter left out contributes to the second look: if its lower-case form is
approved, the text in the case that it has; and the text itself, if it is approved. -/
def refinedForms (text : Text) : List Text :=
  let byCase :=
    if (Text.isUpper text || Text.isCapitalized text)
        && dictionary.approves (Text.toLower text) then
      (if Text.isUpper text then [Text.toUpper text] else [])
        ++ (if Text.isCapitalized text then [Text.capitalize text] else [])
    else []
  byCase ++ if dictionary.approves text then [text] else []

/-- The second look at a word that the dictionary can only echo; there may be nothing to add. A
word in upper case or capitalized is right if its lower-case form is approved. For a word of mixed
case, that form is suggested, and the capitalized one. -/
def refine (word : Text) : Option (List Text) :=
  let lower := Text.toLower word
  if (Text.isUpper word || Text.isCapitalized word) && dictionary.approves lower then some []
  else if Text.isMixed word && dictionary.approves lower then some [Text.capitalize word, lower]
  else
    let texts := (Edits.deletions word).filter (!·.isEmpty)
    match (texts.flatMap dictionary.refinedForms).foldl appendNew [] with
    | [] => none
    | found => some found

end Dictionary

namespace Checker

/-- The answer for a word: nothing if it is right, the word itself if nothing better was found, and
suggestions otherwise. -/
def suggest (checker : Checker) (word : Text) : List Text :=
  if checker.accepts word then []
  else
    let answer := checker.dictionary.suggest word
    if checker.refines && answer == [word] then (checker.dictionary.refine word).getD answer
    else answer

/-- Whether the word is right. -/
def isCorrect (checker : Checker) (word : Text) : Bool :=
  (checker.suggest word).isEmpty

end Checker

end AffixSpeller
