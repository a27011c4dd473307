import AffixSpeller.Spelling.Checker
import AffixSpeller.Spelling.Token

/-!
# Reports on texts

A text is checked word by word. Words that begin inside a match of an ignore pattern are left out,
and so are single letters, numbers, and words in which a pattern matches.

## Main definitions

* `Misspelling`: a wrong word with its place and suggestions.
* `Checker.check`: the wrong words of a text.
* `Report`, `Checker.report`: the wrong words of a text and how many there are.
-/

namespace AffixSpeller

/-- A wrong word with its place and what to write instead. -/
structure Misspelling where
  word : Text
  line : Nat
  column : Nat
  suggestions : List Text
  deriving DecidableEq, Repr

/-- What is said about a text: its wrong words, and how many there are. -/
structure Report where
  errorCount : Nat
  errors : List Misspelling
  deriving DecidableEq, Repr

namespace Checker

/-- Whether a word is not to be checked, wherever it stands. -/
def skips (checker : Checker) (word : Text) : Bool :=
  word.length ≤ 1 || word.all Unicode.isNumeric || checker.patterns.any (·.isMatch word)

/-- The stretches of a text that ignore patterns match. -/
def masks (checker : Checker) (text : Text) : List Span :=
  checker.patterns.flatMap (·.spans text)

/-- The words of a text that are to be checked. -/
def tokens (checker : Checker) (text : Text) : List Token :=
  let masks := checker.masks text
  (Token.ofText text).filter fun token =>
    !masks.any (·.contains token.offset) && !checker.skips token.text

/-- What is wrong about a word, if it is wrong. An answer that only echoes the word is no
suggestion. -/
def misspelling? (checker : Checker) (token : Token) : Option Misspelling :=
  match checker.suggest token.text with
  | [] => none
  | answer =>
    let suggestions := if answer = [token.text] then [] else answer
    some
      { word := token.text
        line := token.line
        column := token.column
        suggestions := suggestions.take checker.maxSuggestions }

/-- The wrong words of a text, in their order. -/
def check (checker : Checker) (text : Text) : List Misspelling :=
  (checker.tokens text).filterMap checker.misspelling?

/-- The report on a text. -/
def report (checker : Checker) (text : Text) : Report :=
  let errors := checker.check text
  { errorCount := errors.length, errors }

end Checker

end AffixSpeller
