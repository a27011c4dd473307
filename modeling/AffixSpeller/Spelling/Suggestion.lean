import AffixSpeller.Lexicon.Dictionary
import AffixSpeller.Spelling.Edits
import AffixSpeller.Text.LetterCase

/-!
# Suggestions

A word that is not in the dictionary may be an inflected form, or a misspelling. Candidates are
tried one after the other. A candidate in the dictionary whose flags license the word proves that
the word is a form, and the search ends; any other candidate in the dictionary is a suggestion. If
no candidate is a suggestion, the beginnings and ends of the word are asked whether they license
it.

## Main definitions

* `Dictionary.isKnown`: whether a word, or its lower-case form, is in the dictionary.
* `Candidate`: a text to try, as a word or as a phrase.
* `Dictionary.candidates`: the candidates for a word, in order.
* `Search`, `Search.run`: the search through the candidates.
* `Dictionary.suggest`: the answer for a word.
-/

namespace AffixSpeller

/-- A text to try. -/
inductive Candidate where
  /-- A single word, which is looked up. -/
  | word (text : Text)
  /-- Words separated by spaces, known to be in the dictionary. -/
  | phrase (text : Text)
  deriving DecidableEq, Repr

namespace Dictionary

variable (dictionary : Dictionary)

/-- Whether the word is in the dictionary, or its lower-case form is and the word is written in
upper case or capitalized. -/
def isKnown (word : Text) : Bool :=
  dictionary.contains word
    || ((Text.isUpper word || Text.isCapitalized word) && dictionary.contains (Text.toLower word))

/-- Whether all parts between spaces are words of the dictionary. -/
def containsParts (text : Text) : Bool :=
  (text.splitOn ' ').all fun part => !part.isEmpty && dictionary.contains part

/-- The candidate that a replaced text is: a text with spaces is a phrase, and is tried only if
all its parts are in the dictionary. -/
def ofReplaced (text : Text) : Option Candidate :=
  if text.contains ' ' then
    if dictionary.containsParts text then some (.phrase text) else none
  else some (.word text)

/-- The candidates by the replacement table. -/
def replacementCandidates (word : Text) : List Candidate :=
  (dictionary.affixes.replacements.flatMap (Edits.replacements · word)).filterMap
    dictionary.ofReplaced

/-- The phrase of two parts, if both are in the dictionary. -/
def pair? (left right : Text) : Option Candidate :=
  if dictionary.contains left && dictionary.contains right then
    some (.phrase (left ++ ' ' :: right))
  else none

/-- The candidates by cutting a word of more than three letters in two: first all cuts as they
stand, then all cuts with both parts capitalized. -/
def splitCandidates (word : Text) : List Candidate :=
  if word.length ≤ 3 then []
  else
    let cuts := Edits.cuts word
    cuts.filterMap (fun (l, r) => dictionary.pair? l r)
      ++ cuts.filterMap fun (l, r) => dictionary.pair? (Text.capitalize l) (Text.capitalize r)

/-- The candidates for a word, in the order in which they are tried. -/
def candidates (word : Text) : List Candidate :=
  let letters := dictionary.affixes.tryCharacters
  (Edits.deletions word).map .word
    ++ dictionary.replacementCandidates word
    ++ (letters.flatMap (Edits.substitutions · word)).map .word
    ++ (letters.flatMap (Edits.insertions · word)).map .word
    ++ (Edits.transpositions word).map .word
    ++ dictionary.splitCandidates word

/-- Whether the candidate is in the dictionary with flags that license the word. -/
def licenses (candidate word : Text) : Bool :=
  match dictionary.lookup candidate with
  | none => false
  | some entry => (dictionary.expand entry).contains word

end Dictionary

/-- The state of a search: the suggestions found, and the texts with a space that were looked up as
words in vain. -/
structure Search where
  found : List Text := []
  refused : WordTrie Unit := .empty

namespace Search

/-- Whether the text was tried before with an outcome that counts. -/
def isSettled (search : Search) (text : Text) : Bool :=
  search.found.contains text || search.refused.contains text

/-- The state with one more suggestion. -/
def add (search : Search) (text : Text) : Search :=
  { search with found := search.found ++ [text] }

/-- The state after a text was looked up in vain. Looking it up again would do no harm, but it may
come up again as a phrase if it has a space; only then is it kept. -/
def refuse (search : Search) (text : Text) : Search :=
  if text.contains ' ' then { search with refused := search.refused.insert text () } else search

/-- Try one candidate, unless its text is settled. There is no state any more if the candidate
licenses the word. -/
def step (dictionary : Dictionary) (word : Text) (search : Search) : Candidate → Option Search
  | .word text =>
    if search.isSettled text then some search
    else
      match dictionary.lookup text with
      | none => some (search.refuse text)
      | some entry =>
        if (dictionary.expand entry).contains word then none else some (search.add text)
  | .phrase text => if search.isSettled text then some search else some (search.add text)

/-- Try the candidates one after the other. -/
def run (dictionary : Dictionary) (word : Text) (search : Search) : List Candidate → Option Search
  | [] => some search
  | candidate :: candidates =>
    match search.step dictionary word candidate with
    | none => none
    | some next => run dictionary word next candidates

end Search

/-- The answer for a word: nothing if it is known or licensed, the suggestions if there are any,
and else the word itself. -/
def Dictionary.suggest (dictionary : Dictionary) (word : Text) : List Text :=
  if dictionary.isKnown word then []
  else
    match Search.run dictionary word {} (dictionary.candidates word) with
    | none => []
    | some search =>
      if search.found.isEmpty then
        if (Edits.truncations word).any (dictionary.licenses · word) then [] else [word]
      else search.found

end AffixSpeller
