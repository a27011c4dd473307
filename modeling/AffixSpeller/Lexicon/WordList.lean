import AffixSpeller.Affix.Flag
import AffixSpeller.Lexicon.WordTrie
import AffixSpeller.Text.Number

/-!
# Word lists

The first line of a word list that is not blank begins with the number of words. Every later one
holds a word, perhaps followed by a slash and its flags; what follows the first blank is of no
concern here. A word that comes on several lines has the flags of all of them.

## Main definitions

* `WordList`: the declared number of words, and the words with their flags.
* `WordList.readItem`: the word and the flags of a line.
* `WordList.read`: the word list that a text holds.
-/

namespace AffixSpeller

/-- The words of a word list with their flags, and the number of words it declares. -/
structure WordList where
  declared : Nat
  words : WordTrie (List Flag)

namespace WordList

/-- The lines of a text that are not blank, without the blanks around what they say. -/
def contentLines (text : Text) : List Text :=
  ((Text.lines text).map Text.content).filter (!·.isEmpty)

/-- The word and the flags of an item. The first slash divides them, unless nothing stands before
it. -/
def readItem (encoding : FlagEncoding) (item : Text) : Text × List Flag :=
  match Text.cutAt '/' item with
  | some (c :: cs, flags) => (c :: cs, encoding.decode flags)
  | _ => (item, [])

/-- The word and the flags of a line, read off its first field. -/
def readLine (encoding : FlagEncoding) (line : Text) : Option (Text × List Flag) :=
  (Text.fields line).head?.map (readItem encoding)

/-- The words with one more occurrence of a word. Flags that the word has already are not added
again. -/
def addOccurrence (words : WordTrie (List Flag)) (occurrence : Text × List Flag) :
    WordTrie (List Flag) :=
  words.alter (fun flags => occurrence.2.foldl appendNew (flags.getD [])) occurrence.1

/-- The words of the lines after the first one. -/
def readWords (encoding : FlagEncoding) (lines : List Text) : WordTrie (List Flag) :=
  (lines.filterMap (readLine encoding)).foldl addOccurrence .empty

/-- The declared number of words that a line begins with. -/
def readCount (line : Text) : Option Nat :=
  (Text.fields line).head?.bind Text.count?

/-- The word list that a text holds; there is none if the text does not begin with a number. -/
def read (encoding : FlagEncoding) (text : Text) : Option WordList :=
  match contentLines text with
  | [] => none
  | first :: rest => (readCount first).map fun declared => ⟨declared, readWords encoding rest⟩

end WordList

end AffixSpeller
