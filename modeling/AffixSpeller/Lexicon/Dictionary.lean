import AffixSpeller.Affix.Expansion
import AffixSpeller.Affix.Grammar
import AffixSpeller.Lexicon.WordList
import AffixSpeller.Text.Quoted

/-!
# Dictionaries

A dictionary is made of a grammar and a word list. It says which words there are, which flags they
carry and which forms these license.

## Main definitions

* `Entry`: a word with its flags.
* `Dictionary`: a grammar with a word list.
* `Dictionary.ofWords`: the dictionary of a table and of words with flags.
* `Dictionary.lookup`, `Dictionary.entries`: the words of a dictionary.
* `Dictionary.expand`: the forms that an entry licenses.
* `Dictionary.ofTexts`: the dictionary of a grammar text and a word list text.
* `Dictionary.description`: a dictionary in one line.
-/

namespace AffixSpeller

/-- A word with its flags. -/
structure Entry where
  word : Text
  flags : List Flag
  deriving DecidableEq, Repr

/-- A grammar with a word list. The entries are stored under their words. -/
structure Dictionary where
  name : Text
  affixes : AffixTable
  words : WordTrie Entry
  word_eq : ∀ {word : Text} {entry : Entry}, words.get? word = some entry → entry.word = word
  deriving DecidableEq, Repr

/-- Why there is no dictionary. -/
inductive DictionaryError where
  | grammar (error : GrammarError)
  /-- The word list does not begin with a number. -/
  | missingCount (file : Text)
  deriving DecidableEq, Repr

/-- The text of the error. -/
def DictionaryError.message : DictionaryError → String
  | grammar error => error.message
  | missingCount file => String.ofList file ++ ": missing word count on the first line"

namespace Dictionary

/-- The dictionary of a table and of words with flags, with an entry for each of them. -/
def ofWords (name : Text) (affixes : AffixTable) (words : WordTrie (List Flag)) : Dictionary where
  name
  affixes
  words := words.mapWithWord Entry.mk
  word_eq h := by
    rw [WordTrie.get?_mapWithWord] at h
    obtain ⟨flags, -, rfl⟩ := Option.map_eq_some_iff.1 h
    rfl

/-- The entry of exactly this word. -/
def lookup (dictionary : Dictionary) (word : Text) : Option Entry :=
  dictionary.words.get? word

/-- Whether exactly this word is in the dictionary. -/
def contains (dictionary : Dictionary) (word : Text) : Bool :=
  dictionary.words.contains word

/-- All entries, one for each word. -/
def entries (dictionary : Dictionary) : List Entry :=
  dictionary.words.toList.map Prod.snd

/-- The number of words. -/
def size (dictionary : Dictionary) : Nat :=
  dictionary.words.size

/-- What an entry licenses. -/
def expand (dictionary : Dictionary) (entry : Entry) : Expansion :=
  dictionary.affixes.expand entry.word entry.flags

/-- The number of words with a flag that leads nowhere. -/
def countUnknown (dictionary : Dictionary) : Nat :=
  dictionary.entries.countP fun entry => entry.flags.any dictionary.affixes.isUnknownFlag

/-- What is recorded about the charset that a grammar declares: texts are read as UTF-8, whatever
it says. -/
def charsetNotices (name : Text) (affixes : AffixTable) : List Event :=
  match affixes.charset with
  | none => []
  | some charset =>
    if charset.map Char.toUpper = "UTF-8".toList then [] else [.foreignCharset name charset]

/-- What is recorded about a dictionary when its words have been read: a declared number that is
not the number of words, and flags that lead nowhere. -/
def wordNotices (dictionary : Dictionary) (declared : Nat) : List Event :=
  let size := dictionary.size
  let unknown := dictionary.countUnknown
  (if declared = size then [] else [.countDiffers dictionary.name declared size])
    ++ (if unknown = 0 then [] else [.flagsUnknown dictionary.name unknown])
    ++ [.dictionaryLoaded dictionary.name size]

/-- The dictionary of a table and a word list text. An error names the word list after the
dictionary, with the ending `.dic`. -/
def ofTable (affixes : AffixTable) (words name : Text) : Logged DictionaryError Dictionary :=
  match WordList.read affixes.flagEncoding words with
  | none => .silent (.error (.missingCount (name ++ ".dic".toList)))
  | some list =>
    let dictionary := ofWords name affixes list.words
    .note (dictionary.wordNotices list.declared) dictionary

/-- The dictionary of a grammar text and a word list text. Errors and events name the grammar
after the dictionary, with the ending `.aff`. -/
def ofTexts (grammar words name : Text) : Logged DictionaryError Dictionary :=
  ((AffixTable.parse grammar (name ++ ".aff".toList)).mapError .grammar).andThen fun affixes =>
    (ofTable affixes words name).after (charsetNotices name affixes)

/-- A one-line description: the name and the number of entries. -/
def description (dictionary : Dictionary) : String :=
  "Dictionary \x7b name: " ++ Text.quoted dictionary.name ++ ", entries: \""
    ++ toString dictionary.size ++ " entries\", .. \x7d"

end Dictionary

end AffixSpeller
