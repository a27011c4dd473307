import AffixSpeller.Catalog.Installed
import AffixSpeller.Lexicon.Dictionary
import AffixSpeller.Spelling.Checker

/-!
# Loading installed dictionaries

A dictionary is read from the two files of a pair and named after the grammar file. For a language,
the pair is looked for among the installed ones.

## Main definitions

* `LoadError`: why a dictionary cannot be loaded.
* `Dictionary.ofPair`: the dictionary of two files.
* `Dictionary.load`: the installed dictionary for a language.
* `Checker.load`: a checker with the installed dictionary that the settings ask for.
-/

namespace AffixSpeller

/-- Why a dictionary cannot be loaded. -/
inductive LoadError where
  | unreadable (path : Text) (fault : ReadFault)
  | dictionary (error : DictionaryError)
  | notFound (language directory : Text)
  deriving DecidableEq, Repr

/-- The text of the error. -/
def LoadError.message : LoadError → String
  | unreadable path fault =>
    "failed to read " ++ String.ofList path ++ ": " ++ fault.message
  | dictionary error => error.message
  | notFound language directory =>
    "no dictionary for `" ++ String.ofList language ++ "` under " ++ String.ofList directory

namespace Dictionary

/-- The name of a dictionary whose grammar lies at a path. -/
def nameOfPath (affixPath : Text) : Text :=
  match Path.fileName? affixPath with
  | some file => Path.stem file
  | none => "unknown".toList

/-- The dictionary of a grammar file and a word list file. Both are read before either is
understood. -/
def ofPair (tree : FileTree) (affixPath wordsPath : Text) : Logged LoadError Dictionary :=
  match tree.readText affixPath with
  | .error fault => .silent (.error (.unreadable affixPath fault))
  | .ok grammar =>
    match tree.readText wordsPath with
    | .error fault => .silent (.error (.unreadable wordsPath fault))
    | .ok words => (ofTexts grammar words (nameOfPath affixPath)).mapError .dictionary

/-- The installed dictionary for a language below a directory. -/
def load (tree : FileTree) (directory language : Text) : Logged LoadError Dictionary :=
  let (events, found) := Catalog.find tree directory language
  let outcome : Logged LoadError Dictionary := match found with
    | none => .silent (.error (.notFound language directory))
    | some info => ofPair tree info.affixPath info.wordsPath
  outcome.after events

end Dictionary

/-- A checker with the installed dictionary for the language of the settings. -/
def Checker.load (tree : FileTree) (settings : Settings) : Logged LoadError Checker :=
  (Dictionary.load tree settings.dictionaryDirectory settings.language).andThen fun dictionary =>
    let (events, checker) := Checker.ofDictionary dictionary settings
    .note (.checkerReady settings.language dictionary.size :: events) checker

end AffixSpeller
