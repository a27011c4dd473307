import AffixSpeller.Catalog.FileTree
import AffixSpeller.Catalog.Language
import AffixSpeller.Event

/-!
# Installed dictionaries

Dictionaries are installed as pairs of files, a grammar ending in `.aff` and a word list ending in
`.dic`. Files of the same stem in the same directory are a pair, and the stem names the language. A
directory named after a language serves it whatever its files are called.

## Main definitions

* `DictionaryInfo`: an installed pair.
* `Catalog.halves`, `Catalog.list`: the pairs below a directory.
* `Catalog.find`: the pair for a language.
-/

namespace AffixSpeller

/-- An installed pair of a grammar and a word list. -/
structure DictionaryInfo where
  /-- The normal form of the language code. -/
  language : Text
  affixPath : Text
  wordsPath : Text
  sizeBytes : Nat
  deriving DecidableEq, Repr

namespace Catalog

open FileTree (Found)

/-- The halves of a pair that were found for one stem. -/
structure Halves where
  /-- The components of the path without extension. -/
  key : List Text
  affix : Option Found
  words : Option Found

/-- The halves with one more file. The file belongs to the pair of its path without extension; of
two files for the same half, the later one counts. -/
def addFile (halves : List Halves) (file : Found) : List Halves :=
  let put (affix words : Option Found) : List Halves :=
    let key := (Path.components file.path).dropLast ++ [Path.stem file.name]
    if halves.any (·.key == key) then
      halves.map fun h =>
        if h.key == key then { h with affix := affix.or h.affix, words := words.or h.words } else h
    else halves ++ [{ key, affix, words }]
  match Path.extension? file.name with
  | some ['a', 'f', 'f'] => put (some file) none
  | some ['d', 'i', 'c'] => put none (some file)
  | _ => halves

/-- The info of a pair for a language. -/
def info (language : Text) (affix words : Found) : DictionaryInfo where
  language
  affixPath := affix.path
  wordsPath := words.path
  sizeBytes := affix.bytes.size + words.bytes.size

/-- The info of the halves, if both were found. The stem names the language, unless it is one of
the two names that directories have for themselves and for what is above them. -/
def Halves.info? (halves : Halves) : Option DictionaryInfo :=
  match halves.affix, halves.words, halves.key.getLast? with
  | some affix, some words, some stem =>
    if stem = ['.'] ∨ stem = ['.', '.'] then none
    else some (Catalog.info (Language.normalize stem) affix words)
  | _, _, _ => none

/-- Whether one info is listed no later than another: by language, then by the path of the
grammar. -/
def isUpTo (a b : DictionaryInfo) : Bool :=
  if a.language = b.language then Path.isUpTo a.affixPath b.affixPath
  else Text.isUpTo a.language b.language

/-- The pairs below a directory, in order. -/
def pairsBelow (tree : FileTree) (directory : Text) : List DictionaryInfo :=
  (((tree.filesBelow directory).foldl addFile []).filterMap Halves.info?).mergeSort isUpTo

/-- The pairs below a directory, with a record of the scan. -/
def list (tree : FileTree) (directory : Text) : List Event × List DictionaryInfo :=
  let infos := pairsBelow tree directory
  ([.directoryScanned directory infos.length], infos)

/-- The first file with the given extension. -/
def firstWith (extension : Text) (files : List Found) : Option Found :=
  files.find? fun file => Path.extension? file.name == some extension

/-- The pair that lies directly in a directory: the first grammar and the first word list by
name. -/
def pairInFolder (tree : FileTree) (folder language : Text) : Option DictionaryInfo := do
  let files := (tree.filesIn folder).mergeSort fun a b => Path.isUpTo a.path b.path
  let affix ← firstWith "aff".toList files
  let words ← firstWith "dic".toList files
  some (info language affix words)

/-- The directories that may be named after a language: as the code is given, in its normal form,
and in its normal form with low lines. -/
def folders (directory language : Text) : List Text :=
  let wanted := Language.normalize language
  [language, wanted, Text.replaceChar '-' '_' wanted].map (Path.join directory)

/-- The pair for a language below a directory, with a record of the search. A directory named after
the language comes first, if it holds a pair; else the first listed pair of the language is
taken. -/
def find (tree : FileTree) (directory language : Text) : List Event × Option DictionaryInfo :=
  let wanted := Language.normalize language
  let inFolder := (folders directory language).findSome? fun folder =>
    if tree.isDirectory folder then (pairInFolder tree folder wanted).map (folder, ·) else none
  match inFolder with
  | some (folder, info) => ([.folderUsed folder], some info)
  | none =>
    let (events, infos) := list tree directory
    (events, infos.find? (·.language == wanted))

end Catalog

end AffixSpeller
