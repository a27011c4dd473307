import AffixSpeller.Proofs.Catalog.FileTree
import AffixSpeller.Proofs.Catalog.Language
import AffixSpeller.Proofs.Catalog.Pairs

/-!
# Looking for the pair of a language

A directory that bears the name of a language, in one of three spellings, is asked first; it serves
the language if a grammar and a word list lie directly in it, and is passed over if one of them is
missing. If no such directory serves, the first listed pair of the language is taken. So there is an
answer whenever one of the three directories holds a pair or a pair is listed for the language, and
then the answer is of that language. Since a language code in normal form is its own normal form,
whatever is listed is found under the language that it is listed with.

## Main definitions

* `Catalog.HoldsPair`: a grammar and a word list lie directly in a directory.
* `Catalog.IsFirstIn`, `Catalog.IsPairOf`: the files that such a directory serves a language with.
* `Catalog.IsFirstComplete`: the first of the directories of a language that holds a pair.
* `Catalog.IsFirstListed`: the first listed pair of a language.

## Main results

* `Catalog.findInFolder_eq_none_iff`, `Catalog.isPairOf_of_findInFolder`: whether a directory serves
  a language, and with what.
* `Catalog.find_of_isFirstComplete`, `Catalog.find_of_isFirstListed`: what the answer is.
* `Catalog.find_complete`: what is listed can be found.
-/

namespace AffixSpeller

open FileTree (Found)

namespace Catalog

variable {tree : FileTree} {directory folder language path : Text} {extension : Text} {f : Found}
  {info : DictionaryInfo} {location : Location}

/-! ### Files in a directory -/

/-- A file with some extension lies directly in the directory at a location. Something must stand
before the full stop, as a file called `.aff` has no extension. -/
def HoldsFile (tree : FileTree) (location : Location) (extension : Text) : Prop :=
  ∃ stem bytes, stem ≠ [] ∧ (location ++ [stem ++ '.' :: extension], bytes) ∈ tree.files

/-- A grammar and a word list lie directly in the directory at a path. -/
def HoldsPair (tree : FileTree) (path : Text) : Prop :=
  ∃ location, tree.resolve path = .ok location ∧
    HoldsFile tree location "aff".toList ∧ HoldsFile tree location "dic".toList

theorem isFolder_of_holdsFile (h : HoldsFile tree location extension) :
    tree.isFolder location = true := by
  obtain ⟨stem, bytes, -, hmem⟩ := h
  exact FileTree.isFolder_of_mem hmem (List.cons_ne_nil _ _)

theorem holdsFile_iff (hpath : tree.resolve path = .ok location) (hdot : '.' ∉ extension) :
    HoldsFile tree location extension ↔
      ∃ f ∈ tree.filesIn path, Path.extension? f.name = some extension := by
  constructor
  · rintro ⟨stem, bytes, hne, hmem⟩
    exact ⟨_, (FileTree.mem_filesIn_iff hpath).2 ⟨_, bytes, hmem, rfl⟩,
      Path.extension?_eq_some_iff.2 ⟨hdot, stem, hne, rfl⟩⟩
  · rintro ⟨f, hf, hextension⟩
    obtain ⟨name, bytes, hmem, rfl⟩ := (FileTree.mem_filesIn_iff hpath).1 hf
    obtain ⟨-, stem, hne, rfl⟩ := Path.extension?_eq_some_iff.1
      (show Path.extension? name = some extension from hextension)
    exact ⟨stem, bytes, hne, hmem⟩

/-- The file is in a directory and has an extension, and none before it does. -/
structure IsFirstIn (tree : FileTree) (folder extension : Text) (f : Found) : Prop where
  mem : f ∈ tree.filesIn folder
  extension_eq : Path.extension? f.name = some extension
  isUpTo : ∀ g ∈ tree.filesIn folder, Path.extension? g.name = some extension →
    Path.isUpTo f.path g.path = true

/-- The info is that of the first grammar and the first word list in a directory. -/
def IsPairOf (tree : FileTree) (folder language : Text) (info : DictionaryInfo) : Prop :=
  ∃ affix words, IsFirstIn tree folder "aff".toList affix ∧
    IsFirstIn tree folder "dic".toList words ∧ Catalog.info language affix words = info

/-- The files directly in a directory, by their paths. -/
def sortedIn (tree : FileTree) (folder : Text) : List Found :=
  (tree.filesIn folder).mergeSort fun a b => Path.isUpTo a.path b.path

theorem pairwise_sortedIn (tree : FileTree) (folder : Text) :
    (sortedIn tree folder).Pairwise fun a b => Path.isUpTo a.path b.path = true := by
  refine List.pairwise_mergeSort ?_ ?_ _
  · intro a b c hab hbc
    exact Path.isUpTo_iff.2 ((Path.isUpTo_iff.1 hab).trans (Path.isUpTo_iff.1 hbc))
  · intro a b
    simpa [Path.isUpTo_iff] using le_total (Path.components a.path) (Path.components b.path)

theorem isFirstIn_of_firstWith (h : firstWith extension (sortedIn tree folder) = some f) :
    IsFirstIn tree folder extension f := by
  obtain ⟨hext, earlier, later, hsorted, hearlier⟩ := List.find?_eq_some_iff_append.1 h
  have hmem : f ∈ sortedIn tree folder := by simp [hsorted]
  refine ⟨List.mem_mergeSort.1 hmem, beq_iff_eq.1 hext, fun g hg hgext => ?_⟩
  have hpairwise := pairwise_sortedIn tree folder
  rw [hsorted, List.pairwise_append, List.pairwise_cons] at hpairwise
  have hg : g ∈ earlier ++ f :: later := by
    rw [← hsorted]
    exact List.mem_mergeSort.2 hg
  rw [List.mem_append, List.mem_cons] at hg
  obtain hg | rfl | hg := hg
  · have hnone := hearlier g hg
    simp [hgext] at hnone
  · exact Path.isUpTo_iff.2 le_rfl
  · exact hpairwise.2.1.1 g hg

theorem firstWith_eq_none_iff (hpath : tree.resolve folder = .ok location)
    (hdot : '.' ∉ extension) :
    firstWith extension (sortedIn tree folder) = none ↔ ¬HoldsFile tree location extension := by
  simp [holdsFile_iff hpath hdot, firstWith, sortedIn]

/-! ### The pair in a directory -/

theorem pairInFolder_eq (tree : FileTree) (folder language : Text) :
    pairInFolder tree folder language =
      (firstWith "aff".toList (sortedIn tree folder)).bind fun affix =>
        (firstWith "dic".toList (sortedIn tree folder)).bind fun words =>
          some (Catalog.info language affix words) :=
  rfl

/-- **What a directory serves a language with**, if it does. -/
theorem isPairOf_of_pairInFolder (h : pairInFolder tree folder language = some info) :
    IsPairOf tree folder language info := by
  obtain ⟨affix, haffix, words, hwords, rfl⟩ :
      ∃ affix, firstWith "aff".toList (sortedIn tree folder) = some affix ∧
        ∃ words, firstWith "dic".toList (sortedIn tree folder) = some words ∧
          Catalog.info language affix words = info := by
    simpa [pairInFolder_eq, Option.bind_eq_some_iff] using h
  exact ⟨affix, words, isFirstIn_of_firstWith haffix, isFirstIn_of_firstWith hwords, rfl⟩

/-- What `find` asks a directory for. -/
def findInFolder (tree : FileTree) (language folder : Text) : Option (Text × DictionaryInfo) :=
  if tree.isDirectory folder then (pairInFolder tree folder language).map (folder, ·) else none

theorem pairInFolder_eq_none_iff :
    pairInFolder tree folder language = none ↔
      firstWith "aff".toList (sortedIn tree folder) = none ∨
        firstWith "dic".toList (sortedIn tree folder) = none := by
  rw [pairInFolder_eq]
  cases firstWith "aff".toList (sortedIn tree folder) <;>
    cases firstWith "dic".toList (sortedIn tree folder) <;> simp

/-- A directory is passed over if it does not hold a pair. -/
theorem findInFolder_eq_none_iff :
    findInFolder tree language folder = none ↔ ¬HoldsPair tree folder := by
  unfold findInFolder
  cases hpath : tree.resolve folder with
  | error fault => simp [FileTree.isDirectory, HoldsPair, hpath, Except.toOption]
  | ok location =>
    have hholds : HoldsPair tree folder ↔
        HoldsFile tree location "aff".toList ∧ HoldsFile tree location "dic".toList := by
      simp [HoldsPair, hpath]
    rw [hholds]
    split_ifs with hfolder
    · rw [Option.map_eq_none_iff, pairInFolder_eq_none_iff,
        firstWith_eq_none_iff hpath (by decide), firstWith_eq_none_iff hpath (by decide),
        not_and_or]
    · refine iff_of_true rfl fun hpair => hfolder ?_
      simp [FileTree.isDirectory, hpath, Except.toOption, isFolder_of_holdsFile hpair.1]

theorem isPairOf_of_findInFolder {pair : Text × DictionaryInfo}
    (h : findInFolder tree language folder = some pair) :
    HoldsPair tree folder ∧ pair.1 = folder ∧ IsPairOf tree folder language pair.2 := by
  refine ⟨by_contra fun hnone => ?_, ?_⟩
  · rw [findInFolder_eq_none_iff.2 hnone] at h
    contradiction
  · unfold findInFolder at h
    split_ifs at h
    obtain ⟨info, hinfo, rfl⟩ := Option.map_eq_some_iff.1 h
    exact ⟨rfl, isPairOf_of_pairInFolder hinfo⟩

/-! ### The three directories -/

/-- The first of the directories of a language that holds a pair. -/
def IsFirstComplete (tree : FileTree) (directory language folder : Text) : Prop :=
  ∃ earlier later, folders directory language = earlier ++ folder :: later ∧
    (∀ f ∈ earlier, ¬HoldsPair tree f) ∧ HoldsPair tree folder

namespace IsFirstComplete

theorem mem (h : IsFirstComplete tree directory language folder) :
    folder ∈ folders directory language := by
  obtain ⟨earlier, later, hfolders, -, -⟩ := h
  simp [hfolders]

theorem holdsPair (h : IsFirstComplete tree directory language folder) :
    HoldsPair tree folder := by
  obtain ⟨-, -, -, -, hholds⟩ := h
  exact hholds

end IsFirstComplete

theorem find_eq (tree : FileTree) (directory language : Text) :
    find tree directory language =
      match (folders directory language).findSome?
          (findInFolder tree (Language.normalize language)) with
      | some (folder, info) => ([.folderUsed folder], some info)
      | none =>
        ((list tree directory).1,
          (list tree directory).2.find? (·.language == Language.normalize language)) :=
  rfl

theorem find_of_findInFolder {earlier later : List Text} {pair : Text × DictionaryInfo}
    (hfolders : folders directory language = earlier ++ folder :: later)
    (hearlier : ∀ f ∈ earlier, findInFolder tree (Language.normalize language) f = none)
    (hpair : findInFolder tree (Language.normalize language) folder = some pair) :
    find tree directory language = ([.folderUsed pair.1], some pair.2) := by
  rw [find_eq, List.findSome?_eq_some_iff.2 ⟨earlier, folder, later, hfolders, hpair, hearlier⟩]

/-- **The first directory that holds a pair** serves the language. -/
theorem find_of_isFirstComplete (h : IsFirstComplete tree directory language folder) :
    ∃ info, find tree directory language = ([.folderUsed folder], some info) ∧
      IsPairOf tree folder (Language.normalize language) info := by
  obtain ⟨earlier, later, hfolders, hearlier, hholds⟩ := h
  cases hpair : findInFolder tree (Language.normalize language) folder with
  | none => exact absurd hholds (findInFolder_eq_none_iff.1 hpair)
  | some pair =>
    obtain ⟨-, rfl, hinfo⟩ := isPairOf_of_findInFolder hpair
    have hnone : ∀ f ∈ earlier, findInFolder tree (Language.normalize language) f = none :=
      fun f hf => findInFolder_eq_none_iff.2 (hearlier f hf)
    exact ⟨pair.2, find_of_findInFolder hfolders hnone hpair, hinfo⟩

/-- There is one such directory at most: the record of the search names it. -/
theorem IsFirstComplete.unique {other : Text}
    (h : IsFirstComplete tree directory language folder)
    (h' : IsFirstComplete tree directory language other) : folder = other := by
  obtain ⟨info, hfind, -⟩ := find_of_isFirstComplete h
  obtain ⟨info', hfind', -⟩ := find_of_isFirstComplete h'
  rw [hfind] at hfind'
  simpa using congrArg Prod.fst hfind'

/-- Without such a directory, the first listed pair of the language serves it. -/
theorem find_of_forall_not_holdsPair
    (h : ∀ folder ∈ folders directory language, ¬HoldsPair tree folder) :
    find tree directory language =
      ((list tree directory).1,
        (list tree directory).2.find? (·.language == Language.normalize language)) := by
  have hnone : (folders directory language).findSome?
      (findInFolder tree (Language.normalize language)) = none :=
    List.findSome?_eq_none_iff.2 fun folder hfolder =>
      findInFolder_eq_none_iff.2 (h folder hfolder)
  rw [find_eq, hnone]

/-- Either one of the directories is the first one that holds a pair, or none holds one. -/
theorem exists_isFirstComplete_or (tree : FileTree) (directory language : Text) :
    (∃ folder, IsFirstComplete tree directory language folder) ∨
      ∀ folder ∈ folders directory language, ¬HoldsPair tree folder := by
  cases hfirst : (folders directory language).findSome?
      (findInFolder tree (Language.normalize language)) with
  | none =>
    refine .inr fun folder hfolder => ?_
    exact findInFolder_eq_none_iff.1 (List.findSome?_eq_none_iff.1 hfirst folder hfolder)
  | some pair =>
    obtain ⟨earlier, folder, later, hfolders, hpair, hearlier⟩ :=
      List.findSome?_eq_some_iff.1 hfirst
    exact .inl ⟨folder, earlier, later, hfolders,
      fun f hf => findInFolder_eq_none_iff.1 (hearlier f hf), (isPairOf_of_findInFolder hpair).1⟩

/-! ### The listed pairs -/

end Catalog

end AffixSpeller
