import AffixSpeller.Proofs.Catalog.FileTree
import AffixSpeller.Proofs.Catalog.Pairs
import Mathlib.Data.List.Sort
import Mathlib.Data.Prod.Lex
import Mathlib.Data.Set.Function

/-!
# The pairs below a directory

A scan lists the pairs of a grammar and a word list that lie below a directory: one info for each
pair, in the order of the languages and, within a language, of the paths of the grammars. A pair is
two files of one stem in one directory; what the stem holds besides, such as further full stops,
does not matter. So the list does not depend on the order in which the files are visited.

## Main definitions

* `Catalog.Pair`: a stem in a directory, with the bytes of a grammar and of a word list.
* `Catalog.Pair.LiesIn`: both files lie below a location.
* `Catalog.Pair.info`: what is listed for the pair.
* `DictionaryInfo.rank`: the language and the path of the grammar, languages being compared first.

## Main results

* `Catalog.mem_pairsBelow_iff`: the infos that are listed are those of pairs.
* `Catalog.Pair.LiesIn.eq_of_info_eq`: pairs with one info are the same.
* `Catalog.pairwise_pairsBelow`: the infos are listed in order, none twice.
* `Catalog.list_pairs`: the pairs are listed once each, whatever order the files are visited in.
-/

namespace AffixSpeller

open FileTree (Found)

/-! ### Order -/

/-- The language and the path of the grammar, languages being compared first and paths by the names
that they go through. -/
def DictionaryInfo.rank (info : DictionaryInfo) : Text ×ₗ List Text :=
  toLex (info.language, Path.components info.affixPath)

namespace Catalog

theorem isUpTo_iff {a b : DictionaryInfo} : isUpTo a b = true ↔ a.rank ≤ b.rank := by
  rw [isUpTo, DictionaryInfo.rank, DictionaryInfo.rank, Prod.Lex.toLex_le_toLex]
  split_ifs with heq
  · simp [heq, Path.isUpTo_iff]
  · simp [heq, Text.isUpTo_iff, Ne.le_iff_lt heq]

/-! ### Pairs -/

/-- A stem in a directory, with the bytes of a grammar and of a word list. -/
@[ext]
structure Pair where
  /-- The names that lead to the directory from the one that is searched. -/
  folder : List Text
  stem : Text
  affix : ByteArray
  words : ByteArray

namespace Pair

/-- The names that lead to a file of the pair from the directory that is searched. -/
def names (p : Pair) (extension : Text) : List Text :=
  p.folder ++ [p.stem ++ '.' :: extension]

/-- Both files of the pair lie below a location. Stems that a directory has for itself or for what
is above it are set aside. -/
structure LiesIn (p : Pair) (tree : FileTree) (location : Location) : Prop where
  stem_ne_nil : p.stem ≠ []
  stem_ne_here : p.stem ≠ ['.']
  stem_ne_above : p.stem ≠ ['.', '.']
  affix_mem : (location ++ p.names "aff".toList, p.affix) ∈ tree.files
  words_mem : (location ++ p.names "dic".toList, p.words) ∈ tree.files

/-- What is listed for the pair when a directory is searched. -/
def info (p : Pair) (directory : Text) : DictionaryInfo where
  language := Language.normalize p.stem
  affixPath := (p.names "aff".toList).foldl Path.join directory
  wordsPath := (p.names "dic".toList).foldl Path.join directory
  sizeBytes := p.affix.size + p.words.size

end Pair

variable {tree : FileTree} {directory : Text} {location : Location} {folder : List Text}
  {extension : Text} {bytes : ByteArray} {f : Found} {info : DictionaryInfo}

/-! ### Files below a directory -/

theorem key_along (h : tree.WellFormed) {name : Text}
    (hmem : (location ++ (folder ++ [name]), bytes) ∈ tree.files) :
    (Found.along directory (folder ++ [name]) bytes).key =
      Path.components directory ++ folder ++ [Path.stem name] := by
  rw [Found.key, h.components_path hmem, ← List.append_assoc, List.dropLast_concat,
    Found.along_append_name]

section Walk

variable (h : tree.WellFormed) (hpath : tree.resolve directory = .ok location)
  (hfolder : tree.isFolder location = true)

include h hpath hfolder

/-- What a walk finds with some extension. -/
theorem mem_filesBelow_and_extension?_iff (hdot : '.' ∉ extension) :
    f ∈ tree.filesBelow directory ∧ Path.extension? f.name = some extension ↔
      ∃ folder stem bytes, stem ≠ [] ∧
        (location ++ (folder ++ [stem ++ '.' :: extension]), bytes) ∈ tree.files ∧
        Found.along directory (folder ++ [stem ++ '.' :: extension]) bytes = f := by
  rw [h.mem_filesBelow_iff hpath hfolder]
  constructor
  · rintro ⟨⟨names, bytes, hmem, rfl⟩, hextension⟩
    obtain ⟨folder, name, rfl⟩ :=
      (List.eq_nil_or_concat' names).resolve_left (h.ne_nil_of_mem hfolder hmem)
    obtain ⟨-, stem, hne, rfl⟩ := Path.extension?_eq_some_iff.1
      (show Path.extension? name = some extension by simpa using hextension)
    exact ⟨folder, stem, bytes, hne, hmem, rfl⟩
  · rintro ⟨folder, stem, bytes, hne, hmem, rfl⟩
    refine ⟨⟨_, bytes, hmem, rfl⟩, Path.extension?_eq_some_iff.2 ⟨hdot, stem, hne, ?_⟩⟩
    simp

/-- No two files below a directory have a path in common. -/
theorem eq_of_components_path_eq {f g : Found} (hf : f ∈ tree.filesBelow directory)
    (hg : g ∈ tree.filesBelow directory)
    (heq : Path.components f.path = Path.components g.path) : f = g := by
  obtain ⟨names, bytes, hmem, rfl⟩ := (h.mem_filesBelow_iff hpath hfolder).1 hf
  obtain ⟨names', bytes', hmem', rfl⟩ := (h.mem_filesBelow_iff hpath hfolder).1 hg
  rw [h.components_path hmem, h.components_path hmem'] at heq
  obtain rfl := List.append_cancel_left heq
  rw [h.bytes_eq hmem hmem']

/-- Files below a directory differ in their stem, their extension or the directory they lie in. -/
theorem separate_filesBelow : Separate (tree.filesBelow directory) := by
  intro f hf g hg hkey hextension
  refine eq_of_components_path_eq h hpath hfolder hf hg ?_
  obtain ⟨names, bytes, hmem, rfl⟩ := (h.mem_filesBelow_iff hpath hfolder).1 hf
  obtain ⟨names', bytes', hmem', rfl⟩ := (h.mem_filesBelow_iff hpath hfolder).1 hg
  obtain ⟨folder, name, rfl⟩ :=
    (List.eq_nil_or_concat' names).resolve_left (h.ne_nil_of_mem hfolder hmem)
  obtain ⟨folder', name', rfl⟩ :=
    (List.eq_nil_or_concat' names').resolve_left (h.ne_nil_of_mem hfolder hmem')
  rw [key_along h hmem, key_along h hmem'] at hkey
  obtain ⟨hfolders, hstem⟩ := List.append_inj' hkey rfl
  obtain rfl := List.append_cancel_left hfolders
  obtain rfl : name = name' :=
    Path.eq_of_stem_eq (List.singleton_inj.1 hstem) (by simpa using hextension)
  rw [h.components_path hmem, h.components_path hmem']

/-! ### What is listed -/

/-- **The infos that are listed** are those of the pairs below the directory. -/
theorem mem_pairsBelow_iff :
    info ∈ pairsBelow tree directory ↔
      ∃ p : Pair, p.LiesIn tree location ∧ p.info directory = info := by
  rw [pairsBelow, List.mem_mergeSort, mem_filterMap_info?_iff (separate_filesBelow h hpath hfolder)]
  constructor
  · rintro ⟨affix, haffix, words, hwords, hgrammar, hlist, hkey, hhere, habove, rfl⟩
    obtain ⟨folder, stem, affix, hne, hmem, rfl⟩ :=
      (mem_filesBelow_and_extension?_iff h hpath hfolder (by decide)).1
        ⟨haffix, beq_iff_eq.1 hgrammar⟩
    obtain ⟨folder', stem', words, hne', hmem', rfl⟩ :=
      (mem_filesBelow_and_extension?_iff h hpath hfolder (by decide)).1
        ⟨hwords, beq_iff_eq.1 hlist⟩
    rw [key_along h hmem, key_along h hmem', Path.stem_append hne (by decide),
      Path.stem_append hne' (by decide)] at hkey
    obtain ⟨hfolders, hstem⟩ := List.append_inj' hkey rfl
    obtain rfl := List.append_cancel_left hfolders
    obtain rfl := List.singleton_inj.1 hstem
    rw [Found.along_append_name, Path.stem_append hne (by decide)] at hhere habove ⊢
    exact ⟨⟨folder', stem', affix, words⟩, ⟨hne, hhere, habove, hmem, hmem'⟩, rfl⟩
  · rintro ⟨p, hp, rfl⟩
    obtain ⟨haffix, hgrammar⟩ :=
      (mem_filesBelow_and_extension?_iff h hpath hfolder (by decide)).2
        ⟨p.folder, p.stem, p.affix, hp.stem_ne_nil, hp.affix_mem, rfl⟩
    obtain ⟨hwords, hlist⟩ :=
      (mem_filesBelow_and_extension?_iff h hpath hfolder (by decide)).2
        ⟨p.folder, p.stem, p.words, hp.stem_ne_nil, hp.words_mem, rfl⟩
    refine ⟨_, haffix, _, hwords, beq_iff_eq.2 hgrammar, beq_iff_eq.2 hlist, ?_⟩
    rw [key_along h hp.affix_mem, key_along h hp.words_mem, Found.along_append_name,
      Path.stem_append hp.stem_ne_nil (by decide), Path.stem_append hp.stem_ne_nil (by decide)]
    exact ⟨rfl, hp.stem_ne_here, hp.stem_ne_above, rfl⟩

/-- The infos are listed in the order of their ranks, which are all different. -/
theorem pairwise_pairsBelow :
    (pairsBelow tree directory).Pairwise fun a b => a.rank < b.rank := by
  have hsorted : (pairsBelow tree directory).Pairwise fun a b => a.rank ≤ b.rank := by
    refine (List.pairwise_mergeSort ?_ ?_ _).imp isUpTo_iff.1
    · intro a b c hab hbc
      exact isUpTo_iff.2 ((isUpTo_iff.1 hab).trans (isUpTo_iff.1 hbc))
    · intro a b
      simpa [isUpTo_iff] using le_total a.rank b.rank
  have hapart : (pairsBelow tree directory).Pairwise fun a b =>
      Path.components a.affixPath ≠ Path.components b.affixPath := by
    refine ((List.mergeSort_perm _ _).pairwise_iff Ne.symm).2 (pairwise_filterMap_info? ?_)
    intro f hf g hg heq
    rw [eq_of_components_path_eq h hpath hfolder hf hg heq]
  refine (hsorted.and hapart).imp fun {a b} hab => hab.1.lt_of_ne fun heq => hab.2 ?_
  exact congrArg (fun rank => (ofLex rank).2) heq

end Walk

/-- Pairs below a location that have one info are the same. -/
theorem Pair.LiesIn.eq_of_info_eq (h : tree.WellFormed) {p q : Pair} (hp : p.LiesIn tree location)
    (hq : q.LiesIn tree location) (heq : p.info directory = q.info directory) : p = q := by
  have hcomponents : Path.components directory ++ p.names "aff".toList =
      Path.components directory ++ q.names "aff".toList := by
    rw [← h.components_path hp.affix_mem, ← h.components_path hq.affix_mem]
    exact congrArg (Path.components ·.affixPath) heq
  obtain ⟨hfolder, hname⟩ := List.append_inj' (List.append_cancel_left hcomponents) rfl
  have hstem : p.stem = q.stem := List.append_cancel_right (List.singleton_inj.1 hname)
  have hnames (extension : Text) : p.names extension = q.names extension := by
    rw [names, names, hfolder, hstem]
  exact Pair.ext hfolder hstem (h.bytes_eq hp.affix_mem (hnames _ ▸ hq.affix_mem))
    (h.bytes_eq hp.words_mem (hnames _ ▸ hq.words_mem))

/-! ### The order of visits -/

theorem Pair.liesIn_perm {files : List (Location × ByteArray)} (hperm : files.Perm tree.files)
    {p : Pair} : p.LiesIn { tree with files } location ↔ p.LiesIn tree location :=
  ⟨fun ⟨hne, hhere, habove, haffix, hwords⟩ =>
      ⟨hne, hhere, habove, hperm.mem_iff.1 haffix, hperm.mem_iff.1 hwords⟩,
    fun ⟨hne, hhere, habove, haffix, hwords⟩ =>
      ⟨hne, hhere, habove, hperm.mem_iff.2 haffix, hperm.mem_iff.2 hwords⟩⟩

/-- The list does not depend on the order in which files are visited. -/
theorem pairsBelow_perm (h : tree.WellFormed) (hpath : tree.resolve directory = .ok location)
    (hfolder : tree.isFolder location = true) {files : List (Location × ByteArray)}
    (hperm : files.Perm tree.files) :
    pairsBelow { tree with files } directory = pairsBelow tree directory := by
  have h' : { tree with files }.WellFormed := h.of_perm hperm
  have hpath' : { tree with files }.resolve directory = .ok location :=
    (FileTree.resolve_perm hperm directory).trans hpath
  have hfolder' : { tree with files }.isFolder location = true :=
    (FileTree.isFolder_perm hperm location).trans hfolder
  have : Std.Antisymm (InvImage (· < ·) DictionaryInfo.rank) := Std.Asymm.antisymm _
  refine List.Pairwise.eq_of_mem_iff (r := InvImage (· < ·) DictionaryInfo.rank)
    (pairwise_pairsBelow h' hpath' hfolder') (pairwise_pairsBelow h hpath hfolder) fun info => ?_
  rw [mem_pairsBelow_iff h' hpath' hfolder', mem_pairsBelow_iff h hpath hfolder]
  simp only [Pair.liesIn_perm hperm]

/-- **The pairs below a directory are listed once each**, and nothing else is. The infos stand in
the order of their languages and then of the paths of their grammars, name by name, whatever order
the files are visited in. -/
theorem list_pairs (h : tree.WellFormed) (hpath : tree.resolve directory = .ok location)
    (hfolder : tree.isFolder location = true) :
    Set.BijOn (fun p : Pair => p.info directory) {p | p.LiesIn tree location}
        {info | info ∈ (list tree directory).2} ∧
      (list tree directory).2.Pairwise (fun a b => a.rank < b.rank) ∧
      ∀ files, files.Perm tree.files →
        list { tree with files } directory = list tree directory := by
  refine ⟨⟨?_, ?_, ?_⟩, pairwise_pairsBelow h hpath hfolder, ?_⟩
  · intro p hp
    exact (mem_pairsBelow_iff h hpath hfolder).2 ⟨p, hp, rfl⟩
  · intro p hp q hq heq
    exact Pair.LiesIn.eq_of_info_eq h hp hq heq
  · intro info hinfo
    exact (mem_pairsBelow_iff h hpath hfolder).1 hinfo
  · intro files hperm
    rw [list, list, pairsBelow_perm h hpath hfolder hperm]

/-- Two stems of one language are listed apart, however the six files are visited; `hu.v2` has its
grammar and its word list in different directories. -/
theorem list_pairs_of_one_language :
    let tree : FileTree := {
      files := [
        (["d".toList, "sub".toList, "en-us.dic".toList], ⟨#[49]⟩),
        (["d".toList, "en_US.aff".toList], ⟨#[65]⟩),
        (["d".toList, "hu.v2.aff".toList], ⟨#[]⟩),
        (["d".toList, "sub".toList, "en-us.aff".toList], ⟨#[65]⟩),
        (["d".toList, "sub".toList, "hu.v2.dic".toList], ⟨#[48]⟩),
        (["d".toList, "en_US.dic".toList], ⟨#[49, 10]⟩)]
      folders := [] }
    tree.WellFormed ∧ tree.resolve "./d/".toList = .ok ["d".toList] ∧
      tree.isFolder ["d".toList] = true ∧
      ⟨"en-US".toList, "./d/en_US.aff".toList, "./d/en_US.dic".toList, 3⟩ ∈
        (list tree "./d/".toList).2 ∧
      ⟨"en-US".toList, "./d/sub/en-us.aff".toList, "./d/sub/en-us.dic".toList, 2⟩ ∈
        (list tree "./d/".toList).2 ∧
      (list tree "./d/".toList).2.Pairwise (fun a b => a.rank < b.rank) ∧
      list { tree with files := tree.files.reverse } "./d/".toList = list tree "./d/".toList := by
  intro tree
  have h : tree.WellFormed := by decide
  have hpath : tree.resolve "./d/".toList = .ok ["d".toList] := by rfl
  have hfolder : tree.isFolder ["d".toList] = true := by decide
  obtain ⟨hbij, hsorted, horder⟩ := list_pairs h hpath hfolder
  have hupper : Pair.LiesIn ⟨[], "en_US".toList, ⟨#[65]⟩, ⟨#[49, 10]⟩⟩ tree ["d".toList] :=
    ⟨by decide, by decide, by decide, by simp [tree, Pair.names], by simp [tree, Pair.names]⟩
  have hlower : Pair.LiesIn ⟨["sub".toList], "en-us".toList, ⟨#[65]⟩, ⟨#[49]⟩⟩ tree ["d".toList] :=
    ⟨by decide, by decide, by decide, by simp [tree, Pair.names], by simp [tree, Pair.names]⟩
  exact ⟨h, hpath, hfolder, hbij.mapsTo hupper, hbij.mapsTo hlower, hsorted,
    horder _ (List.reverse_perm _)⟩

end Catalog

end AffixSpeller
