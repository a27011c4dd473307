import AffixSpeller.Catalog.Loading
import AffixSpeller.Proofs.Catalog.Lookup

/-!
# Whether a pair is looked for below the directory only

The scan for pairs never leaves the directory that it walks through. The directories that bear the
name of a language do, if the language is an absolute path or leads up: the pair of `../other` below
`d` is that of the directory `other` beside `d`. A pair that is found lies below the directory
unless it comes from such a directory, and a language that is no absolute path and has no component
`..` never leads out.

## Main definitions

* `FileTree.Visits`: a walk through a directory visits the file at a path.
* `FileTree.LiesBelow`: a path leads to a directory or to something below it.
* `Path.StaysBelow`: going on to a name never leads out of a directory.

## Main results

* `FileTree.WellFormed.visits_iff`: the files that a walk visits are those that lie below.
* `Catalog.exists_of_mem_folders`: the three spellings of a language do not lead out if it does not
  do so itself.
* `Catalog.find_visits_iff`: when the pair that is found lies below the directory.
* `Catalog.find_parent_not_visits`: a language that leads up leads out.
-/

namespace AffixSpeller

open FileTree (Found)

/-! ### Files below a directory -/

namespace FileTree

variable {tree : FileTree} {directory path : Text} {location l : Location} {bytes : ByteArray}

/-- A walk through a directory visits the file at a path. -/
def Visits (tree : FileTree) (directory path : Text) : Prop :=
  ∃ f ∈ tree.filesBelow directory, ∃ location,
    tree.resolve f.path = .ok location ∧ tree.resolve path = .ok location

/-- A path leads to a directory or to something below it. -/
def LiesBelow (tree : FileTree) (directory path : Text) : Prop :=
  ∃ location l, tree.resolve directory = .ok location ∧ tree.resolve path = .ok l ∧ location <+: l

theorem liesBelow_iff (hdirectory : tree.resolve directory = .ok location)
    (hpath : tree.resolve path = .ok l) : tree.LiesBelow directory path ↔ location <+: l := by
  simp [LiesBelow, hdirectory, hpath]

theorem WellFormed.visits_of_mem_filesBelow (h : tree.WellFormed) {f : Found}
    (hf : f ∈ tree.filesBelow directory) : tree.Visits directory f.path := by
  cases hdirectory : tree.resolve directory with
  | error fault => simp [filesBelow, hdirectory] at hf
  | ok location =>
    refine ⟨f, hf, ?_⟩
    obtain ⟨names, bytes, hmem, rfl⟩ := (mem_filesBelow_iff_of_resolve hdirectory).1 hf
    exact ⟨_, h.resolve_along hdirectory hmem, h.resolve_along hdirectory hmem⟩

/-- **The files that a walk visits** are those that lie below the directory. -/
theorem WellFormed.visits_iff (h : tree.WellFormed) (hpath : tree.resolve path = .ok l)
    (hmem : (l, bytes) ∈ tree.files) :
    tree.Visits directory path ↔ tree.LiesBelow directory path := by
  constructor
  · rintro ⟨f, hf, l', hfound, hpath'⟩
    obtain rfl := Except.ok.inj (hpath.symm.trans hpath')
    cases hdirectory : tree.resolve directory with
    | error fault => simp [filesBelow, hdirectory] at hf
    | ok location =>
      obtain ⟨names, bytes, hmem, rfl⟩ := (mem_filesBelow_iff_of_resolve hdirectory).1 hf
      obtain rfl := Except.ok.inj ((h.resolve_along hdirectory hmem).symm.trans hfound)
      exact ⟨location, _, hdirectory, hpath, List.prefix_append location names⟩
  · rintro ⟨location, l', hdirectory, hpath', names, rfl⟩
    obtain rfl := Except.ok.inj (hpath.symm.trans hpath')
    exact ⟨_, (mem_filesBelow_iff_of_resolve hdirectory).2 ⟨names, bytes, hmem, rfl⟩, _,
      h.resolve_along hdirectory hmem, hpath⟩

end FileTree

/-! ### Names that do not lead out -/

namespace Path

open Text (Blank SameMarks)

variable {name s t : Text}

/-- Going on to the name never leads out of a directory: it is not absolute, and none of its
components leads up. -/
structure StaysBelow (name : Text) : Prop where
  not_isAbsolute : isAbsolute name = false
  above_notMem : ['.', '.'] ∉ components name

instance (name : Text) : Decidable (StaysBelow name) :=
  decidable_of_iff (isAbsolute name = false ∧ ['.', '.'] ∉ components name)
    ⟨fun ⟨habsolute, habove⟩ => ⟨habsolute, habove⟩, fun h => ⟨h.not_isAbsolute, h.above_notMem⟩⟩

/-- Full stops and slashes. -/
def marks : CodeSet :=
  ⟨[0x2E, 0x30]⟩

theorem isCaseless_marks : marks.isCaseless = true := by
  decide +kernel

theorem staysBelow_iff :
    StaysBelow name ↔ '/' ∉ name.head? ∧ ['.', '.'] ∉ name.splitOn '/' := by
  have hcomponents : ['.', '.'] ∈ components name ↔ ['.', '.'] ∈ name.splitOn '/' := by
    simp [components]
  rw [← hcomponents]
  exact ⟨fun h => ⟨beq_eq_false_iff_ne.1 h.not_isAbsolute, h.above_notMem⟩,
    fun h => ⟨beq_eq_false_iff_ne.2 h.1, h.2⟩⟩

/-- A text with the same full stops and slashes does not lead out either. -/
theorem StaysBelow.of_sameMarks (hs : StaysBelow s) (h : SameMarks marks.contains s t) :
    StaysBelow t := by
  obtain ⟨hhead, habove⟩ := staysBelow_iff.1 hs
  refine staysBelow_iff.2 ⟨fun hmem => hhead ?_, fun hmem => habove ?_⟩
  · exact h.mem_head? (by decide) hmem
  · have hdot : marks.contains '.' = true := by decide
    exact h.mem_splitOn (by decide) hmem (by simpa using hdot)

section Blank

variable {gap : Text} (hgap : Blank gap)

include hgap

theorem slash_notMem_of_blank : '/' ∉ gap := by
  intro hmem
  have hwhite := hgap '/' hmem
  contradiction

/-- Two full stops are a component by themselves only. -/
theorem eq_nil_of_subset_above (h : gap ⊆ ['.', '.']) : gap = [] := by
  refine List.eq_nil_iff_forall_not_mem.2 fun c hc => ?_
  have hwhite := hgap c hc
  have hdot : c = '.' := by simpa using h hc
  rw [hdot] at hwhite
  contradiction

theorem StaysBelow.blank_append (h : StaysBelow t) : StaysBelow (gap ++ t) := by
  obtain ⟨hhead, habove⟩ := staysBelow_iff.1 h
  refine staysBelow_iff.2 ⟨fun hmem => ?_, fun hmem => habove ?_⟩
  · cases gap with
    | nil => exact hhead hmem
    | cons c gap =>
      obtain rfl : c = '/' := by simpa using hmem
      exact slash_notMem_of_blank hgap List.mem_cons_self
  · rw [Text.splitOn_append_of_notMem (slash_notMem_of_blank hgap)] at hmem
    obtain ⟨first, rest, hpieces⟩ := List.exists_cons_of_ne_nil (List.splitOn_ne_nil '/' t)
    rw [hpieces, List.modifyHead_cons, List.mem_cons] at hmem
    rw [hpieces, List.mem_cons]
    refine hmem.imp_left fun hfirst => ?_
    have hnil : gap = [] := eq_nil_of_subset_above hgap (hfirst ▸ List.subset_append_left gap first)
    simpa [hnil] using hfirst

theorem StaysBelow.append_blank (h : StaysBelow t) : StaysBelow (t ++ gap) := by
  obtain ⟨hhead, habove⟩ := staysBelow_iff.1 h
  refine staysBelow_iff.2 ⟨fun hmem => ?_, fun hmem => habove ?_⟩
  · cases t with
    | nil => exact slash_notMem_of_blank hgap (List.mem_of_mem_head? hmem)
    | cons c t => exact hhead hmem
  · obtain ⟨front, last, ht, htgap⟩ :=
      Text.exists_splitOn_append_of_notMem (slash_notMem_of_blank hgap) t
    rw [htgap, List.mem_append, List.mem_singleton] at hmem
    rw [ht, List.mem_append, List.mem_singleton]
    refine hmem.imp_right fun hlast => ?_
    have hnil : gap = [] := eq_nil_of_subset_above hgap (hlast ▸ List.subset_append_right last gap)
    simpa [hnil] using hlast

end Blank

/-- White space around a name does not make it lead out. -/
theorem StaysBelow.of_trim (h : StaysBelow (Text.trim t)) : StaysBelow t := by
  obtain ⟨trailing, ht, htrailing⟩ :=
    Text.exists_eq_takeWhile_append_trimWhile Unicode.isWhiteSpace t
  have hleading : Blank (t.takeWhile Unicode.isWhiteSpace) := fun c => List.mem_takeWhile_imp
  rw [ht]
  exact (h.append_blank htrailing).blank_append hleading

end Path

namespace Catalog

variable {tree : FileTree} {directory folder language name : Text} {extension : Text}
  {info : DictionaryInfo} {f : Found} {l : Location}

/-- **The three spellings of a language** do not lead out if the language does not. -/
theorem exists_of_mem_folders (h : Path.StaysBelow (Text.trim language))
    (hfolder : folder ∈ folders directory language) :
    ∃ name, Path.StaysBelow name ∧ Path.join directory name = folder := by
  have hhyphen : Path.marks.contains '-' = false := by decide
  have hline : Path.marks.contains '_' = false := by decide
  have hnormal : Path.StaysBelow (Language.normalize language) := by
    refine .of_sameMarks ?_ (Language.sameMarks_normalize Path.isCaseless_marks language)
    rw [Language.trim_hyphenate]
    exact h.of_sameMarks (Text.sameMarks_replaceChar hline hhyphen _)
  obtain ⟨name, hname, rfl⟩ := List.mem_map.1 hfolder
  refine ⟨name, ?_, rfl⟩
  simp only [List.mem_cons, List.not_mem_nil, or_false] at hname
  obtain rfl | rfl | rfl := hname
  · exact h.of_trim
  · exact hnormal
  · exact hnormal.of_sameMarks (Text.sameMarks_replaceChar hhyphen hline _)

theorem liesBelow_of_staysBelow (hne : directory ≠ []) (hname : Path.StaysBelow name)
    (h : HoldsPair tree (Path.join directory name)) :
    tree.LiesBelow directory (Path.join directory name) := by
  obtain ⟨l, hpath, haffix, -⟩ := h
  obtain ⟨location, hdirectory, hprefix⟩ := FileTree.exists_of_resolve_join hpath
    (isFolder_of_holdsFile haffix) hne hname.not_isAbsolute hname.above_notMem
  exact ⟨location, l, hdirectory, hpath, hprefix⟩

/-! ### The pair that is found -/

section WellFormed

variable (h : tree.WellFormed)

include h

/-- A file directly in a directory is found at a path that leads to it. -/
theorem exists_of_isFirstIn (hfolder : tree.resolve folder = .ok l)
    (hf : IsFirstIn tree folder extension f) :
    ∃ bytes, (l ++ [f.name], bytes) ∈ tree.files ∧ tree.resolve f.path = .ok (l ++ [f.name]) := by
  obtain ⟨name, bytes, hmem, rfl⟩ := (FileTree.mem_filesIn_iff hfolder).1 hf.mem
  exact ⟨bytes, hmem, h.resolve_along hfolder hmem⟩

/-- **The pair of a directory** lies below another directory if the directory itself does. -/
theorem visits_iff_of_isPairOf (hfolder : tree.resolve folder = .ok l)
    (hinfo : IsPairOf tree folder language info) :
    tree.Visits directory info.affixPath ∧ tree.Visits directory info.wordsPath ↔
      tree.LiesBelow directory folder := by
  obtain ⟨affix, words, haffix, hwords, rfl⟩ := hinfo
  obtain ⟨bytes, hmem, hpath⟩ := exists_of_isFirstIn h hfolder haffix
  obtain ⟨bytes', hmem', hpath'⟩ := exists_of_isFirstIn h hfolder hwords
  change tree.Visits directory affix.path ∧ tree.Visits directory words.path ↔ _
  rw [h.visits_iff hpath hmem, h.visits_iff hpath' hmem']
  constructor
  · rintro ⟨⟨location, l₁, hdirectory, hl₁, hprefix⟩, ⟨location', l₂, hdirectory', hl₂, hprefix'⟩⟩
    obtain rfl := Except.ok.inj (hpath.symm.trans hl₁)
    obtain rfl := Except.ok.inj (hpath'.symm.trans hl₂)
    obtain rfl := Except.ok.inj (hdirectory.symm.trans hdirectory')
    refine ⟨location, l, hdirectory, hfolder, ?_⟩
    obtain rfl | hbelow := List.prefix_concat_iff.1 hprefix
    · -- a walk that starts at the grammar does not come to the word list
      obtain ⟨hname, -⟩ :=
        List.cons_prefix_cons.1 ((List.prefix_append_right_inj l).1 hprefix')
      have hextension := haffix.extension_eq.symm.trans
        ((congrArg Path.extension? hname).trans hwords.extension_eq)
      contradiction
    · exact hbelow
  · rintro ⟨location, l', hdirectory, hl', hprefix⟩
    obtain rfl := Except.ok.inj (hfolder.symm.trans hl')
    exact ⟨⟨location, _, hdirectory, hpath, hprefix.trans (List.prefix_append _ _)⟩,
      ⟨location, _, hdirectory, hpath', hprefix.trans (List.prefix_append _ _)⟩⟩

/-- Listed pairs lie below the directory. -/
theorem visits_of_mem_list (hinfo : info ∈ (list tree directory).2) :
    tree.Visits directory info.affixPath ∧ tree.Visits directory info.wordsPath := by
  obtain ⟨halves, hhalves, hcomplete⟩ := List.mem_filterMap.1 (List.mem_mergeSort.1 hinfo)
  rw [foldl_addFile] at hhalves
  obtain ⟨key, -, rfl⟩ := List.mem_map.1 hhalves
  obtain ⟨affix, words, stem, haffix, hwords, -, -, -, rfl⟩ := Halves.info?_eq_some_iff.1 hcomplete
  exact ⟨h.visits_of_mem_filesBelow (mem_of_lastWith_eq_some haffix).1,
    h.visits_of_mem_filesBelow (mem_of_lastWith_eq_some hwords).1⟩

theorem find_visits_iff_forall (hfind : (find tree directory language).2 = some info) :
    tree.Visits directory info.affixPath ∧ tree.Visits directory info.wordsPath ↔
      ∀ folder, IsFirstComplete tree directory language folder →
        tree.LiesBelow directory folder := by
  obtain ⟨folder, hfolder⟩ | hnone := exists_isFirstComplete_or tree directory language
  · obtain ⟨found, hfound, hpair⟩ := find_of_isFirstComplete hfolder
    obtain rfl : found = info := by
      rw [hfound] at hfind
      exact Option.some.inj hfind
    obtain ⟨-, -, -, -, l, hl, -⟩ := id hfolder
    rw [visits_iff_of_isPairOf h hl hpair]
    refine ⟨fun hbelow other hother => ?_, fun hall => hall folder hfolder⟩
    rwa [← hfolder.unique hother]
  · have hlisted : info ∈ (list tree directory).2 := by
      rw [find_of_forall_not_holdsPair hnone] at hfind
      exact List.mem_of_find?_eq_some hfind
    refine iff_of_true (visits_of_mem_list h hlisted) fun folder hfolder => ?_
    exact absurd hfolder.holdsPair (hnone folder hfolder.mem)

/-- **When the pair that is found lies below the directory**: unless it is that of a directory which
bears the name of the language and lies elsewhere. A language that is no absolute path and has no
component `..` never leads out, unless the directory is the empty path, where a walk visits nothing.
The files of the pair are those that are read. -/
theorem find_visits_iff (hfind : (find tree directory language).2 = some info) :
    (tree.Visits directory info.affixPath ∧ tree.Visits directory info.wordsPath ↔
        ∀ folder, IsFirstComplete tree directory language folder →
          tree.LiesBelow directory folder) ∧
      (directory ≠ [] → Path.StaysBelow (Text.trim language) →
        tree.Visits directory info.affixPath ∧ tree.Visits directory info.wordsPath) ∧
      Dictionary.load tree directory language =
        (Dictionary.ofPair tree info.affixPath info.wordsPath).after
          (find tree directory language).1 := by
  refine ⟨find_visits_iff_forall h hfind, fun hne hlanguage => ?_, ?_⟩
  · refine (find_visits_iff_forall h hfind).2 fun folder hfolder => ?_
    obtain ⟨name, hname, rfl⟩ := exists_of_mem_folders hlanguage hfolder.mem
    exact liesBelow_of_staysBelow hne hname hfolder.holdsPair
  · unfold Dictionary.load
    rw [← Prod.eta (find tree directory language), hfind]

end WellFormed

/-- A directory below serves its language, a space behind the code being dropped. -/
theorem find_visits_iff_of_space :
    let tree : FileTree := {
      files := [
        (["d".toList, "en".toList, "index.aff".toList], ⟨#[]⟩),
        (["d".toList, "en".toList, "index.dic".toList], ⟨#[48]⟩)]
      folders := [] }
    tree.WellFormed ∧ Path.StaysBelow "en".toList ∧
      (find tree "d".toList "en ".toList).2 =
        some ⟨"en".toList, "d/en/index.aff".toList, "d/en/index.dic".toList, 1⟩ ∧
      tree.Visits "d".toList "d/en/index.aff".toList ∧
      tree.Visits "d".toList "d/en/index.dic".toList := by
  intro tree
  have h : tree.WellFormed := by decide
  have hstays : Path.StaysBelow "en".toList := by decide
  have hfolders : folders "d".toList "en ".toList =
      ["d/en ".toList] ++ "d/en".toList :: ["d/en".toList] := by decide +kernel
  have hmissing : findInFolder tree (Language.normalize "en ".toList) "d/en ".toList = none := by rfl
  have hsorted : sortedIn tree "d/en".toList = tree.filesIn "d/en".toList :=
    List.mergeSort_of_pairwise (by decide +kernel)
  have hpair : findInFolder tree (Language.normalize "en ".toList) "d/en".toList =
      some ("d/en".toList,
        ⟨"en".toList, "d/en/index.aff".toList, "d/en/index.dic".toList, 1⟩) := by
    rw [findInFolder, pairInFolder_eq, hsorted]
    decide +kernel
  have hfind := congrArg Prod.snd
    (find_of_findInFolder hfolders (List.forall_mem_singleton.2 hmissing) hpair)
  obtain ⟨-, hbelow, -⟩ := find_visits_iff h hfind
  exact ⟨h, hstays, hfind, hbelow (by decide) hstays⟩

/-- A language that leads up leads out: a walk through the directory visits the pair of another
language, but not the one that is found. -/
theorem find_parent_not_visits :
    let tree : FileTree := {
      files := [
        (["d".toList, "en.aff".toList], ⟨#[]⟩), (["d".toList, "en.dic".toList], ⟨#[48]⟩),
        (["other".toList, "x.aff".toList], ⟨#[]⟩), (["other".toList, "x.dic".toList], ⟨#[48]⟩)]
      folders := [] }
    tree.WellFormed ∧
      (find tree "d".toList "../other".toList).2 =
        some ⟨"../other".toList, "d/../other/x.aff".toList, "d/../other/x.dic".toList, 1⟩ ∧
      tree.Visits "d".toList "d/en.aff".toList ∧
      ¬tree.Visits "d".toList "d/../other/x.aff".toList ∧
      ¬tree.Visits "d".toList "d/../other/x.dic".toList := by
  intro tree
  have h : tree.WellFormed := by decide
  have hdirectory : tree.resolve "d".toList = .ok ["d".toList] := by rfl
  have hvisits {path : Text} {l : Location} {bytes : ByteArray} (hmem : (l, bytes) ∈ tree.files)
      (hpath : tree.resolve path = .ok l) : tree.Visits "d".toList path ↔ ["d".toList] <+: l := by
    rw [h.visits_iff hpath hmem, FileTree.liesBelow_iff hdirectory hpath]
  have hfolders : folders "d".toList "../other".toList =
      [] ++ "d/../other".toList :: ["d/../other".toList, "d/../other".toList] := by decide +kernel
  have hsorted : sortedIn tree "d/../other".toList = tree.filesIn "d/../other".toList :=
    List.mergeSort_of_pairwise (by decide +kernel)
  have hpair : findInFolder tree (Language.normalize "../other".toList) "d/../other".toList =
      some ("d/../other".toList,
        ⟨"../other".toList, "d/../other/x.aff".toList, "d/../other/x.dic".toList, 1⟩) := by
    rw [findInFolder, pairInFolder_eq, hsorted]
    decide +kernel
  refine ⟨h, congrArg Prod.snd (find_of_findInFolder hfolders (by simp) hpair), ?_, ?_, ?_⟩
  · rw [hvisits (.head _) rfl]
    decide
  · rw [hvisits (.tail _ (.tail _ (.head _))) rfl]
    decide
  · rw [hvisits (.tail _ (.tail _ (.tail _ (.head _)))) rfl]
    decide

end Catalog

end AffixSpeller
