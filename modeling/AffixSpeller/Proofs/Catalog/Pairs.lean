import AffixSpeller.Catalog.Installed
import AffixSpeller.Proofs.Text.AppendNew
import Mathlib.Data.List.Induction

/-!
# Halves of pairs

Files are put together half by half. What is at hand after each file can be said without the order
of the steps: every path without extension that a grammar or a word list has so far is there once,
with the last grammar and the last word list of that path. So where files differ in their paths or
in their extensions, the pairs are those that the files make up, in whatever order these come.

## Main definitions

* `FileTree.Found.key`: the path of a file without extension.
* `Catalog.lastWith`: the last file of one sort that has a key.
* `Catalog.keys`, `Catalog.Halves.of`: the keys that come with a half, and the halves of one.
* `Catalog.Separate`: no two files have both their key and their extension in common.

## Main results

* `Catalog.addFile_map_of`: one more file.
* `Catalog.foldl_addFile`: the halves of all files.
* `Catalog.mem_filterMap_info?_iff`: the pairs that files make up.
-/

namespace AffixSpeller

open FileTree (Found)

/-- The names that the path of a file goes through, the last one without its extension. -/
def FileTree.Found.key (file : Found) : List Text :=
  (Path.components file.path).dropLast ++ [Path.stem file.name]

namespace Catalog

/-- Whether a file is the grammar of a pair. -/
def isGrammar (file : Found) : Bool :=
  Path.extension? file.name == some "aff".toList

/-- Whether a file is the word list of a pair. -/
def isWordList (file : Found) : Bool :=
  Path.extension? file.name == some "dic".toList

/-- The last file with a key among those of one sort. -/
def lastWith (sort : Found → Bool) (files : List Found) (key : List Text) : Option Found :=
  (files.filter fun file => file.key == key && sort file).getLast?

/-- The keys of the grammars and word lists among the files, each at its first place. -/
def keys (files : List Found) : List (List Text) :=
  ((files.filter fun file => isGrammar file || isWordList file).map Found.key).eraseDups

/-- The halves for a key: the last grammar and the last word list. -/
def Halves.of (files : List Found) (key : List Text) : Halves where
  key
  affix := lastWith isGrammar files key
  words := lastWith isWordList files key

variable {sort : Found → Bool} {files : List Found} {file affix words : Found} {key : List Text}
  {halves : Halves} {info : DictionaryInfo}

/-! ### One more file -/

theorem lastWith_append (sort : Found → Bool) (files : List Found) (file : Found)
    (key : List Text) :
    lastWith sort (files ++ [file]) key =
      (if file.key = key then Option.guard sort file else none).or (lastWith sort files key) := by
  rw [lastWith, List.filter_append, List.getLast?_append, lastWith]
  congr 1
  by_cases hkey : file.key = key <;> by_cases hsort : sort file = true <;>
    simp [Option.guard, hkey, hsort]

theorem mem_keys_iff :
    key ∈ keys files ↔
      ∃ file ∈ files, (isGrammar file = true ∨ isWordList file = true) ∧ file.key = key := by
  simp [keys, and_assoc]

theorem lastWith_eq_none (hkey : key ∉ keys files)
    (hhalf : ∀ f, sort f = true → isGrammar f = true ∨ isWordList f = true) :
    lastWith sort files key = none := by
  rw [lastWith, List.getLast?_eq_none_iff, List.filter_eq_nil_iff]
  intro f hf hboth
  obtain ⟨hfkey, hsort⟩ : f.key = key ∧ sort f = true := by simpa using hboth
  exact hkey (mem_keys_iff.2 ⟨f, hf, hhalf f hsort, hfkey⟩)

/-- No halves were found for a key that did not come. -/
theorem Halves.of_of_notMem (h : key ∉ keys files) : Halves.of files key = ⟨key, none, none⟩ := by
  rw [Halves.of, lastWith_eq_none h fun _ => .inl, lastWith_eq_none h fun _ => .inr]

/-- The halves of a key with one more file. -/
theorem Halves.of_append (files : List Found) (file : Found) (key : List Text) :
    Halves.of (files ++ [file]) key =
      if file.key = key then
        { Halves.of files key with
          affix := (Option.guard isGrammar file).or (Halves.of files key).affix
          words := (Option.guard isWordList file).or (Halves.of files key).words }
      else Halves.of files key := by
  simp only [Halves.of, lastWith_append]
  split_ifs <;> rfl

theorem keys_append (files : List Found) (file : Found) :
    keys (files ++ [file]) =
      if isGrammar file || isWordList file then appendNew (keys files) file.key
      else keys files := by
  rw [keys, List.filter_append, List.map_append, ← foldl_appendNew_nil, List.foldl_append,
    foldl_appendNew_nil]
  split_ifs with hhalf <;> simp [hhalf, keys]

/-- A grammar or a word list is put to the halves of its key, or makes up a new entry. -/
theorem addFile_eq (halves : List Halves) (file : Found) :
    addFile halves file =
      if isGrammar file || isWordList file then
        if halves.any (·.key == file.key) then
          halves.map fun h =>
            if h.key == file.key then
              { h with
                affix := (Option.guard isGrammar file).or h.affix
                words := (Option.guard isWordList file).or h.words }
            else h
        else
          halves ++ [⟨file.key, Option.guard isGrammar file, Option.guard isWordList file⟩]
      else halves := by
  unfold addFile
  split
  · rename_i hext
    simp [Found.key, Option.guard, isGrammar, isWordList, hext]
  · rename_i hext
    simp [Found.key, Option.guard, isGrammar, isWordList, hext]
  · rename_i haff hdic
    have hgrammar : isGrammar file = false := by simpa [isGrammar] using haff
    have hwords : isWordList file = false := by simpa [isWordList] using hdic
    rw [hgrammar, hwords]
    rfl

/-- **One more file** goes to the halves of its key. -/
theorem addFile_map_of (files : List Found) (file : Found) :
    addFile ((keys files).map (Halves.of files)) file =
      (keys (files ++ [file])).map (Halves.of (files ++ [file])) := by
  rw [addFile_eq, keys_append]
  split_ifs with hhalf hany
  · have hmem : (keys files).contains file.key = true := by simpa [Halves.of] using hany
    rw [appendNew, if_pos hmem, List.map_map]
    refine List.map_congr_left fun key _ => ?_
    rw [Halves.of_append]
    by_cases heq : key = file.key
    · simp [heq, Halves.of]
    · simp [heq, Ne.symm heq, Halves.of]
  · have hnew : file.key ∉ keys files := by simpa [Halves.of] using hany
    rw [appendNew, if_neg (by simpa using hnew), List.map_append]
    congr 1
    · refine List.map_congr_left fun key hmem => ?_
      rw [Halves.of_append, if_neg fun heq : file.key = key => hnew (heq ▸ hmem)]
    · rw [List.map_singleton, Halves.of_append, if_pos rfl, Halves.of_of_notMem hnew]
      simp
  · obtain ⟨hgrammar, hwords⟩ : isGrammar file = false ∧ isWordList file = false := by
      simpa using hhalf
    refine List.map_congr_left fun key _ => ?_
    rw [Halves.of_append]
    simp [Halves.of, Option.guard, hgrammar, hwords]

/-- **The halves of files**: the keys that came, each with its last grammar and its last word
list. -/
theorem foldl_addFile (files : List Found) :
    files.foldl addFile [] = (keys files).map (Halves.of files) := by
  induction files using List.reverseRecOn with
  | nil => rfl
  | append_singleton files file ih =>
    rw [List.foldl_append, ih]
    exact addFile_map_of files file

/-! ### Complete pairs -/

theorem Halves.info?_eq_some_iff :
    halves.info? = some info ↔
      ∃ affix words stem, halves.affix = some affix ∧ halves.words = some words ∧
        halves.key.getLast? = some stem ∧ stem ≠ ['.'] ∧ stem ≠ ['.', '.'] ∧
        Catalog.info (Language.normalize stem) affix words = info := by
  unfold info?
  split
  · rename_i affix words stem haff hdic hstem
    simp only [haff, hdic, hstem, Option.some.injEq]
    split_ifs with hdots
    · refine iff_of_false (by simp) ?_
      rintro ⟨-, -, stem, -, -, rfl, hhere, habove, -⟩
      exact hdots.elim hhere habove
    · rw [not_or] at hdots
      simp [hdots]
  · rename_i hnone
    refine iff_of_false (by simp) ?_
    rintro ⟨affix, words, stem, haff, hdic, hstem, -⟩
    exact hnone affix words stem haff hdic hstem

theorem mem_of_lastWith_eq_some (h : lastWith sort files key = some file) :
    file ∈ files ∧ file.key = key ∧ sort file = true := by
  simpa using List.mem_filter.1 (List.mem_of_getLast? h)

/-- No two files have both their key and their extension in common. -/
def Separate (files : List Found) : Prop :=
  ∀ f ∈ files, ∀ g ∈ files,
    f.key = g.key → Path.extension? f.name = Path.extension? g.name → f = g

/-- Where the extension tells the sort, the last file of the sort with a key is the only one. -/
theorem Separate.lastWith_eq_some_iff (h : Separate files) {extension : Text}
    (hsort : ∀ f, sort f = true ↔ Path.extension? f.name = some extension) :
    lastWith sort files key = some file ↔ file ∈ files ∧ file.key = key ∧ sort file = true := by
  refine ⟨mem_of_lastWith_eq_some, fun ⟨hfile, hkey, hfilesort⟩ => ?_⟩
  cases hlast : lastWith sort files key with
  | none =>
    rw [lastWith, List.getLast?_eq_none_iff, List.filter_eq_nil_iff] at hlast
    exact absurd (by simp [hkey, hfilesort]) (hlast file hfile)
  | some g =>
    obtain ⟨hg, hgkey, hgsort⟩ := mem_of_lastWith_eq_some hlast
    have hextension : Path.extension? g.name = Path.extension? file.name :=
      ((hsort g).1 hgsort).trans ((hsort file).1 hfilesort).symm
    rw [h g hg file hfile (hgkey.trans hkey.symm) hextension]

/-- **The pairs that files make up** are those of a grammar and a word list with one key. -/
theorem mem_filterMap_info?_iff (h : Separate files) :
    info ∈ (files.foldl addFile []).filterMap Halves.info? ↔
      ∃ affix ∈ files, ∃ words ∈ files, isGrammar affix = true ∧ isWordList words = true ∧
        words.key = affix.key ∧
        Path.stem affix.name ≠ ['.'] ∧ Path.stem affix.name ≠ ['.', '.'] ∧
        Catalog.info (Language.normalize (Path.stem affix.name)) affix words = info := by
  have haff (key : List Text) (affix : Found) :
      (Halves.of files key).affix = some affix ↔
        affix ∈ files ∧ affix.key = key ∧ isGrammar affix = true :=
    h.lastWith_eq_some_iff fun _ => beq_iff_eq
  have hdic (key : List Text) (words : Found) :
      (Halves.of files key).words = some words ↔
        words ∈ files ∧ words.key = key ∧ isWordList words = true :=
    h.lastWith_eq_some_iff fun _ => beq_iff_eq
  rw [foldl_addFile, List.mem_filterMap]
  simp only [Halves.info?_eq_some_iff, haff, hdic, List.mem_map, exists_exists_and_eq_and]
  constructor
  · rintro ⟨key, -, affix, words, stem, ⟨haffix, rfl, hgrammar⟩, ⟨hwords, hkey, hlist⟩, hstem,
      hhere, habove, rfl⟩
    obtain rfl : Path.stem affix.name = stem := by
      simpa [Halves.of, Found.key] using hstem
    exact ⟨affix, haffix, words, hwords, hgrammar, hlist, hkey, hhere, habove, rfl⟩
  · rintro ⟨affix, haffix, words, hwords, hgrammar, hlist, hkey, hhere, habove, rfl⟩
    refine ⟨affix.key, mem_keys_iff.2 ⟨affix, haffix, .inl hgrammar, rfl⟩, affix, words,
      Path.stem affix.name, ⟨haffix, rfl, hgrammar⟩, ⟨hwords, hkey, hlist⟩, ?_, hhere, habove, rfl⟩
    simp [Halves.of, Found.key]

/-- No two pairs have their grammar in common. -/
theorem pairwise_filterMap_info?
    (h : ∀ f ∈ files, ∀ g ∈ files,
      Path.components f.path = Path.components g.path → f.key = g.key) :
    ((files.foldl addFile []).filterMap Halves.info?).Pairwise fun a b =>
      Path.components a.affixPath ≠ Path.components b.affixPath := by
  rw [foldl_addFile, List.pairwise_filterMap, List.pairwise_map]
  refine (nodup_eraseDups _).imp ?_
  intro key key' hne a ha b hb hpath
  obtain ⟨affix, words, stem, haffix, -, -, -, -, rfl⟩ := Halves.info?_eq_some_iff.1 ha
  obtain ⟨affix', words', stem', haffix', -, -, -, -, rfl⟩ := Halves.info?_eq_some_iff.1 hb
  obtain ⟨hmem, hkey, -⟩ := mem_of_lastWith_eq_some haffix
  obtain ⟨hmem', hkey', -⟩ := mem_of_lastWith_eq_some haffix'
  exact hne (hkey.symm.trans ((h affix hmem affix' hmem' hpath).trans hkey'))

end Catalog

end AffixSpeller
