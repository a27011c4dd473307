import AffixSpeller.Catalog.FileTree
import AffixSpeller.Proofs.Catalog.Path
import Mathlib.Data.List.Nodup

/-!
# Files below a directory

In a *well-formed* file tree every file has a location of its own, made of proper names, and nothing
lies below it. A walk through a directory then finds each file below it once, at the path that goes
on through the names from the directory to the file. The order in which files are visited has no
bearing on where a path leads, and the path at which a file was found leads to that file.

## Main definitions

* `FileTree.WellFormed`: files have locations of their own, and none of them is a directory.
* `FileTree.Found.along`: a file as it is found at the end of some names behind a path.
* `FileTree.start`: where a path begins.

## Main results

* `FileTree.mem_filesIn_iff`: the files directly in a directory.
* `FileTree.WellFormed.mem_filesBelow_iff`: what a walk through a directory finds.
* `FileTree.WellFormed.components_path`: the names along which a file was found.
* `FileTree.WellFormed.resolve_along`: where the path of a file leads.
* `FileTree.exists_of_resolve_join`: a name that does not lead up leads further down.
* `FileTree.resolve_perm`: where a path leads does not depend on the order of visits.
-/

namespace AffixSpeller.FileTree

/-- Files have locations of their own, made of proper names, and none of them is a directory. -/
structure WellFormed (tree : FileTree) : Prop where
  isName : ∀ file ∈ tree.files, ∀ name ∈ file.1, Path.IsName name
  nodup : (tree.files.map Prod.fst).Nodup
  not_isFolder : ∀ file ∈ tree.files, tree.isFolder file.1 = false

instance (tree : FileTree) : Decidable tree.WellFormed :=
  decidable_of_iff
    ((∀ file ∈ tree.files, ∀ name ∈ file.1, Path.IsName name) ∧ (tree.files.map Prod.fst).Nodup ∧
      ∀ file ∈ tree.files, tree.isFolder file.1 = false)
    ⟨fun ⟨hname, hnodup, hfolder⟩ => ⟨hname, hnodup, hfolder⟩,
      fun h => ⟨h.isName, h.nodup, h.not_isFolder⟩⟩

/-- A file as it is found at the end of some names behind a path. -/
def Found.along (path : Text) (names : List Text) (bytes : ByteArray) : Found where
  path := names.foldl Path.join path
  name := names.getLast?.getD []
  bytes := bytes

@[simp] theorem Found.along_append_name (path : Text) (folder : List Text) (name : Text)
    (bytes : ByteArray) : (Found.along path (folder ++ [name]) bytes).name = name := by
  simp [along]

variable {tree : FileTree} {path : Text} {location l : Location} {names : List Text}
  {bytes bytes' : ByteArray} {f : Found}

/-! ### What lies in a directory -/

/-- Something lies below a directory only. -/
theorem isFolder_of_mem (hmem : (location ++ names, bytes) ∈ tree.files) (hne : names ≠ []) :
    tree.isFolder location = true := by
  rw [isFolder, Bool.or_eq_true, List.any_eq_true]
  exact .inr ⟨_, hmem, by simpa using hne⟩

/-- **The files directly in a directory.** -/
theorem mem_filesIn_iff (hpath : tree.resolve path = .ok location) :
    f ∈ tree.filesIn path ↔
      ∃ name bytes, (location ++ [name], bytes) ∈ tree.files ∧
        Found.along path [name] bytes = f := by
  rw [filesIn, hpath]
  simp only [List.mem_filterMap, Prod.exists]
  constructor
  · rintro ⟨file, bytes, hmem, hfound⟩
    split at hfound
    · rename_i name hprefix
      obtain rfl := List.isPrefixOf?_eq_some_iff_append_eq.1 hprefix
      exact ⟨name, bytes, hmem, Option.some.inj hfound⟩
    · contradiction
  · rintro ⟨name, bytes, hmem, rfl⟩
    refine ⟨_, bytes, hmem, ?_⟩
    rw [List.isPrefixOf?_eq_some_iff_append_eq.2 rfl]
    rfl

/-! ### What a walk finds -/

/-- The files at or below a path, the path being that of a file or of a directory. -/
theorem mem_filesBelow_iff_of_resolve (hpath : tree.resolve path = .ok location) :
    f ∈ tree.filesBelow path ↔
      ∃ names bytes, (location ++ names, bytes) ∈ tree.files ∧
        ⟨names.foldl Path.join path, names.getLast?.getD ((Path.fileName? path).getD []), bytes⟩ =
          f := by
  rw [filesBelow, hpath]
  simp only [List.mem_filterMap, Prod.exists]
  constructor
  · rintro ⟨file, bytes, hmem, hfound⟩
    split at hfound
    · contradiction
    · rename_i names hprefix
      obtain rfl := List.isPrefixOf?_eq_some_iff_append_eq.1 hprefix
      exact ⟨names, bytes, hmem, Option.some.inj hfound⟩
  · rintro ⟨names, bytes, hmem, rfl⟩
    refine ⟨_, bytes, hmem, ?_⟩
    rw [List.isPrefixOf?_eq_some_iff_append_eq.2 rfl]

namespace WellFormed

theorem ne_nil_of_mem (h : tree.WellFormed) (hfolder : tree.isFolder location = true)
    (hmem : (location ++ names, bytes) ∈ tree.files) : names ≠ [] := by
  rintro rfl
  rw [List.append_nil] at hmem
  exact Bool.false_ne_true ((h.not_isFolder _ hmem).symm.trans hfolder)

/-- No location has two files. -/
theorem bytes_eq (h : tree.WellFormed) (hmem : (location, bytes) ∈ tree.files)
    (hmem' : (location, bytes') ∈ tree.files) : bytes = bytes' :=
  congrArg Prod.snd (List.inj_on_of_nodup_map h.nodup hmem hmem' rfl)

/-- **A walk through a directory** finds the files whose locations go on from that of the
directory. -/
theorem mem_filesBelow_iff (h : tree.WellFormed) (hpath : tree.resolve path = .ok location)
    (hfolder : tree.isFolder location = true) :
    f ∈ tree.filesBelow path ↔
      ∃ names bytes, (location ++ names, bytes) ∈ tree.files ∧
        Found.along path names bytes = f := by
  -- the directory is no file, so what is found has its name from the names behind the path
  have hname {names : List Text} {bytes : ByteArray}
      (hmem : (location ++ names, bytes) ∈ tree.files) :
      names.getLast?.getD ((Path.fileName? path).getD []) = names.getLast?.getD [] := by
    rw [List.getLast?_eq_some_getLast (h.ne_nil_of_mem hfolder hmem)]
    rfl
  rw [mem_filesBelow_iff_of_resolve hpath]
  refine exists_congr fun names => exists_congr fun bytes => and_congr_right fun hmem => ?_
  rw [hname hmem, Found.along]

/-- The path of a file that was found goes through the names from the directory to the file. -/
theorem components_path (h : tree.WellFormed) (hmem : (location ++ names, bytes) ∈ tree.files) :
    Path.components (Found.along path names bytes).path = Path.components path ++ names :=
  Path.components_foldl_join path fun name hname =>
    h.isName _ hmem name (List.mem_append_right location hname)

end WellFormed

/-! ### Where a path leads -/

/-- Where a path begins. -/
def start (tree : FileTree) (path : Text) : Location :=
  if Path.isAbsolute path then [] else tree.here

theorem resolve_eq_ok_iff :
    tree.resolve path = .ok location ↔
      path ≠ [] ∧ tree.follow (tree.start path) (Path.components path) = .ok location ∧
        (Path.endsAsDirectory path = true → tree.isFolder location = true) := by
  unfold resolve
  by_cases hne : path = []
  · simp [hne]
  · rw [if_neg (by simpa using hne), and_iff_right hne, start]
    cases tree.follow (if Path.isAbsolute path then [] else tree.here) (Path.components path) with
    | error fault => simp
    | ok l =>
      simp only [Except.ok.injEq]
      split_ifs with hends
      · refine iff_of_false (by simp) ?_
        rintro ⟨rfl, hfolder⟩
        simp_all
      · rw [Except.ok.injEq, iff_self_and]
        rintro rfl
        simpa using hends

/-- Following names one after the other. -/
theorem follow_append (location : Location) (front back : List Text) :
    tree.follow location (front ++ back) =
      (tree.follow location front).bind (tree.follow · back) := by
  induction front generalizing location with
  | nil => rfl
  | cons name front ih =>
    simp only [List.cons_append, follow, ih]
    split_ifs <;> rfl

/-- Names are gone through one by one, and each leads on from a directory. -/
theorem follow_cons_eq_ok_iff {name : Text} :
    tree.follow location (name :: names) = .ok l ↔
      tree.isFolder location = true ∧
        ((name = ['.', '.'] ∧ tree.follow location.dropLast names = .ok l) ∨
          name ≠ ['.', '.'] ∧
            (tree.isFolder (location ++ [name]) = true ∨
              (tree.file? (location ++ [name])).isSome = true) ∧
            tree.follow (location ++ [name]) names = .ok l) := by
  simp only [follow]
  split_ifs with hfolder hup hthere <;> simp_all

/-- Names lead further down, unless one of them leads up. -/
theorem eq_append_of_follow (h : tree.follow location names = .ok l)
    (hup : ['.', '.'] ∉ names) : l = location ++ names := by
  induction names generalizing location with
  | nil => simpa [follow] using h.symm
  | cons name names ih =>
    obtain ⟨hname, hnames⟩ := List.ne_and_not_mem_of_not_mem_cons hup
    obtain ⟨-, ⟨heq, -⟩ | ⟨-, -, hnext⟩⟩ := follow_cons_eq_ok_iff.1 h
    · exact absurd heq.symm hname
    · rw [ih hnext hnames, List.append_assoc, List.singleton_append]

/-- The way to a directory begins at one. -/
theorem isFolder_of_follow (h : tree.follow location names = .ok l)
    (hl : tree.isFolder l = true) : tree.isFolder location = true := by
  cases names with
  | nil =>
    obtain rfl := Except.ok.inj h
    exact hl
  | cons name names => exact (follow_cons_eq_ok_iff.1 h).1

theorem start_join {base name : Text} (hbase : base ≠ []) (hname : Path.isAbsolute name = false) :
    tree.start (Path.join base name) = tree.start base := by
  rw [start, Path.isAbsolute_join hbase hname, start]

/-- A path that goes on leads through where it led before. -/
theorem resolve_join_eq_ok {name : Text} (hpath : tree.resolve path = .ok location)
    (hname : Path.IsName name) (hfolder : tree.isFolder location = true)
    (hthere : tree.isFolder (location ++ [name]) = true ∨
      (tree.file? (location ++ [name])).isSome = true) :
    tree.resolve (Path.join path name) = .ok (location ++ [name]) := by
  obtain ⟨hne, hfollow, -⟩ := resolve_eq_ok_iff.1 hpath
  refine resolve_eq_ok_iff.2 ⟨?_, ?_, ?_⟩
  · intro hnil
    have hcomponents := Path.components_join path hname
    rw [hnil] at hcomponents
    simp [Path.components] at hcomponents
  · rw [start_join hne hname.not_isAbsolute, Path.components_join path hname, follow_append,
      hfollow]
    exact follow_cons_eq_ok_iff.2 ⟨hfolder, .inr ⟨hname.ne_above, hthere, rfl⟩⟩
  · simp [Path.endsAsDirectory_join hne hname]

/-- **The path at which a file was found** leads to the file. -/
theorem WellFormed.resolve_along (h : tree.WellFormed) (hpath : tree.resolve path = .ok location)
    (hmem : (location ++ names, bytes) ∈ tree.files) :
    tree.resolve (Found.along path names bytes).path = .ok (location ++ names) := by
  change tree.resolve (names.foldl Path.join path) = _
  induction names generalizing path location with
  | nil => simpa using hpath
  | cons name names ih =>
    have hname : Path.IsName name := h.isName _ hmem name (by simp)
    have hfolder : tree.isFolder location = true := isFolder_of_mem hmem (List.cons_ne_nil _ _)
    rw [List.append_cons] at hmem ⊢
    have hthere : tree.isFolder (location ++ [name]) = true ∨
        (tree.file? (location ++ [name])).isSome = true := by
      cases names with
      | nil => exact .inr (List.lookup_isSome_iff.2 ⟨_, hmem, by simp⟩)
      | cons next names => exact .inl (isFolder_of_mem hmem (List.cons_ne_nil _ _))
    exact ih (resolve_join_eq_ok hpath hname hfolder hthere) hmem

/-- **A name that does not lead up** leads further down from a directory. -/
theorem exists_of_resolve_join {name : Text}
    (h : tree.resolve (Path.join path name) = .ok l) (hfolder : tree.isFolder l = true)
    (hne : path ≠ []) (hname : Path.isAbsolute name = false)
    (hup : ['.', '.'] ∉ Path.components name) :
    ∃ location, tree.resolve path = .ok location ∧ location <+: l := by
  obtain ⟨-, hfollow, -⟩ := resolve_eq_ok_iff.1 h
  rw [start_join hne hname, Path.components_join_of_not_isAbsolute path hname,
    follow_append] at hfollow
  cases hpath : tree.follow (tree.start path) (Path.components path) with
  | error fault =>
    rw [hpath] at hfollow
    contradiction
  | ok location =>
    rw [hpath] at hfollow
    have hnext : tree.follow location (Path.components name) = .ok l := hfollow
    refine ⟨location, resolve_eq_ok_iff.2 ⟨hne, hpath, fun _ => ?_⟩, ?_⟩
    · exact isFolder_of_follow hnext hfolder
    · rw [eq_append_of_follow hnext hup]
      exact List.prefix_append location _

/-! ### The order of visits -/

section Perm

variable {files : List (Location × ByteArray)} (h : files.Perm tree.files)

include h

theorem isFolder_perm (location : Location) :
    { tree with files }.isFolder location = tree.isFolder location := by
  simp only [isFolder, h.any_eq]

theorem isSome_file?_perm (location : Location) :
    ({ tree with files }.file? location).isSome = (tree.file? location).isSome := by
  rw [Bool.eq_iff_iff]
  simp only [file?, List.lookup_isSome_iff, h.mem_iff]

theorem follow_perm (location : Location) (names : List Text) :
    { tree with files }.follow location names = tree.follow location names := by
  induction names generalizing location with
  | nil => rfl
  | cons name names ih => simp only [follow, isFolder_perm h, isSome_file?_perm h, ih]

/-- Where a path leads does not depend on the order of visits. -/
theorem resolve_perm (path : Text) :
    { tree with files }.resolve path = tree.resolve path := by
  simp only [resolve, follow_perm h, isFolder_perm h]

theorem WellFormed.of_perm (htree : tree.WellFormed) : { tree with files }.WellFormed where
  isName file hfile := htree.isName file (h.mem_iff.1 hfile)
  nodup := (h.map Prod.fst).nodup_iff.2 htree.nodup
  not_isFolder file hfile :=
    (isFolder_perm h file.1).trans (htree.not_isFolder file (h.mem_iff.1 hfile))

end Perm

end AffixSpeller.FileTree
