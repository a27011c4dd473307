import AffixSpeller.Catalog.Path

/-!
# File trees

A file tree says which files there are, with their bytes, and which directories. A path is followed
component by component, from the root of all files if it is absolute and else from the working
directory: a directory must stand wherever the path goes on, and two full stops lead one directory
up. The empty path leads nowhere.

## Main definitions

* `FileTree`: files and directories by location.
* `FileTree.resolve`: the location that a path leads to, or why it leads nowhere.
* `FileTree.filesBelow`: the files that a walk through a directory visits.
* `FileTree.readText`: the text of a file, or why it cannot be read.
-/

namespace AffixSpeller

/-- The names that lead from the root of all files to a file or directory. -/
abbrev Location := List Text

/-- Files with their bytes, and directories that need hold no file. The order of the files is the
one in which a walk visits them. -/
structure FileTree where
  files : List (Location × ByteArray)
  folders : List Location
  /-- The working directory, which paths that are not absolute begin at. -/
  here : Location := []

/-- Why a file cannot be read. -/
inductive ReadFault where
  | notFound
  | notDirectory
  | isDirectory
  | invalidEncoding
  deriving DecidableEq, Repr

/-- The text of the fault. -/
def ReadFault.message : ReadFault → String
  | notFound => "No such file or directory (os error 2)"
  | notDirectory => "Not a directory (os error 20)"
  | isDirectory => "Is a directory (os error 21)"
  | invalidEncoding => "stream did not contain valid UTF-8"

namespace FileTree

variable (tree : FileTree)

/-- The bytes of the file at a location. -/
def file? (location : Location) : Option ByteArray :=
  tree.files.lookup location

/-- Whether a location is a directory: the root, one that is listed, or one that something lies
below. -/
def isFolder (location : Location) : Bool :=
  location.isEmpty
    || (tree.folders.any fun folder => location.isPrefixOf folder)
    || tree.files.any fun (file, _) => location.isPrefixOf file && location != file

/-- The location reached from a directory by the components. -/
def follow (location : Location) : List Text → Except ReadFault Location
  | [] => .ok location
  | name :: names =>
    if !tree.isFolder location then .error .notDirectory
    else if name = ['.', '.'] then follow location.dropLast names
    else
      let next := location ++ [name]
      if tree.isFolder next || (tree.file? next).isSome then follow next names
      else .error .notFound

/-- The location that a path leads to, if something is there. -/
def resolve (path : Text) : Except ReadFault Location :=
  if path.isEmpty then .error .notFound
  else
    match tree.follow (if Path.isAbsolute path then [] else tree.here) (Path.components path) with
    | .error fault => .error fault
    | .ok location =>
      if Path.endsAsDirectory path && !tree.isFolder location then .error .notDirectory
      else .ok location

/-- Whether the path leads to a directory. -/
def isDirectory (path : Text) : Bool :=
  (tree.resolve path).toOption.any tree.isFolder

/-- A file found at or below a path: its path, its name and its bytes. -/
structure Found where
  path : Text
  name : Text
  bytes : ByteArray

/-- The files at or below a path, as a walk that starts there visits them. -/
def filesBelow (path : Text) : List Found :=
  match tree.resolve path with
  | .error _ => []
  | .ok location =>
    tree.files.filterMap fun (file, bytes) =>
      match location.isPrefixOf? file with
      | none => none
      | some names =>
        let name := (names.getLast?).getD ((Path.fileName? path).getD [])
        some ⟨names.foldl Path.join path, name, bytes⟩

/-- The files that lie directly in the directory at a path. -/
def filesIn (path : Text) : List Found :=
  match tree.resolve path with
  | .error _ => []
  | .ok location =>
    tree.files.filterMap fun (file, bytes) =>
      match location.isPrefixOf? file with
      | some [name] => some ⟨Path.join path name, name, bytes⟩
      | _ => none

/-- The text of the file at a path. -/
def readText (path : Text) : Except ReadFault Text :=
  match tree.resolve path with
  | .error fault => .error fault
  | .ok location =>
    match tree.file? location with
    | none => .error .isDirectory
    | some bytes =>
      match String.fromUTF8? bytes with
      | none => .error .invalidEncoding
      | some text => .ok text.toList

end FileTree

end AffixSpeller
