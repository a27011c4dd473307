import AffixSpeller.Text.Basic

/-!
# Paths

A path is a text whose components are separated by slashes. Empty components, and full stops that
stand for the directory itself, do not count when paths are compared. The name of a file divides at
its last full stop into stem and extension, unless nothing stands before that stop.

## Main definitions

* `Path.join`: a path below another one.
* `Path.components`: the names that a path goes through.
* `Path.isSame`: whether two texts are the same path.
* `Path.stem`, `Path.extension?`: the parts of a file name.
* `Path.relativeTo`: a path as seen from a directory above it.
* `Path.isUpTo`: the order of paths, component by component.
-/

namespace AffixSpeller.Path

/-- The path of `name` seen from `base`. An absolute path stays what it is. -/
def join (base name : Text) : Text :=
  match name with
  | '/' :: _ => name
  | _ =>
    if base.isEmpty || base.getLast? == some '/' then base ++ name else base ++ '/' :: name

/-- The pieces of a path between slashes that are not empty and not a lone full stop. -/
def components (path : Text) : List Text :=
  (path.splitOn '/').filter fun piece => !piece.isEmpty && piece != ['.']

/-- Whether the path begins at the root of all files. -/
def isAbsolute (path : Text) : Bool :=
  path.head? == some '/'

/-- Whether the path begins with a full stop that stands for the directory itself. -/
def beginsHere (path : Text) : Bool :=
  (path.splitOn '/').head? == some ['.']

/-- Whether two texts are the same path. At the beginning of a path a full stop that stands for the
directory itself counts. -/
def isSame (a b : Text) : Bool :=
  isAbsolute a == isAbsolute b && beginsHere a == beginsHere b && components a == components b

/-- Whether the path ends in a way that only directories have. -/
def endsAsDirectory (path : Text) : Bool :=
  match (path.splitOn '/').getLast? with
  | some last => (last.isEmpty && !path.isEmpty) || last == ['.'] || last == ['.', '.']
  | none => false

/-- The last component of the path, unless it leads upwards. -/
def fileName? (path : Text) : Option Text :=
  match (components path).getLast? with
  | some name => if name = ['.', '.'] then none else some name
  | none => none

/-- What stands before and after the last full stop of a name. -/
def divide (name : Text) : Option (Text × Text) :=
  (Text.cutAt '.' name.reverse).map fun (back, front) => (front.reverse, back.reverse)

/-- The name without its extension. -/
def stem (name : Text) : Text :=
  match divide name with
  | some (c :: cs, _) => c :: cs
  | _ => name

/-- What follows the last full stop of a name, if something stands before it. -/
def extension? (name : Text) : Option Text :=
  match divide name with
  | some (_ :: _, extension) => some extension
  | _ => none

/-- Whether the first list of names comes no later than the second, name by name. -/
def namesUpTo : List Text → List Text → Bool
  | [], _ => true
  | _ :: _, [] => false
  | a :: as, b :: bs => if a = b then namesUpTo as bs else Text.isUpTo a b

/-- Whether path `a` comes no later than path `b`, component by component. -/
def isUpTo (a b : Text) : Bool :=
  namesUpTo (components a) (components b)

/-- What is left of a path that begins with the text `base`, without the slashes and lone full
stops that follow it. -/
def relativeTo (base path : Text) : Text :=
  let rec dropLeading (fuel : Nat) (t : Text) : Text :=
    match fuel, t with
    | fuel + 1, '/' :: rest => dropLeading fuel rest
    | fuel + 1, '.' :: '/' :: rest => dropLeading fuel rest
    | _, t => t
  match base.isPrefixOf? path with
  | some rest => dropLeading rest.length rest
  | none => path

end AffixSpeller.Path
