import AffixSpeller.Toml.Scalar

/-!
# TOML documents

A document is a sequence of lines: a key with a value, the header of a table, or nothing but a
comment. A key may be a path of several keys with dots between them. Arrays may go on over several
lines, tables between braces may not.

## Main definitions

* `Toml.readKeys`: a path of keys.
* `Toml.readValue`: a value of any kind.
* `Toml.parse?`: the entries of a document, if it is well formed.
-/

namespace AffixSpeller.Toml

/-- Whether the character may stand in a key without quotes. -/
def isBare (c : Char) : Bool :=
  c.isAlphanum || c == '_' || c == '-'

/-- A single key, bare or quoted on one line. -/
def readKey (t : Text) : Option (Text × Text) :=
  match t with
  | '"' :: rest => readBasic 0 rest
  | '\'' :: rest => readLiteral rest
  | _ =>
    let bare := t.takeWhile isBare
    if bare.isEmpty then none else some (bare, t.drop bare.length)

/-- Keys with dots between them, and blanks around these. Every key takes a character, so `fuel`
is the number of characters. -/
def readKeys : Nat → Text → Option (List Text × Text)
  | 0, _ => none
  | fuel + 1, t =>
    match readKey (skipBlanks t) with
    | none => none
    | some (key, rest) =>
      match skipBlanks rest with
      | '.' :: rest => (readKeys fuel rest).map fun (keys, rest) => (key :: keys, rest)
      | rest => some ([key], rest)

/-- How many keys a path may have. -/
def maxKeys : Nat := 79

/-- A path of keys. -/
def readPath (t : Text) : Option (List Text × Text) :=
  (readKeys (t.length + 1) t).filter fun (keys, _) => keys.length ≤ maxKeys

/-- The items of an array up to its closing bracket, each read by `item`. Every item takes a
character, so `fuel` is the number of characters. -/
def readItems (item : Text → Option (Value × Text)) : Nat → Text → Option (List Value × Text)
  | 0, _ => none
  | fuel + 1, t =>
    match skipFiller false t with
    | none => none
    | some (']' :: rest) => some ([], rest)
    | some t =>
      match item t with
      | none => none
      | some (value, rest) =>
        match skipFiller false rest with
        | some (',' :: rest) =>
          (readItems item fuel rest).map fun (values, rest) => (value :: values, rest)
        | some (']' :: rest) => some ([value], rest)
        | _ => none

/-- A path of keys and a value, with an equals sign between them. -/
def readPair (item : Text → Option (Value × Text)) (t : Text) :
    Option ((List Text × Value) × Text) :=
  match readPath t with
  | some (keys, '=' :: rest) => (item (skipBlanks rest)).map fun (v, rest) => ((keys, v), rest)
  | _ => none

/-- The entries with a value put in under a path of keys. -/
def insertPair (entries : Entries) (pair : List Text × Value) : Option Entries :=
  match pair.1.getLast? with
  | none => none
  | some key => entries.insertDotted key pair.2 pair.1.dropLast

/-- The pairs of a table up to its closing brace. -/
def readPairs (item : Text → Option (Value × Text)) (entries : Entries) :
    Nat → Text → Option (Entries × Text)
  | 0, _ => none
  | fuel + 1, t =>
    match readPair item t with
    | none => none
    | some (pair, rest) =>
      match insertPair entries pair, skipBlanks rest with
      | some entries, ',' :: rest => readPairs item entries fuel rest
      | some entries, '\x7d' :: rest => some (entries, rest)
      | _, _ => none

/-- A value. Arrays and tables may be nested up to the given depth. -/
def readValue : Nat → Text → Option (Value × Text)
  | 0, t => readScalar t
  | depth + 1, t =>
    match t with
    | '[' :: rest =>
      (readItems (readValue depth) (rest.length + 1) rest).map fun (items, rest) =>
        (.array items, rest)
    | '\x7b' :: rest =>
      match skipBlanks rest with
      | '\x7d' :: rest => some (.table .inline [], rest)
      | rest =>
        (readPairs (readValue depth) [] (rest.length + 1) rest).map fun (entries, rest) =>
          (.table .inline entries, rest)
    | _ => readScalar t

/-- How deep arrays and tables between braces may be nested. -/
def maxDepth : Nat := 79

/-- A document read so far: its entries and the path of the latest header. -/
structure Progress where
  entries : Entries := []
  header : List Text := []

/-- The effect of a header with its path of keys, `openAt` being what it does at the last one. -/
def Progress.enter (p : Progress) (openAt : Text → Entries → Option Entries) (path : List Text) :
    Option Progress :=
  match path.getLast? with
  | none => none
  | some key =>
    (p.entries.updateAt (openAt key) path.dropLast).map fun entries => ⟨entries, path⟩

/-- The effect of a key with a value, which go into the table of the latest header. -/
def Progress.insert (p : Progress) (pair : List Text × Value) : Option Progress :=
  (p.entries.updateAt (insertPair · pair) p.header).map fun entries => { p with entries }

/-- The effect of the line at the beginning of the text, and the text after it. -/
def readLine (p : Progress) (t : Text) : Option (Progress × Text) :=
  let finish := fun (p : Option Progress) (rest : Text) => do
    let p ← p
    let rest ← skipLineEnd rest
    return (p, rest)
  match t with
  | '[' :: '[' :: rest =>
    match readPath rest with
    | some (path, ']' :: ']' :: rest) => finish (p.enter Entries.openElement path) rest
    | _ => none
  | '[' :: rest =>
    match readPath rest with
    | some (path, ']' :: rest) => finish (p.enter Entries.openTable path) rest
    | _ => none
  | _ =>
    match readPair (readValue maxDepth) t with
    | some (pair, rest) => finish (p.insert pair) rest
    | none => none

/-- The effect of all lines. Every round takes a line, so `fuel` is the number of characters. -/
def readLines : Nat → Progress → Text → Option Entries
  | 0, _, _ => none
  | fuel + 1, p, t =>
    match skipFiller false t with
    | none => none
    | some [] => some p.entries
    | some t =>
      match readLine p t with
      | none => none
      | some (p, rest) => readLines fuel p rest

/-- The entries of a document. A byte order mark may stand in front. -/
def parse? (text : Text) : Option Entries :=
  let text := match text with
    | '\ufeff' :: rest => rest
    | text => text
  readLines (text.length + 1) {} text

end AffixSpeller.Toml
