import AffixSpeller.Text.Basic

/-!
# TOML values

A document is a table, whose entries are values under keys. Tables remember how they came about,
since this decides how later lines may extend them.

## Main definitions

* `Toml.Value`: a value of a document.
* `Toml.Entries`: the entries of a table, in their order.
* `Toml.Entries.insertDotted`: a key with a value put in, under a dotted path.
* `Toml.Entries.updateAt`: a change to the table that a header's path leads to.
* `Toml.Entries.openTable`, `Toml.Entries.openElement`: the effect of a header.
-/

namespace AffixSpeller.Toml

/-- How a table came about. -/
inductive Origin where
  /-- By a header of its own. -/
  | header
  /-- By the header of a table below it. -/
  | implied
  /-- By a dotted key. -/
  | dotted
  /-- Between braces. -/
  | inline
  deriving DecidableEq, Repr

/-- A value of a document. Floats and dates are kept as they are written. -/
inductive Value where
  | string (text : Text)
  | integer (value : Int)
  | float (written : Text)
  | boolean (value : Bool)
  | dateTime (written : Text)
  | array (items : List Value)
  | table (origin : Origin) (entries : List (Text × Value))
  /-- Tables under one key, each begun by a header in double brackets. -/
  | tables (items : List (List (Text × Value)))
  deriving Repr

/-- The entries of a table, in their order. -/
abbrev Entries := List (Text × Value)

namespace Entries

/-- The entries with another value under a key that they have. -/
def set (key : Text) (value : Value) (entries : Entries) : Entries :=
  entries.map fun (k, v) => if k = key then (k, value) else (k, v)

/-- The items with the last one changed. -/
def mapLast (f : Entries → Option Entries) : List Entries → Option (List Entries)
  | [] => none
  | [last] => (f last).map ([·])
  | item :: items => (mapLast f items).map (item :: ·)

/-- The entries with a value under a new key, below the tables that a dotted path names. Tables on
the way are made as needed; of those that exist, only tables made by dotted keys, or implied by
headers and passed through, may be extended. -/
def insertDotted (key : Text) (value : Value) : List Text → Entries → Option Entries
  | [], entries =>
    if (entries.lookup key).isSome then none else some (entries ++ [(key, value)])
  | k :: ks, entries =>
    match entries.lookup k with
    | none =>
      (insertDotted key value ks []).map fun inner => entries ++ [(k, .table .dotted inner)]
    | some (.table origin inner) =>
      if origin = .dotted ∨ (origin = .implied ∧ ks ≠ []) then
        (insertDotted key value ks inner).map fun inner => entries.set k (.table origin inner)
      else none
    | some (.tables items) =>
      if ks = [] then none
      else
        (mapLast (insertDotted key value ks) items).map fun items => entries.set k (.tables items)
    | some _ => none

/-- The entries with a change made to the table that a header's path leads to. Tables on the way
are implied as needed; among tables under one key, the path goes through the last one. -/
def updateAt (f : Entries → Option Entries) : List Text → Entries → Option Entries
  | [], entries => f entries
  | k :: ks, entries =>
    match entries.lookup k with
    | none => (updateAt f ks []).map fun inner => entries ++ [(k, .table .implied inner)]
    | some (.table origin inner) =>
      if origin = .inline then none
      else (updateAt f ks inner).map fun inner => entries.set k (.table origin inner)
    | some (.tables items) =>
      (mapLast (updateAt f ks) items).map fun items => entries.set k (.tables items)
    | some _ => none

/-- The effect of a header: a new table, or one that was implied so far. -/
def openTable (key : Text) (entries : Entries) : Option Entries :=
  match entries.lookup key with
  | none => some (entries ++ [(key, .table .header [])])
  | some (.table .implied inner) => some (entries.set key (.table .header inner))
  | some _ => none

/-- The effect of a header in double brackets: one more table under the key. -/
def openElement (key : Text) (entries : Entries) : Option Entries :=
  match entries.lookup key with
  | none => some (entries ++ [(key, .tables [[]])])
  | some (.tables items) => some (entries.set key (.tables (items ++ [[]])))
  | some _ => none

end Entries

end AffixSpeller.Toml
