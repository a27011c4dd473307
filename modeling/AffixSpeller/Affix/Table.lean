import AffixSpeller.Affix.Rule

/-!
# Affix tables

What a grammar says: the rule groups, the replacement table, the characters to try in corrections,
and a few settings. A flag names at most one group of each kind. Groups are kept in the order of
kind and flag, so that tables with the same groups are equal.

## Main definitions

* `Replacement`: an entry of the replacement table.
* `AffixTable`: a grammar's content.
* `AffixTable.group?`: the group of a kind and flag.
* `AffixTable.addGroup`, `AffixTable.addRule`: how tables grow.
-/

namespace AffixSpeller

/-- A misspelling to look for and what to write instead, possibly at one end of a word only. -/
structure Replacement where
  pattern : Text
  replacement : Text
  atStart : Bool
  atEnd : Bool
  deriving DecidableEq, Repr

/-- An entry written as two fields. A caret in front of the pattern ties it to the start of a
word and a dollar sign behind it to the end, unless nothing else would be left. A low line stands
for a space. -/
def Replacement.ofFields (pattern replacement : Text) : Replacement :=
  let (atStart, pattern) : Bool × Text := match pattern with
    | '^' :: c :: cs => (true, c :: cs)
    | pattern => (false, pattern)
  let (atEnd, pattern) : Bool × Text :=
    if 1 < pattern.length && pattern.getLast? == some '$' then (true, pattern.dropLast)
    else (false, pattern)
  { pattern := Text.replaceChar '_' ' ' pattern
    replacement := Text.replaceChar '_' ' ' replacement
    atStart, atEnd }

/-- What a grammar says. -/
structure AffixTable where
  groups : List AffixGroup := []
  tryCharacters : List Char := []
  replacements : List Replacement := []
  flagEncoding : FlagEncoding := .ascii
  compoundFlag : Option Flag := none
  compoundMin : Nat := 3
  charset : Option Text := none
  deriving DecidableEq, Repr

/-- Whether group `g` stands before group `h`: prefixes before suffixes, then by flag. -/
def AffixGroup.isBefore (g h : AffixGroup) : Bool :=
  match g.kind, h.kind with
  | .leading, .trailing => true
  | .trailing, .leading => false
  | _, _ => decide (g.flag < h.flag)

/-- The groups with `g` put in its place. -/
def AffixGroup.insertInto (g : AffixGroup) : List AffixGroup → List AffixGroup
  | [] => [g]
  | h :: hs => if g.isBefore h then g :: h :: hs else h :: insertInto g hs

namespace AffixTable

/-- The group of the given kind and flag. -/
def group? (table : AffixTable) (kind : AffixKind) (flag : Flag) : Option AffixGroup :=
  table.groups.find? fun g => g.kind == kind && g.flag == flag

/-- Whether the flag names a group of either kind. -/
def knowsFlag (table : AffixTable) (flag : Flag) : Bool :=
  (table.group? .leading flag).isSome || (table.group? .trailing flag).isSome

/-- The number of groups of the given kind. -/
def countGroups (table : AffixTable) (kind : AffixKind) : Nat :=
  table.groups.countP fun g => g.kind == kind

/-- The table with one more group. -/
def addGroup (table : AffixTable) (group : AffixGroup) : AffixTable :=
  { table with groups := group.insertInto table.groups }

/-- The table with one more rule at the end of the group of the given kind and flag. -/
def addRule (table : AffixTable) (kind : AffixKind) (flag : Flag) (strip append : Text)
    (condition : Condition) : AffixTable :=
  { table with
    groups := table.groups.map fun g =>
      if g.kind == kind && g.flag == flag then
        let rule : AffixRule := { kind, strip, append, condition, crossProduct := g.crossProduct }
        { g with rules := g.rules ++ [rule] }
      else g }

end AffixTable

end AffixSpeller
