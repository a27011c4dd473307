import AffixSpeller.Affix.Table

/-!
# Expansion

The flags of a word license forms of it: every rule of every group that a flag names contributes
the form that it makes, if it makes one. A flag may name a prefix group and a suffix group. A flag
that names no group is reported, except the compound flag.

## Main definitions

* `UnknownFlag`: a flag that names no group.
* `Expansion`: the forms of a word and the flags that led nowhere.
* `AffixTable.expand`: the expansion of a word with its flags.
-/

namespace AffixSpeller

/-- A flag of a word that names no rule group. -/
structure UnknownFlag where
  flag : Flag
  word : Text
  deriving DecidableEq, Repr

/-- The text of the report. -/
def UnknownFlag.message (u : UnknownFlag) : String :=
  "flag `" ++ String.ofList u.flag ++ "` of word `" ++ String.ofList u.word
    ++ "` names no affix rule group"

/-- The forms that a word's flags license, each once, and the flags that led nowhere, in their
order. -/
structure Expansion where
  forms : List Text := []
  unknown : List UnknownFlag := []
  deriving DecidableEq, Repr

namespace Expansion

/-- Whether the flags license the form. -/
def contains (expansion : Expansion) (form : Text) : Bool :=
  expansion.forms.contains form

/-- The forms in the order of texts. -/
def sortedForms (expansion : Expansion) : List Text :=
  expansion.forms.mergeSort Text.isUpTo

/-- The expansion with the forms that the rules make of the word. -/
def addRules (expansion : Expansion) (rules : List AffixRule) (word : Text) : Expansion :=
  { expansion with forms := (rules.filterMap (·.apply word)).foldl appendNew expansion.forms }

end Expansion

namespace AffixTable

/-- What the flag names: the group of prefixes and the group of suffixes, as far as they exist. -/
def groupsOf (table : AffixTable) (flag : Flag) : List (Option AffixGroup) :=
  [table.group? .leading flag, table.group? .trailing flag]

/-- The rules of the groups that the flag names: first the prefixes, then the suffixes. -/
def rulesOf (table : AffixTable) (flag : Flag) : List AffixRule :=
  (table.groupsOf flag).flatMap fun group => (group.map (·.rules)).getD []

/-- Whether the flag leads nowhere: it names no group and is not the compound flag. -/
def isUnknownFlag (table : AffixTable) (flag : Flag) : Bool :=
  !table.knowsFlag flag && table.compoundFlag != some flag

/-- The expansion with what one more flag of the word licenses. -/
def expandFlag (table : AffixTable) (word : Text) (expansion : Expansion) (flag : Flag) :
    Expansion :=
  if (table.groupsOf flag).all Option.isNone then
    if table.compoundFlag = some flag then expansion
    else { expansion with unknown := expansion.unknown ++ [⟨flag, word⟩] }
  else expansion.addRules (table.rulesOf flag) word

/-- What the flags of a word license. -/
def expand (table : AffixTable) (word : Text) (flags : List Flag) : Expansion :=
  flags.foldl (table.expandFlag word) {}

end AffixTable

end AffixSpeller
