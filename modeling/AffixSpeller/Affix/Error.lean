import AffixSpeller.Affix.Rule

/-!
# Faults of grammars

A grammar is unusable when a line cannot be read, or when a header declares another number of
entries than follow it. A fault names its cause; the wording is in one place. One fault is not
reported as an error: a header that asks for more room than there can be breaks off the run.

## Main definitions

* `Setting`: a directive that takes one argument.
* `Fault`: why a line cannot be read.
* `Fault.breaksOff`: whether such a line ends the whole run.
* `GrammarError`: why a grammar is unusable, with the place.
-/

namespace AffixSpeller

/-- A directive that takes exactly one argument. -/
inductive Setting where
  | tryCharacters
  | compoundFlag
  | compoundMin
  | flagEncoding
  | charset
  deriving DecidableEq, Repr

/-- The word that begins a line with this directive. -/
def Setting.tag : Setting → Text
  | tryCharacters => "TRY".toList
  | compoundFlag => "COMPOUNDFLAG".toList
  | compoundMin => "COMPOUNDMIN".toList
  | flagEncoding => "FLAG".toList
  | charset => "SET".toList

/-- Why a line of a grammar cannot be read. -/
inductive Fault where
  | argumentCount (setting : Setting)
  | duplicate (setting : Setting)
  | compoundMinNotNumber
  | flagEncoding (error : FlagEncodingError)
  | replacementHeader
  | replacementCount
  | replacementEntry
  | missingFlag
  | groupHeader (kind : AffixKind)
  | crossProduct
  | ruleCount
  | ruleEntry (kind : AffixKind)
  | missingCondition
  | condition (error : ConditionError)
  /-- A header declares more rules than a group can ask for room. -/
  | capacityOverflow
  deriving DecidableEq, Repr

/-- Whether the fault breaks off the run, so that no error is returned. All other faults are syntax
errors. -/
def Fault.breaksOff (fault : Fault) : Bool :=
  fault == .capacityOverflow

/-- The text of a fault. -/
def Fault.message : Fault → String
  | argumentCount setting => String.ofList setting.tag ++ " takes exactly one argument"
  | duplicate setting => "duplicate " ++ String.ofList setting.tag ++ " directive"
  | compoundMinNotNumber => "COMPOUNDMIN is not a number"
  | flagEncoding error => error.message
  | replacementHeader => "expected `REP <count>`"
  | replacementCount => "REP count is not a number"
  | replacementEntry => "expected `REP <pattern> <replacement>`"
  | missingFlag => "missing affix flag"
  | groupHeader kind => "expected `" ++ String.ofList kind.tag ++ " <flag> <Y|N> <count>`"
  | crossProduct => "cross product must be Y or N"
  | ruleCount => "rule count is not a number"
  | ruleEntry kind =>
    "expected `" ++ String.ofList kind.tag ++ " <flag> <strip> <append> <condition>`"
  | missingCondition => "missing condition"
  | condition error => error.message
  | capacityOverflow => "capacity overflow"

/-- What a header counts. -/
inductive Subject where
  | replacements
  | group (kind : AffixKind) (flag : Flag)
  deriving DecidableEq, Repr

/-- The name of the entries that a header counts. -/
def Subject.name : Subject → String
  | replacements => "REP"
  | group kind flag => String.ofList kind.tag ++ " " ++ String.ofList flag

/-- Why a grammar is unusable. -/
inductive GrammarError where
  /-- A line cannot be read; `text` is what the line says. The run ends here if the fault breaks it
  off, and otherwise this is a syntax error. -/
  | malformed (file : Text) (line : Nat) (fault : Fault) (text : Text)
  /-- A header declares another number of entries than were read. -/
  | countMismatch (file : Text) (subject : Subject) (declared found : Nat)
  deriving DecidableEq, Repr

/-- Whether the run is broken off, and nothing returned. -/
def GrammarError.breaksOff : GrammarError → Bool
  | malformed _ _ fault _ => fault.breaksOff
  | countMismatch .. => false

/-- The text of the error. -/
def GrammarError.message : GrammarError → String
  | malformed file line fault text =>
    String.ofList file ++ ":" ++ toString line ++ ": " ++ fault.message ++ ": `"
      ++ String.ofList text ++ "`"
  | countMismatch file subject declared found =>
    String.ofList file ++ ": " ++ subject.name ++ " declares " ++ toString declared
      ++ " entries but " ++ toString found ++ " were read"

end AffixSpeller
