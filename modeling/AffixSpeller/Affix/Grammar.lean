import AffixSpeller.Affix.Error
import AffixSpeller.Affix.Table
import AffixSpeller.Event
import AffixSpeller.Text.Number

/-!
# Reading grammars

A grammar is read line by line. The first field of a line is a directive, and a field that begins
with a number sign ends the line. Rule groups and the replacement table begin with a header that
declares the number of their entries; the entries of different blocks may be mixed. At the end
every declared number must be the number read.

## Main definitions

* `Directive`: what the first field of a line asks for.
* `Draft`: what the lines read so far amount to.
* `Draft.read`: the effect of one line.
* `Draft.finish`: the table, provided that the declared numbers are right.
* `AffixTable.parse`: the table of a grammar.
-/

namespace AffixSpeller

/-- What the first field of a line asks for. -/
inductive Directive where
  | setting (setting : Setting)
  | replacement
  | affix (kind : AffixKind)
  /-- Known, but without effect on forms and corrections. -/
  | ignored
  | unknown
  deriving DecidableEq, Repr

namespace Directive

/-- The directives of real grammars that are accepted and passed over. -/
def ignoredTags : List Text :=
  ["AF", "AM", "BREAK", "CHECKCOMPOUNDCASE", "CHECKCOMPOUNDDUP", "CHECKCOMPOUNDPATTERN",
    "CHECKCOMPOUNDREP", "CHECKCOMPOUNDTRIPLE", "CHECKSHARPS", "CIRCUMFIX", "COMPLEXPREFIXES",
    "COMPOUNDBEGIN", "COMPOUNDEND", "COMPOUNDFIRST", "COMPOUNDFORBIDFLAG", "COMPOUNDLAST",
    "COMPOUNDMIDDLE", "COMPOUNDMORESUFFIXES", "COMPOUNDPERMITFLAG", "COMPOUNDROOT",
    "COMPOUNDRULE", "COMPOUNDSYLLABLE", "COMPOUNDWORDMAX", "FORBIDDENWORD", "FORCEUCASE",
    "FULLSTRIP", "GENERATE", "HOME", "HU_KOTOHANGZO", "ICONV", "IGNORE", "KEEPCASE", "KEY",
    "LANG", "LEFTHYPHENMIN", "LEMMA_PRESENT", "MAP", "MAXCPDSUGS", "MAXDIFF", "MAXNGRAMSUGS",
    "NAME", "NEEDAFFIX", "NOSPLITSUGS", "NOSUGGEST", "OCONV", "ONLYINCOMPOUND", "ONLYMAXDIFF",
    "ONLYROOT", "SIMPLIFIEDTRIPLE", "SUBSTANDARD", "SYLLABLENUM", "VERSION", "WARN",
    "WORDCHARS"].map String.toList

/-- The directives that are acted upon, by their tags. -/
def actedUpon : List (Text × Directive) :=
  [(Setting.tryCharacters.tag, .setting .tryCharacters),
    (Setting.compoundFlag.tag, .setting .compoundFlag),
    (Setting.compoundMin.tag, .setting .compoundMin),
    (Setting.flagEncoding.tag, .setting .flagEncoding),
    (Setting.charset.tag, .setting .charset),
    ("REP".toList, .replacement),
    (AffixKind.leading.tag, .affix .leading),
    (AffixKind.trailing.tag, .affix .trailing)]

/-- The directive that a tag stands for. -/
def ofTag (tag : Text) : Directive :=
  match actedUpon.lookup tag with
  | some directive => directive
  | none => if ignoredTags.contains tag then .ignored else .unknown

end Directive

/-- A line of a grammar that says something. -/
structure GrammarLine where
  number : Nat
  text : Text
  deriving DecidableEq, Repr

namespace GrammarLine

/-- The fields of the line: the first one, and those after it up to one that begins with a number
sign. -/
def fields (line : GrammarLine) : List Text :=
  match Text.fields line.text with
  | [] => []
  | tag :: rest => tag :: rest.takeWhile fun field => field.head? != some '#'

/-- The lines of a grammar other than blank lines and comments, numbered from one. -/
def ofText (text : Text) : List GrammarLine :=
  let numbered := (Text.lines text).zipIdx 1
  (numbered.map fun (raw, number) => ⟨number, Text.content raw⟩).filter fun line =>
    !line.text.isEmpty && line.text.head? != some '#'

/-- What reading the line records: directives that are passed over. -/
def notices (file : Text) (line : GrammarLine) : List Event :=
  match line.fields with
  | [] => []
  | tag :: _ =>
    match Directive.ofTag tag with
    | .ignored => [.directiveIgnored file line.number tag]
    | .unknown => [.directiveUnknown file line.number tag]
    | _ => []

end GrammarLine

/-- What the lines read so far amount to: a table, the settings that may not come again, and the
declared length of the replacement table. -/
structure Draft where
  table : AffixTable := {}
  trySeen : Bool := false
  compoundMinSeen : Bool := false
  replacementsDeclared : Option Nat := none
  deriving DecidableEq, Repr

namespace Draft

/-- The least length of compound parts that a value asks for; values out of range ask for the
usual three. -/
def compoundMinOf (value : Int) : Nat :=
  if 1 ≤ value ∧ value ≤ 50 then value.toNat else 3

/-- The effect of a setting with its argument. -/
def readSetting (draft : Draft) (setting : Setting) (argument : Text) : Except Fault Draft :=
  let table := draft.table
  match setting with
  | .tryCharacters =>
    if draft.trySeen then .error (.duplicate .tryCharacters)
    else .ok { draft with trySeen := true, table := { table with tryCharacters := argument } }
  | .compoundFlag =>
    if table.compoundFlag.isSome then .error (.duplicate .compoundFlag)
    else .ok { draft with table := { table with compoundFlag := some argument } }
  | .compoundMin =>
    if draft.compoundMinSeen then .error (.duplicate .compoundMin)
    else
      match Text.integer? argument with
      | none => .error .compoundMinNotNumber
      | some value =>
        let table := { table with compoundMin := compoundMinOf value }
        .ok { draft with compoundMinSeen := true, table }
  | .flagEncoding =>
    match FlagEncoding.ofName argument with
    | .error e => .error (.flagEncoding e)
    | .ok encoding => .ok { draft with table := { table with flagEncoding := encoding } }
  | .charset => .ok { draft with table := { table with charset := some argument } }

/-- The effect of a line of the replacement table. The first such line declares the number of the
entries to come. -/
def readReplacement (draft : Draft) (arguments : List Text) : Except Fault Draft :=
  match draft.replacementsDeclared, arguments with
  | none, [count] =>
    match Text.count? count with
    | none => .error .replacementCount
    | some declared => .ok { draft with replacementsDeclared := some declared }
  | none, _ => .error .replacementHeader
  | some _, pattern :: replacement :: _ =>
    let entry := Replacement.ofFields pattern replacement
    let table := { draft.table with replacements := draft.table.replacements ++ [entry] }
    .ok { draft with table }
  | some _, _ => .error .replacementEntry

/-- The group that a header declares. Room for its rules is asked for at once. -/
def readHeader (kind : AffixKind) (flag : Flag) (arguments : List Text) :
    Except Fault AffixGroup :=
  match arguments with
  | [cross, count] =>
    if cross ≠ ['Y'] ∧ cross ≠ ['N'] then .error .crossProduct
    else
      match Text.count? count with
      | none => .error .ruleCount
      | some declared =>
        if AffixGroup.maxRules < declared then .error .capacityOverflow
        else .ok { kind, flag, crossProduct := cross == ['Y'], declared, rules := [] }
  | _ => .error (.groupHeader kind)

/-- A written affix: a lone zero stands for nothing. -/
def affixText (written : Text) : Text :=
  if written = ['0'] then [] else written

/-- The part of an append field before a slash; flags of the form, which follow it, do not
matter. -/
def appendText (written : Text) : Text :=
  affixText (written.takeWhile (· != '/'))

/-- The strip text, the append text and the condition of a rule line. The condition may be left
out if nothing is appended; a full stop in place of the append text then stands for nothing. -/
def readRule (kind : AffixKind) (arguments : List Text) :
    Except Fault (Text × Text × Condition) :=
  match arguments with
  | strip :: append :: pattern :: _ =>
    match Condition.compile pattern with
    | .error e => .error (.condition e)
    | .ok condition => .ok (affixText strip, appendText append, condition)
  | [strip, append] =>
    if appendText append = [] ∨ appendText append = ['.'] then
      .ok (affixText strip, [], .trivial)
    else .error .missingCondition
  | _ => .error (.ruleEntry kind)

/-- The effect of a line of a rule group. The first line of a flag is the header of its group. -/
def readAffix (draft : Draft) (kind : AffixKind) (arguments : List Text) : Except Fault Draft :=
  match arguments with
  | [] => .error .missingFlag
  | flag :: rest =>
    match draft.table.group? kind flag with
    | none =>
      match readHeader kind flag rest with
      | .error fault => .error fault
      | .ok group => .ok { draft with table := draft.table.addGroup group }
    | some _ =>
      match readRule kind rest with
      | .error fault => .error fault
      | .ok (strip, append, condition) =>
        .ok { draft with table := draft.table.addRule kind flag strip append condition }

/-- The effect of a line with the given fields. -/
def read (draft : Draft) (fields : List Text) : Except Fault Draft :=
  match fields with
  | [] => .ok draft
  | tag :: arguments =>
    match Directive.ofTag tag with
    | .setting setting =>
      match arguments with
      | [argument] => draft.readSetting setting argument
      | _ => .error (.argumentCount setting)
    | .replacement => draft.readReplacement arguments
    | .affix kind => draft.readAffix kind arguments
    | .ignored | .unknown => .ok draft

/-- The effect of lines, one after the other, up to the first one that cannot be read. -/
def readLines (file : Text) (draft : Draft) : List GrammarLine → Logged GrammarError Draft
  | [] => .note [] draft
  | line :: lines =>
    match draft.read line.fields with
    | .error fault => .silent (.error (.malformed file line.number fault line.text))
    | .ok next => (readLines file next lines).after (line.notices file)

/-- The table, provided that every declared number is the number read. The replacement table is
looked at first, then the groups in their order. -/
def finish (file : Text) (draft : Draft) : Except GrammarError AffixTable :=
  let table := draft.table
  match draft.replacementsDeclared.filter (· != table.replacements.length) with
  | some declared =>
    .error (.countMismatch file .replacements declared table.replacements.length)
  | none =>
    match table.groups.find? fun g => g.rules.length != g.declared with
    | some g => .error (.countMismatch file (.group g.kind g.flag) g.declared g.rules.length)
    | none => .ok table

end Draft

/-- What is recorded about a grammar that was read to its end. -/
def AffixTable.summary (table : AffixTable) (file : Text) : Event :=
  .grammarRead file (table.countGroups .leading) (table.countGroups .trailing)
    table.replacements.length

/-- The table of a grammar; `file` names the grammar in errors and events. -/
def AffixTable.parse (text file : Text) : Logged GrammarError AffixTable :=
  (Draft.readLines file {} (GrammarLine.ofText text)).andThen fun draft =>
    match draft.finish file with
    | .error e => .silent (.error e)
    | .ok table => .note [table.summary file] table

end AffixSpeller
