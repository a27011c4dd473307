import AffixSpeller.Text.Basic

/-!
# Log events

Reading grammars and word lists, searching directories and setting up a checker leave a record of
what was passed over or found odd. An event names its cause; level, message and fields are read
off it in one place.

## Main definitions

* `Event`: what can be recorded.
* `Event.level`, `Event.message`, `Event.fields`: how an event is shown.
* `Logged`: the outcome of an operation that records events and may fail.
-/

namespace AffixSpeller

/-- Something worth recording. -/
inductive Event where
  | directiveIgnored (file : Text) (line : Nat) (directive : Text)
  | directiveUnknown (file : Text) (line : Nat) (directive : Text)
  | grammarRead (file : Text) (prefixes suffixes replacements : Nat)
  | foreignCharset (dictionary charset : Text)
  | countDiffers (dictionary : Text) (declared read : Nat)
  | flagsUnknown (dictionary : Text) (words : Nat)
  | dictionaryLoaded (dictionary : Text) (entries : Nat)
  | patternInvalid (pattern : Text)
  | checkerReady (language : Text) (words : Nat)
  | directoryScanned (directory : Text) (count : Nat)
  | folderUsed (folder : Text)
  deriving DecidableEq, Repr

/-- How much an event matters. -/
inductive Level where
  | warning
  | info
  | debug
  deriving DecidableEq, Repr

/-- The value of a field of an event. -/
inductive FieldValue where
  | text (value : Text)
  | number (value : Nat)
  deriving DecidableEq, Repr

namespace Event

/-- Oddities of the input are warnings; a checker that is ready is news; all else is detail. -/
def level : Event → Level
  | directiveUnknown .. | foreignCharset .. | countDiffers .. | flagsUnknown .. => .warning
  | patternInvalid .. => .warning
  | checkerReady .. => .info
  | directiveIgnored .. | grammarRead .. | dictionaryLoaded .. => .debug
  | directoryScanned .. | folderUsed .. => .debug

/-- The sentence shown for an event. -/
def message : Event → String
  | directiveIgnored .. => "ignoring directive"
  | directiveUnknown .. => "unknown affix directive"
  | grammarRead .. => "parsed affix grammar"
  | foreignCharset .. => "grammar declares a non UTF-8 charset; text was read as UTF-8"
  | countDiffers .. => "word count on the first line does not match the entries read"
  | flagsUnknown .. => "words carry flags with no affix group; those flags are skipped"
  | dictionaryLoaded .. => "loaded dictionary"
  | patternInvalid .. => "invalid ignore pattern"
  | checkerReady .. => "spell checker ready"
  | directoryScanned .. => "scanned for dictionaries"
  | folderUsed .. => "using language folder"

/-- The particulars shown with an event. -/
def fields : Event → List (String × FieldValue)
  | directiveIgnored file line directive | directiveUnknown file line directive =>
    [("file", .text file), ("line", .number line), ("directive", .text directive)]
  | grammarRead file prefixes suffixes replacements =>
    [("file", .text file), ("prefixes", .number prefixes), ("suffixes", .number suffixes),
      ("replacements", .number replacements)]
  | foreignCharset dictionary charset =>
    [("dictionary", .text dictionary), ("charset", .text charset)]
  | countDiffers dictionary declared read =>
    [("dictionary", .text dictionary), ("declared", .number declared), ("read", .number read)]
  | flagsUnknown dictionary words =>
    [("dictionary", .text dictionary), ("words", .number words)]
  | dictionaryLoaded dictionary entries =>
    [("dictionary", .text dictionary), ("entries", .number entries)]
  | patternInvalid pattern => [("pattern", .text pattern)]
  | checkerReady language words => [("language", .text language), ("words", .number words)]
  | directoryScanned directory count =>
    [("dir", .text directory), ("count", .number count)]
  | folderUsed folder => [("folder", .text folder)]

end Event

/-- The outcome of an operation together with the events recorded on the way. What was recorded
before a failure stays recorded. -/
structure Logged (ε α : Type) where
  log : List Event
  result : Except ε α

namespace Logged

variable {ε ε' α β : Type}

/-- Record events and succeed. -/
def note (events : List Event) (a : α) : Logged ε α :=
  ⟨events, .ok a⟩

/-- An outcome without events. -/
def silent (result : Except ε α) : Logged ε α :=
  ⟨[], result⟩

/-- The same outcome, with events recorded before it. -/
def after (events : List Event) (x : Logged ε α) : Logged ε α :=
  ⟨events ++ x.log, x.result⟩

/-- Continue with the result of a success; a failure ends the operation. -/
def andThen (x : Logged ε α) (f : α → Logged ε β) : Logged ε β :=
  match x.result with
  | .error e => ⟨x.log, .error e⟩
  | .ok a => (f a).after x.log

/-- The same outcome with the failure seen as a failure of another kind. -/
def mapError (f : ε → ε') (x : Logged ε α) : Logged ε' α :=
  ⟨x.log, x.result.mapError f⟩

end Logged

end AffixSpeller
