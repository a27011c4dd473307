import AffixSpeller.Catalog.Path
import AffixSpeller.Settings.Basic
import AffixSpeller.Toml.Document

/-!
# Layers of settings

Settings come from layers: the standard values, then files, then arguments. A file is a TOML
document; keys without a meaning are passed over, and a value of the wrong kind makes the file
unusable. A file's value counts if it differs from the standard one, directories being compared as
paths.

## Main definitions

* `SettingsError`: why settings cannot be loaded.
* `Settings.ofEntries`: the settings of a document.
* `Settings.overriddenBy`: two layers as one.
* `Settings.load`: the settings of all layers.
-/

namespace AffixSpeller

/-- Why settings cannot be loaded. -/
inductive SettingsError where
  | unreadable (path : Text)
  | malformed (path : Text)
  deriving DecidableEq, Repr

/-- The text of the error. -/
def SettingsError.message : SettingsError → String
  | unreadable path => "Failed to read config file: " ++ String.ofList path
  | malformed path => "Failed to parse config file: " ++ String.ofList path

/-- A file of settings. -/
structure SettingsFile where
  path : Text
  bytes : ByteArray

namespace Settings

open Toml (Entries Value)

/-- The value of a key, read by `read`; the standard one if the key is absent. -/
def field {α : Type} (entries : Entries) (key : String) (standard : α)
    (read : Value → Option α) : Option α :=
  match entries.lookup key.toList with
  | none => some standard
  | some value => read value

/-- A text. -/
def textOf : Value → Option Text
  | .string text => some text
  | _ => none

/-- A list of texts. -/
def textsOf : Value → Option (List Text)
  | .array items => items.mapM textOf
  | _ => none

/-- A number that is not negative. -/
def countOf : Value → Option Nat
  | .integer i => if 0 ≤ i then some i.toNat else none
  | _ => none

/-- A truth value. -/
def booleanOf : Value → Option Bool
  | .boolean b => some b
  | _ => none

/-- The settings of a document; what it does not mention has the standard value. -/
def ofEntries (standard : Settings) (entries : Entries) : Option Settings := do
  let language ← field entries "language" standard.language textOf
  let dictionaryDirectory ←
    field entries "dictionary_dir" standard.dictionaryDirectory textOf
  let ignorePatterns ← field entries "ignore_patterns" standard.ignorePatterns textsOf
  let maxSuggestions ← field entries "max_suggestions" standard.maxSuggestions countOf
  let refineSuggestions ←
    field entries "refine_suggestions" standard.refineSuggestions booleanOf
  return { language, dictionaryDirectory, ignorePatterns, maxSuggestions, refineSuggestions }

/-- The settings of a file. -/
def ofFile (standard : Settings) (file : SettingsFile) : Except SettingsError Settings :=
  match String.fromUTF8? file.bytes with
  | none => .error (.unreadable file.path)
  | some text =>
    match (Toml.parse? text.toList).bind (ofEntries standard) with
    | none => .error (.malformed file.path)
    | some settings => .ok settings

/-- The upper value, if it differs from the standard one. -/
def pick {α : Type} (same : α → α → Bool) (standard lower upper : α) : α :=
  if same upper standard then lower else upper

/-- The values of the upper layer that differ from the standard ones, and else those of the lower
layer. -/
def overriddenBy (standard lower upper : Settings) : Settings where
  language := pick (· == ·) standard.language lower.language upper.language
  dictionaryDirectory :=
    pick Path.isSame standard.dictionaryDirectory lower.dictionaryDirectory
      upper.dictionaryDirectory
  ignorePatterns :=
    pick (· == ·) standard.ignorePatterns lower.ignorePatterns upper.ignorePatterns
  maxSuggestions :=
    pick (· == ·) standard.maxSuggestions lower.maxSuggestions upper.maxSuggestions
  refineSuggestions :=
    pick (· == ·) standard.refineSuggestions lower.refineSuggestions upper.refineSuggestions

/-- The settings of files, the later ones above the earlier. -/
def loadFiles (standard lower : Settings) : List SettingsFile → Except SettingsError Settings
  | [] => .ok lower
  | file :: files =>
    match ofFile standard file with
    | .error e => .error e
    | .ok upper => loadFiles standard (overriddenBy standard lower upper) files

/-- The settings of all layers: the standard values, the files in their order, and above them the
arguments. -/
def load (standard : Settings) (files : List SettingsFile)
    (language dictionaryDirectory : Option Text) : Except SettingsError Settings :=
  match loadFiles standard standard files with
  | .error e => .error e
  | .ok settings =>
    .ok
      { settings with
        language := language.getD settings.language
        dictionaryDirectory := dictionaryDirectory.getD settings.dictionaryDirectory }

end Settings

end AffixSpeller
