import AffixSpeller.Proofs.Logged
import AffixSpeller.Settings.Layers
import Mathlib.Tactic.Common

/-!
# What layers of settings come to

A setting is meant to have the value of the uppermost layer that sets it: an argument, the local
file, the global file, and else the standard value. Files are laid over each other by their values,
though, and a file that sets the standard value is taken for one that sets nothing. So every
setting has the value that is meant, unless the local file goes back to the standard value from
another one of the global file; then the value of the global file stays.

## Main definitions

* `Settings.Key`: the settings by their names.
* `SettingsFile.sets`: what a file sets.
* `SettingsFile.IsValid`: a file whose settings can be loaded.
* `Settings.layered`: the value that is meant.
* `Settings.GoesBack`: the local file goes back to the standard value.

## Main results

* `Settings.isValid_iff_ofFile`: the valid files are those that can be loaded.
* `Settings.get_loadFiles`: what any number of files come to.
* `Settings.load_get_same_layered_iff`: when a setting has the value that is meant.
-/

namespace AffixSpeller

namespace Settings

/-! ### Settings by name -/

/-- The settings by their names. -/
inductive Key where
  | language
  | dictionaryDirectory
  | ignorePatterns
  | maxSuggestions
  | refineSuggestions

namespace Key

/-- The values of a setting. -/
@[reducible] def Value : Key → Type
  | language | dictionaryDirectory => Text
  | ignorePatterns => List Text
  | maxSuggestions => Nat
  | refineSuggestions => Bool

/-- The key of a setting in a file. -/
def name : Key → String
  | language => "language"
  | dictionaryDirectory => "dictionary_dir"
  | ignorePatterns => "ignore_patterns"
  | maxSuggestions => "max_suggestions"
  | refineSuggestions => "refine_suggestions"

/-- The value of a setting that a value of a file stands for. -/
def read : (key : Key) → Toml.Value → Option key.Value
  | language | dictionaryDirectory => textOf
  | ignorePatterns => textsOf
  | maxSuggestions => countOf
  | refineSuggestions => booleanOf

/-- Whether two values of a setting are the same. Directories are compared as paths. -/
def same : (key : Key) → key.Value → key.Value → Bool
  | dictionaryDirectory => Path.isSame
  | language | ignorePatterns | maxSuggestions | refineSuggestions => (· == ·)

/-- The argument for a setting. Only two settings have one. -/
def argument (language? directory? : Option Text) : (key : Key) → Option key.Value
  | language => language?
  | dictionaryDirectory => directory?
  | ignorePatterns | maxSuggestions | refineSuggestions => none

theorem same_equivalence (key : Key) : Equivalence fun a b => key.same a b = true := by
  cases key <;> constructor <;> simp +contextual [same, Path.isSame]

end Key

/-- The value of a setting. -/
def get (settings : Settings) : (key : Key) → key.Value
  | .language => settings.language
  | .dictionaryDirectory => settings.dictionaryDirectory
  | .ignorePatterns => settings.ignorePatterns
  | .maxSuggestions => settings.maxSuggestions
  | .refineSuggestions => settings.refineSuggestions

/-- The settings with given values. -/
def ofValues (value : (key : Key) → key.Value) : Settings where
  language := value .language
  dictionaryDirectory := value .dictionaryDirectory
  ignorePatterns := value .ignorePatterns
  maxSuggestions := value .maxSuggestions
  refineSuggestions := value .refineSuggestions

@[simp] theorem get_ofValues (value : (key : Key) → key.Value) (key : Key) :
    (ofValues value).get key = value key := by
  cases key <;> rfl

theorem get_overriddenBy (standard lower upper : Settings) (key : Key) :
    (overriddenBy standard lower upper).get key =
      pick key.same (standard.get key) (lower.get key) (upper.get key) := by
  cases key <;> rfl

end Settings

/-! ### What a file sets -/

namespace SettingsFile

open Settings (Key)

/-- The entries of a file, if it is a document. -/
def entries? (file : SettingsFile) : Option Toml.Entries :=
  (String.fromUTF8? file.bytes).bind fun text => Toml.parse? text.toList

/-- The value that a file sets. -/
def sets (file : SettingsFile) (key : Key) : Option key.Value :=
  file.entries?.bind fun entries => (entries.lookup key.name.toList).bind key.read

/-- A file is valid if it is a document in which every setting that is there has a value of its
kind. -/
def IsValid (file : SettingsFile) : Prop :=
  ∃ entries, file.entries? = some entries ∧
    ∀ (key : Key) (value : Toml.Value), entries.lookup key.name.toList = some value →
      (key.read value).isSome = true

end SettingsFile

namespace Settings

variable {standard settings : Settings}

theorem isSome_field_iff {α : Type} {entries : Toml.Entries} {name : String} (standard : α)
    {read : Toml.Value → Option α} :
    (field entries name standard read).isSome = true ↔
      ∀ value, entries.lookup name.toList = some value → (read value).isSome = true := by
  unfold field
  cases entries.lookup name.toList <;> simp

theorem eq_getD_of_field_eq_some {α : Type} {entries : Toml.Entries} {name : String}
    {standard a : α} {read : Toml.Value → Option α}
    (h : field entries name standard read = some a) :
    a = ((entries.lookup name.toList).bind read).getD standard := by
  unfold field at h
  cases hlookup : entries.lookup name.toList with
  | none => simpa [hlookup, eq_comm] using h
  | some value =>
    rw [hlookup] at h
    simp [show read value = some a from h]

/-- The settings of a document are those of its fields. -/
theorem ofEntries_eq_some_iff {entries : Toml.Entries} :
    ofEntries standard entries = some settings ↔
      ∀ key : Key,
        field entries key.name (standard.get key) key.read = some (settings.get key) := by
  simp only [ofEntries, Option.bind_eq_bind, Option.bind_eq_some_iff, Option.pure_def]
  constructor
  · rintro ⟨_, hl, _, hd, _, hi, _, hm, _, hr, hsettings⟩ key
    cases hsettings
    cases key <;> assumption
  · intro h
    exact ⟨_, h .language, _, h .dictionaryDirectory, _, h .ignorePatterns, _, h .maxSuggestions,
      _, h .refineSuggestions, rfl⟩

theorem exists_ofEntries_iff (standard : Settings) {entries : Toml.Entries} :
    (∃ settings, ofEntries standard entries = some settings) ↔
      ∀ (key : Key) (value : Toml.Value), entries.lookup key.name.toList = some value →
        (key.read value).isSome = true := by
  simp only [ofEntries_eq_some_iff]
  constructor
  · rintro ⟨settings, h⟩ key
    rw [← isSome_field_iff (standard.get key), h key]
    rfl
  · intro h
    have hfield (key : Key) := (isSome_field_iff (standard.get key)).2 (h key)
    let value (key : Key) := (field entries key.name (standard.get key) key.read).get (hfield key)
    exact ⟨ofValues value, fun key => by simp [value]⟩

theorem ofFile_eq_ok_iff {file : SettingsFile} :
    ofFile standard file = .ok settings ↔
      ∃ entries, file.entries? = some entries ∧ ofEntries standard entries = some settings := by
  unfold ofFile SettingsFile.entries?
  cases String.fromUTF8? file.bytes with
  | none => simp
  | some text =>
    rw [Option.bind_some, ← Option.bind_eq_some_iff]
    dsimp only
    cases (Toml.parse? text.toList).bind (ofEntries standard) <;> simp

/-- What a file does not set has the standard value. -/
theorem get_of_ofFile {file : SettingsFile} (h : ofFile standard file = .ok settings) (key : Key) :
    settings.get key = (file.sets key).getD (standard.get key) := by
  obtain ⟨entries, hentries, hsettings⟩ := ofFile_eq_ok_iff.1 h
  rw [SettingsFile.sets, hentries, Option.bind_some]
  exact eq_getD_of_field_eq_some (ofEntries_eq_some_iff.1 hsettings key)

/-- **The valid files are those that can be loaded.** -/
theorem isValid_iff_ofFile (standard : Settings) {file : SettingsFile} :
    file.IsValid ↔ ∃ settings, ofFile standard file = .ok settings := by
  simp only [ofFile_eq_ok_iff, SettingsFile.IsValid, ← exists_ofEntries_iff standard]
  tauto

instance (file : SettingsFile) : Decidable file.IsValid :=
  decidable_of_iff ((ofFile (.standard []) file).toOption.isSome = true) (by
    simp only [isValid_iff_ofFile (.standard []), Option.isSome_iff_exists, toOption_eq_some_iff])

/-! ### Files over each other -/

/-- The value that a file sets, if it is not the standard one. -/
def counts {α : Type} (same : α → α → Bool) (standard : α) (value? : Option α) : Option α :=
  value?.filter fun value => !same value standard

section Counts

variable {α : Type} {same : α → α → Bool} {standard value : α}

@[simp] theorem counts_none : counts same standard none = none := rfl

theorem counts_of_same (h : same value standard = true) :
    counts same standard (some value) = none := by
  simp [counts, h]

theorem counts_of_not_same (h : same value standard = false) :
    counts same standard (some value) = some value := by
  simp [counts, h]

theorem pick_getD (hrefl : same standard standard = true) (lower : α) (value? : Option α) :
    pick same standard lower (value?.getD standard) =
      (counts same standard value?).getD lower := by
  cases value? with
  | none => simp [pick, counts, hrefl]
  | some value =>
    cases h : same value standard with
    | true => simp [pick, h, counts_of_same h]
    | false => simp [pick, h, counts_of_not_same h]

end Counts

/-- **What files come to.** Each of them gives a setting its value if that is not the standard one.
-/
theorem get_loadFiles (standard : Settings) {files : List SettingsFile}
    (hfiles : ∀ file ∈ files, file.IsValid) (lower : Settings) :
    ∃ settings, loadFiles standard lower files = .ok settings ∧
      ∀ key : Key, settings.get key =
        files.foldl (fun value file =>
          (counts key.same (standard.get key) (file.sets key)).getD value) (lower.get key) := by
  induction files generalizing lower with
  | nil => exact ⟨lower, rfl, fun _ => rfl⟩
  | cons file files ih =>
    obtain ⟨upper, hupper⟩ := (isValid_iff_ofFile standard).1 (hfiles file List.mem_cons_self)
    obtain ⟨settings, hsettings, hget⟩ :=
      ih (fun other h => hfiles other (List.mem_cons_of_mem file h))
        (overriddenBy standard lower upper)
    refine ⟨settings, by rw [loadFiles, hupper]; exact hsettings, fun key => ?_⟩
    rw [hget, List.foldl_cons, get_overriddenBy, get_of_ofFile hupper,
      pick_getD (key.same_equivalence.refl _)]

/-! ### The value that is meant -/

/-- The value of the uppermost layer that sets one, and else the standard value. -/
def layered {α : Type} (standard : α) (argument upper lower : Option α) : α :=
  ((argument.or upper).or lower).getD standard

/-- The upper file goes back to the standard value from another one of the lower file, and no
argument takes the place of both. -/
def GoesBack {α : Type} (same : α → α → Bool) (standard : α) (argument upper lower : Option α) :
    Prop :=
  argument = none ∧ upper.any (same · standard) = true ∧ lower.any (!same · standard) = true

section Layered

variable {α : Type} {same : α → α → Bool} {standard : α} {argument upper lower : Option α}

/-- Where the upper file goes back to the standard value, the lower one is heard. -/
theorem GoesBack.eq_some_layered (h : GoesBack same standard argument upper lower) :
    lower = some (layered standard argument (counts same standard upper)
      (counts same standard lower)) := by
  obtain ⟨rfl, hupper, hlower⟩ := h
  obtain ⟨u, rfl, hu⟩ := (Option.any_eq_true _ _).1 hupper
  obtain ⟨l, rfl, hl⟩ := (Option.any_eq_true _ _).1 hlower
  rw [counts_of_same hu, counts_of_not_same (by simpa using hl)]
  rfl

/-- Passing over the standard values gives the value that is meant, unless the upper file goes back
to the standard one. -/
theorem same_layered_counts_iff (hsame : Equivalence fun a b => same a b = true) :
    same (layered standard argument (counts same standard upper) (counts same standard lower))
        (layered standard argument upper lower) = true ↔
      ¬GoesBack same standard argument upper lower := by
  have hrefl (a : α) : same a a = true := hsame.refl a
  cases argument with
  | some a => simp [layered, GoesBack, hrefl]
  | none =>
    cases upper with
    | none =>
      cases lower with
      | none => simp [layered, GoesBack, hrefl]
      | some l =>
        cases hl : same l standard with
        | true => simp [layered, GoesBack, counts_of_same hl, hsame.symm hl]
        | false => simp [layered, GoesBack, counts_of_not_same hl, hrefl]
    | some u =>
      cases hu : same u standard with
      | false => simp [layered, GoesBack, counts_of_not_same hu, hrefl, hu]
      | true =>
        cases lower with
        | none => simp [layered, GoesBack, counts_of_same hu, hsame.symm hu]
        | some l =>
          cases hl : same l standard with
          | true =>
            simp [layered, GoesBack, counts_of_same hu, counts_of_same hl, hl, hsame.symm hu]
          | false =>
            have hne : same l u = false := by
              by_contra h
              simp [hsame.trans (by simpa using h) hu] at hl
            simp [layered, GoesBack, counts_of_same hu, counts_of_not_same hl, hu, hl, hne]

end Layered

/-- **When a setting has the value that is meant.** Layers of valid files can be loaded. Every
setting has the value of the uppermost layer that sets it, unless the local file goes back to the
standard value from another one of the global file; then it has the value of the global file. -/
theorem load_get_same_layered_iff (standard : Settings) {globalFile localFile : Option SettingsFile}
    (hglobal : ∀ file ∈ globalFile, file.IsValid) (hlocal : ∀ file ∈ localFile, file.IsValid)
    (language? directory? : Option Text) :
    ∃ settings,
      load standard (globalFile.toList ++ localFile.toList) language? directory? = .ok settings ∧
        ∀ key : Key,
          let argument := key.argument language? directory?
          let upper := localFile.bind (·.sets key)
          let lower := globalFile.bind (·.sets key)
          (key.same (settings.get key) (layered (standard.get key) argument upper lower) = true ↔
            ¬GoesBack key.same (standard.get key) argument upper lower) ∧
          (GoesBack key.same (standard.get key) argument upper lower →
            lower = some (settings.get key)) := by
  have hvalid : ∀ file ∈ globalFile.toList ++ localFile.toList, file.IsValid := by
    intro file hfile
    simp only [List.mem_append, Option.mem_toList] at hfile
    exact hfile.elim (hglobal file) (hlocal file)
  obtain ⟨fromFiles, hfiles, hget⟩ := get_loadFiles standard hvalid standard
  refine ⟨_, by rw [load, hfiles], fun key => ?_⟩
  have hloaded (settings : Settings)
      (h : settings.get key = (key.argument language? directory?).getD (fromFiles.get key)) :
      settings.get key = layered (standard.get key) (key.argument language? directory?)
        (counts key.same (standard.get key) (localFile.bind (·.sets key)))
        (counts key.same (standard.get key) (globalFile.bind (·.sets key))) := by
    rw [h, hget, layered, Option.getD_or, Option.getD_or]
    cases globalFile <;> cases localFile <;> simp
  rw [hloaded _ (by cases key <;> rfl)]
  exact ⟨same_layered_counts_iff key.same_equivalence, GoesBack.eq_some_layered⟩

/-- The number of suggestions that the local file sets, the directory of the argument, and the
language of the global file, since the local one goes back to the standard language. -/
theorem load_local_over_global :
    let globalFile : SettingsFile :=
      ⟨"config.toml".toList, "language = \"de_DE\"\nmax_suggestions = 8\n".toUTF8⟩
    let localFile : SettingsFile :=
      ⟨".affixchk.toml".toList, "language = \"en_US\"\nmax_suggestions = 2\n".toUTF8⟩
    globalFile.IsValid ∧ localFile.IsValid ∧
      ∃ settings,
        load (.standard "data".toList) [globalFile, localFile] none (some "lib".toList) =
          .ok settings ∧
        settings.maxSuggestions = 2 ∧ Path.isSame settings.dictionaryDirectory "lib".toList = true ∧
        settings.language = "de_DE".toList := by
  intro globalFile localFile
  have hglobal : ∀ file ∈ some globalFile, file.IsValid := by decide +kernel
  have hlocal : ∀ file ∈ some localFile, file.IsValid := by decide +kernel
  obtain ⟨hglobalLanguage, hlocalLanguage, hlocalMax⟩ :
      globalFile.sets .language = some "de_DE".toList ∧
        localFile.sets .language = some "en_US".toList ∧
        localFile.sets .maxSuggestions = some 2 := by decide +kernel
  obtain ⟨settings, hload, hget⟩ :=
    load_get_same_layered_iff (.standard "data".toList) hglobal hlocal none (some "lib".toList)
  refine ⟨hglobal _ rfl, hlocal _ rfl, settings, hload, ?_, ?_, ?_⟩
  · simpa [Key.same, Key.argument, layered, GoesBack, hlocalMax, get, standard]
      using (hget .maxSuggestions).1
  · simpa [Key.same, Key.argument, layered, GoesBack, get] using (hget .dictionaryDirectory).1
  · have hlower : some "de_DE".toList = some settings.language := by
      simpa [Key.same, Key.argument, GoesBack, hlocalLanguage, hglobalLanguage, get,
        Settings.standard] using (hget .language).2
    exact (Option.some.inj hlower).symm

/-- The local file sets the standard language, and the global one's is loaded. -/
theorem load_language_eq_lower :
    ∃ globalFile localFile : SettingsFile,
      globalFile.sets .language = some "de_DE".toList ∧
        localFile.sets .language = some "en_US".toList ∧
        (load (.standard "data".toList) [globalFile, localFile] none none).toOption.map
          (·.language) = some "de_DE".toList :=
  ⟨⟨"config.toml".toList, "language = \"de_DE\"\n".toUTF8⟩,
    ⟨".affixchk.toml".toList, "language = \"en_US\"\n".toUTF8⟩, by decide +kernel⟩

end Settings

end AffixSpeller
