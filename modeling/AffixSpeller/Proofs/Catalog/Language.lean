import AffixSpeller.Catalog.Language
import AffixSpeller.Proofs.Text.LetterCase

/-!
# The normal form of a language code

Normalizing a code twice is the same as normalizing it once. This takes three facts about case
forms, which hold whatever letters a code has: they have no separators or white space that the code
does not have, lower-case forms are in lower case, and upper-case forms are in upper case. A part
that is put in upper case may change its length, but then it is in upper case already when it is
looked at again.

The parts of a code do not depend on which separators it has, so they are those of the code with
hyphens throughout.

## Main definitions

* `Language.isSeparator`: low lines and hyphens.
* `Language.hyphenate`: a code with hyphens throughout.
* `Language.Respells`: codes that differ in their separators only.

## Main results

* `Language.parts_eq_splitOn`: the parts of a code in terms of hyphens.
* `Language.sameMarks_normalize`: the normal form has the marks of the code.
* `Language.parts_normalize`: the parts of the normal form.
* `Language.normalize_canonical`: codes have a canonical form.
-/

namespace AffixSpeller.Language

open Text (Blank SameMarks)

variable {code other : Text} {marks : CodeSet}

/-- The character parts a code. -/
def isSeparator (c : Char) : Bool :=
  c == '_' || c == '-'

/-- The code with hyphens throughout. -/
def hyphenate (code : Text) : Text :=
  Text.replaceChar '_' '-' code

/-- The second code is the first one, some separators being exchanged for one another. -/
def Respells (code other : Text) : Prop :=
  List.Forall₂ (fun c d => c = d ∨ isSeparator c = true ∧ isSeparator d = true) code other

/-! ### Parts -/

theorem splitOn_hyphenate (t : Text) : (hyphenate t).splitOn '-' = t.splitOnP isSeparator := by
  induction t with
  | nil => rfl
  | cons c t ih =>
    rw [List.splitOnP_cons_eq_if_modifyHead, ← ih]
    unfold hyphenate Text.replaceChar isSeparator
    rw [List.map_cons, List.splitOn_cons_eq_if_modifyHead]
    by_cases hline : c = '_'
    · simp [hline]
    · simp [hline]

theorem trim_hyphenate (code : Text) : Text.trim (hyphenate code) = hyphenate (Text.trim code) := by
  have hwhite : (Unicode.isWhiteSpace ∘ fun c => if c = '_' then '-' else c) =
      Unicode.isWhiteSpace := by
    funext c
    by_cases hline : c = '_'
    · subst hline
      decide
    · simp [hline]
  simp only [Text.trim, Text.trimWhile, Text.dropEndWhile, hyphenate, Text.replaceChar,
    List.dropWhile_map, ← List.map_reverse, hwhite]

/-- **The parts of a code** are those of the code with hyphens throughout. -/
theorem parts_eq_splitOn (code : Text) : parts code = (Text.trim (hyphenate code)).splitOn '-' := by
  rw [trim_hyphenate, splitOn_hyphenate]
  rfl

theorem normalize_of_parts {first : Text} {later : List Text} (h : parts code = first :: later) :
    normalize code = ['-'].intercalate (Text.toLower first :: later.map normalizeLater) := by
  rw [normalize, h]

theorem normalize_eq_of_parts_eq (h : parts code = parts other) :
    normalize code = normalize other := by
  rw [normalize, h, normalize]

theorem exists_parts_eq_cons (code : Text) : ∃ first later, parts code = first :: later :=
  List.exists_cons_of_ne_nil (List.splitOnP_ne_nil _ _)

theorem hyphen_notMem_of_mem_parts {part : Text} (h : part ∈ parts code) : '-' ∉ part := by
  intro hmem
  have hpart := Text.not_of_mem_splitOnP h '-' hmem
  contradiction

/-! ### Marks of the normal form -/

section Caseless

variable (h : marks.isCaseless = true)

include h

theorem sameMarks_normalizeLater (part : Text) :
    SameMarks marks.contains part (normalizeLater part) := by
  unfold normalizeLater
  split_ifs
  · exact Text.sameMarks_toUpper h part
  · exact .refl _ part

theorem forall₂_sameMarks_later (later : List Text) :
    List.Forall₂ (SameMarks marks.contains) later (later.map normalizeLater) := by
  rw [List.forall₂_map_right_iff]
  exact List.forall₂_same.2 fun part _ => sameMarks_normalizeLater h part

/-- **The normal form has the marks of the code** in which hyphens are put for low lines and the
white space at the ends is dropped. -/
theorem sameMarks_normalize (code : Text) :
    SameMarks marks.contains (Text.trim (hyphenate code)) (normalize code) := by
  obtain ⟨first, later, hparts⟩ := exists_parts_eq_cons code
  have hcode : Text.trim (hyphenate code) = ['-'].intercalate (first :: later) := by
    rw [← hparts, parts_eq_splitOn, List.intercalate_splitOn]
  rw [hcode, normalize_of_parts hparts]
  exact .intercalate (.cons (Text.sameMarks_toLower h first) (forall₂_sameMarks_later h later)) _

end Caseless

/-- Low lines and hyphens. -/
def separators : CodeSet :=
  ⟨[0x2D, 0x2E, 0x5F, 0x60]⟩

theorem isCaseless_separators : separators.isCaseless = true := by
  decide +kernel

theorem trim_normalize (code : Text) : Text.trim (normalize code) = normalize code :=
  (sameMarks_normalize Unicode.isCaseless_whiteSpace code).trim_eq_self

/-- The normal form has no low lines. -/
theorem hyphenate_normalize (code : Text) : hyphenate (normalize code) = normalize code := by
  have hline : '_' ∉ normalize code := by
    rw [← (sameMarks_normalize isCaseless_separators code).mem_iff (by decide), trim_hyphenate]
    intro hmem
    obtain ⟨c, -, hc⟩ := List.mem_map.1 hmem
    split_ifs at hc with heq
    · contradiction
    · exact heq hc
  refine (List.map_congr_left fun c hc => if_neg ?_).trans (List.map_id _)
  rintro rfl
  exact hline hc

/-! ### The normal form of the normal form -/

theorem normalizeLater_normalizeLater (part : Text) :
    normalizeLater (normalizeLater part) = normalizeLater part := by
  by_cases hcountry : Text.utf8Length part = 2
  · have hupper : Text.toUpper (Text.toUpper part) = Text.toUpper part :=
      (beq_iff_eq.1 (Text.isUpper_toUpper part)).symm
    rw [normalizeLater, normalizeLater, if_pos hcountry, hupper, ite_self]
  · rw [normalizeLater, normalizeLater, if_neg hcountry, if_neg hcountry]

/-- **The parts of the normal form** are the normal forms of the parts. -/
theorem parts_normalize {first : Text} {later : List Text} (h : parts code = first :: later) :
    parts (normalize code) = Text.toLower first :: later.map normalizeLater := by
  rw [parts_eq_splitOn, hyphenate_normalize, trim_normalize, normalize_of_parts h]
  have hnone {part piece : Text} (hpart : part ∈ parts code)
      (hsame : SameMarks separators.contains part piece) : '-' ∉ piece :=
    mt (hsame.mem_iff (by decide)).2 (hyphen_notMem_of_mem_parts hpart)
  rw [h] at hnone
  refine List.splitOn_intercalate '-' (List.forall_mem_cons.2 ⟨?_, ?_⟩) (List.cons_ne_nil _ _)
  · exact hnone List.mem_cons_self (Text.sameMarks_toLower isCaseless_separators first)
  · intro piece hpiece
    obtain ⟨part, hpart, rfl⟩ := List.mem_map.1 hpiece
    exact hnone (List.mem_cons_of_mem first hpart)
      (sameMarks_normalizeLater isCaseless_separators part)

/-- Normalizing a code twice is the same as normalizing it once. -/
theorem normalize_normalize (code : Text) : normalize (normalize code) = normalize code := by
  obtain ⟨first, later, hparts⟩ := exists_parts_eq_cons code
  have hlower : Text.toLower (Text.toLower first) = Text.toLower first :=
    (beq_iff_eq.1 (Text.isLower_toLower first)).symm
  rw [normalize_of_parts (parts_normalize hparts), normalize_of_parts hparts, hlower, List.map_map]
  simp only [Function.comp_def, normalizeLater_normalizeLater]

/-! ### White space and separators -/

/-- White space around a code has no bearing on its parts. -/
theorem parts_blank_append_blank {before after : Text} (hbefore : Blank before)
    (hafter : Blank after) (code : Text) : parts (before ++ code ++ after) = parts code := by
  rw [parts, Text.trim_blank_append_blank hbefore hafter, parts]

theorem Respells.hyphenate_eq (h : Respells code other) : hyphenate code = hyphenate other := by
  have hchar {c d : Char} (hcd : c = d ∨ isSeparator c = true ∧ isSeparator d = true) :
      (if c = '_' then '-' else c) = if d = '_' then '-' else d := by
    obtain rfl | ⟨hc, hd⟩ := hcd
    · rfl
    · simp only [isSeparator, Bool.or_eq_true, beq_iff_eq] at hc hd
      obtain rfl | rfl := hc <;> obtain rfl | rfl := hd <;> rfl
  induction h with
  | nil => rfl
  | cons hfirst _ ih => exact congrArg₂ List.cons (hchar hfirst) ih

/-- **Language codes have a canonical form.** The normal form of a code is its own normal form, and
neither white space around a code nor exchanging separators for one another changes it. -/
theorem normalize_canonical (code : Text) :
    normalize (normalize code) = normalize code ∧
      (∀ before after, Blank before → Blank after →
        normalize (before ++ code ++ after) = normalize code) ∧
      ∀ other, Respells code other → normalize other = normalize code := by
  refine ⟨normalize_normalize code, ?_, ?_⟩
  · intro before after hbefore hafter
    exact normalize_eq_of_parts_eq (parts_blank_append_blank hbefore hafter code)
  · intro other hother
    refine normalize_eq_of_parts_eq ?_
    rw [parts_eq_splitOn, parts_eq_splitOn, hother.hyphenate_eq]

/-- A final sigma, and a country of one letter that has two in upper case. -/
theorem normalize_canonical_of_sigma :
    normalize "ας-SS-RS".toList = "ας-SS-RS".toList ∧
      normalize "\u3000ΑΣ_ß-rs\n".toList = "ας-SS-RS".toList ∧
      normalize "ΑΣ-ß_rs".toList = "ας-SS-RS".toList := by
  have hnormal : normalize "ΑΣ_ß-rs".toList = "ας-SS-RS".toList := by decide +kernel
  obtain ⟨htwice, hblank, hother⟩ := normalize_canonical "ΑΣ_ß-rs".toList
  rw [hnormal] at htwice hblank hother
  refine ⟨htwice, hblank ['\u3000'] ['\n'] (by decide) (by decide), hother _ ?_⟩
  simp [Respells, isSeparator]

end AffixSpeller.Language
