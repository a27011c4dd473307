import AffixSpeller.Proofs.Spelling.Acceptance

/-!
# Recognized forms

A form is recognized when the search comes back to the word that it was made of, since the flags of
that word license the form. What a rule strips and appends decides how the two are related. If
undoing the rule is one edit, the word is a neighbour of the form, and nothing else in the
dictionary matters. If the append text begins, seen from the stem, with the strip text, the word is
a part of the form, and is asked once no suggestion was found. Other rules, such as one that turns
`y` into `ies`, make forms that may be echoed as misspellings.

## Main definitions

* `Dictionary.CollectsNothing`: the passes find no suggestion.
* `AffixRule.UndoneByEdit`: undoing a rule with these texts is one edit.
* `AffixKind.Covers`: the append text begins, seen from the stem, with the strip text.

## Main results

* `Dictionary.WellFormed.suggest_eq_nil_of_licenses`: what the word must be to the form.
* `Dictionary.suggest_form_eq_nil`: rules whose forms are recognized.
* `Dictionary.suggest_form_of_collectsNothing`: what becomes of a form without suggestions.
-/

namespace AffixSpeller

variable {kind : AffixKind} {strip append stem : Text}

/-! ### Rules that can be undone -/

/-- Undoing a rule with this strip text and this append text is one edit, or changes nothing. -/
inductive AffixRule.UndoneByEdit (letters : List Char) : Text → Text → Prop
  | deletion (c : Char) : UndoneByEdit letters [] [c]
  | insertion {c : Char} (hc : c ∈ letters) : UndoneByEdit letters [c] []
  | substitution {c : Char} (hc : c ∈ letters) (d : Char) : UndoneByEdit letters [c] [d]
  | transposition (c d : Char) : UndoneByEdit letters [c, d] [d, c]

/-- The word is a neighbour of the form, or the form itself. -/
theorem AffixRule.UndoneByEdit.neighbour {table : AffixTable}
    (h : UndoneByEdit table.tryCharacters strip append) (kind : AffixKind) (stem : Text) :
    kind.attach strip stem = kind.attach append stem ∨
      table.Neighbour (kind.attach append stem) (kind.attach strip stem) := by
  cases h with
  | deletion c =>
    refine Or.inr ?_
    cases kind with
    | leading => exact .deletion [] c stem
    | trailing => simpa [AffixKind.attach] using AffixTable.Neighbour.deletion stem c []
  | insertion hc =>
    refine Or.inr ?_
    cases kind with
    | leading => exact .insertion [] stem hc
    | trailing => simpa [AffixKind.attach] using AffixTable.Neighbour.insertion stem [] hc
  | @substitution c hc d =>
    obtain rfl | hne := eq_or_ne d c
    · exact Or.inl rfl
    · refine Or.inr ?_
      cases kind with
      | leading => exact .substitution [] d stem hc hne
      | trailing => exact .substitution stem d [] hc hne
  | transposition c d =>
    obtain rfl | hne := eq_or_ne d c
    · exact Or.inl rfl
    · refine Or.inr ?_
      cases kind with
      | leading => exact .transposition [] d c stem hne
      | trailing => exact .transposition stem d c [] hne

/-- The append text begins, seen from the stem, with the strip text. -/
def AffixKind.Covers : AffixKind → Text → Text → Prop
  | leading, strip, append => strip <:+ append
  | trailing, strip, append => strip <+: append

theorem AffixKind.covers_nil (kind : AffixKind) (append : Text) : kind.Covers [] append := by
  cases kind <;> simp [Covers]

/-- The word is a part of the form, or the form itself. -/
theorem AffixKind.Covers.isTruncation (h : kind.Covers strip append)
    (hne : kind.attach strip stem ≠ []) :
    kind.attach strip stem = kind.attach append stem ∨
      IsTruncation (kind.attach strip stem) (kind.attach append stem) := by
  refine or_iff_not_imp_left.2 fun hword => ⟨hne, hword, ?_⟩
  cases kind with
  | leading =>
    obtain ⟨l, rfl⟩ := h
    exact Or.inr ⟨l, by simp [attach]⟩
  | trailing =>
    obtain ⟨r, rfl⟩ := h
    exact Or.inl ⟨r, by simp [attach]⟩

namespace Dictionary

variable {dictionary : Dictionary} {entry : Entry} {word text form : Text}

/-! ### The answer for a licensed text -/

/-- The passes find no suggestion for the word. -/
def CollectsNothing (dictionary : Dictionary) (word : Text) : Prop :=
  ∀ search ∈ dictionary.passes word, search.found = []

instance : Decidable (dictionary.CollectsNothing word) :=
  inferInstanceAs (Decidable (∀ search ∈ dictionary.passes word, search.found = []))

/-- **The answer where no suggestion was found.** It is empty if the word is known, or if a
neighbour or a truncation licenses it, and else it is the word itself. -/
theorem WellFormed.suggest_of_collectsNothing (h : dictionary.WellFormed)
    (hnothing : dictionary.CollectsNothing word) :
    (dictionary.suggest word = [] ∨ dictionary.suggest word = [word]) ∧
      (dictionary.suggest word = [] ↔
        dictionary.isKnown word = true ∨
        ∃ text, (dictionary.affixes.Neighbour word text ∨ IsTruncation text word) ∧
          dictionary.Licenses text word) := by
  simp only [or_and_right, exists_or, ← h.passes_eq_none_iff]
  cases hknown : dictionary.isKnown word with
  | true => simp [suggest_of_isKnown hknown]
  | false =>
    cases hpasses : dictionary.passes word with
    | none => simp [suggest_of_passes_eq_none hpasses]
    | some search =>
      obtain ⟨hanswer, hlicensed⟩ | ⟨hanswer, hnone⟩ :=
        suggest_of_found_eq_nil hknown hpasses (hnothing search hpasses)
      · simp [hanswer, hlicensed]
      · simp [hanswer, hnone]

/-- **What the word must be to a form that its flags license.** The form itself, a neighbour, or,
where no suggestion was found, a part of the form. -/
theorem WellFormed.suggest_eq_nil_of_licenses (h : dictionary.WellFormed)
    (hlicenses : dictionary.Licenses text form)
    (hback : text = form ∨ dictionary.affixes.Neighbour form text ∨
      (IsTruncation text form ∧ dictionary.CollectsNothing form)) :
    dictionary.suggest form = [] := by
  obtain rfl | hneighbour | ⟨htruncation, hnothing⟩ := hback
  · exact suggest_of_isKnown (by simp [isKnown, hlicenses.contains])
  · exact suggest_of_passes_eq_none (h.passes_eq_none_iff.2 ⟨text, hneighbour, hlicenses⟩)
  · exact (h.suggest_of_collectsNothing hnothing).2.2 (Or.inr ⟨text, Or.inr htruncation, hlicenses⟩)

/-- The word of an entry licenses the forms of the entry. -/
theorem WellFormed.licenses_of_mem_forms (h : dictionary.WellFormed)
    (hentry : entry ∈ dictionary.entries) (hform : form ∈ (dictionary.expand entry).forms) :
    dictionary.Licenses entry.word form :=
  ⟨entry, h.mem_entries_iff.1 hentry, hform⟩

/-! ### The forms that rules make -/

section Rules

variable {flag : Flag} {kind : AffixKind} {group : AffixGroup} {rule : AffixRule}

/-- The word of an entry licenses what a rule of one of its flags makes of it. -/
theorem WellFormed.licenses_of_apply (h : dictionary.WellFormed)
    (hentry : entry ∈ dictionary.entries) (hflag : flag ∈ entry.flags)
    (hgroup : dictionary.affixes.group? kind flag = some group) (hrule : rule ∈ group.rules)
    (hform : rule.apply entry.word = some form) : dictionary.Licenses entry.word form :=
  h.licenses_of_mem_forms hentry
    (AffixTable.mem_forms_expand.2 ⟨flag, hflag, kind, group, hgroup, rule, hrule, hform⟩)

/-- A rule whose append text covers its strip text makes a form with the word as a part, or none
other than the word. -/
theorem WellFormed.isTruncation_of_covers (h : dictionary.WellFormed)
    (hentry : entry ∈ dictionary.entries) (hform : rule.apply entry.word = some form)
    (hcovers : rule.kind.Covers rule.strip rule.append) :
    entry.word = form ∨ IsTruncation entry.word form := by
  have hne : entry.word ≠ [] := by
    intro hnil
    have hcontains := contains_iff_exists_lookup.2 ⟨entry, h.mem_entries_iff.1 hentry⟩
    simp [hnil] at hcontains
  obtain ⟨-, -, stem, hword, rfl⟩ := AffixRule.apply_eq_some_iff.1 hform
  rw [hword] at hne ⊢
  exact hcovers.isTruncation hne

/-- **Rules whose forms are recognized.** If undoing the rule is one edit, the answer for the form
is empty, whatever else the dictionary has. If the rule only appends, it is empty unless there are
suggestions. -/
theorem suggest_form_eq_nil {grammar words name : Text}
    (h : (ofTexts grammar words name).result = .ok dictionary)
    (hentry : entry ∈ dictionary.entries) (hflag : flag ∈ entry.flags)
    (hgroup : dictionary.affixes.group? kind flag = some group) (hrule : rule ∈ group.rules)
    (hform : rule.apply entry.word = some form) :
    (AffixRule.UndoneByEdit dictionary.affixes.tryCharacters rule.strip rule.append →
        dictionary.suggest form = []) ∧
      (rule.strip = [] → rule.append ≠ [] → dictionary.CollectsNothing form →
        dictionary.suggest form = []) := by
  have hwf := wellFormed_of_ofTexts h
  have hlicenses := hwf.licenses_of_apply hentry hflag hgroup hrule hform
  constructor
  · intro hundone
    obtain ⟨-, -, stem, hword, rfl⟩ := AffixRule.apply_eq_some_iff.1 hform
    refine hwf.suggest_eq_nil_of_licenses hlicenses ?_
    rw [hword, ← or_assoc]
    exact Or.inl (hundone.neighbour rule.kind stem)
  · intro hstrip _ hnothing
    have hcovers : rule.kind.Covers rule.strip rule.append := by
      rw [hstrip]
      exact rule.kind.covers_nil rule.append
    obtain hword | htruncation := hwf.isTruncation_of_covers hentry hform hcovers
    · exact hwf.suggest_eq_nil_of_licenses hlicenses (Or.inl hword)
    · exact hwf.suggest_eq_nil_of_licenses hlicenses (Or.inr (Or.inr ⟨htruncation, hnothing⟩))

/-- A rule that ends `theatre` the other way round makes `theater`, which is recognized. -/
theorem suggest_theater_eq_nil :
    ∃ dictionary,
      (ofTexts "SFX B Y 1\nSFX B re er .\n".toList "1\ntheatre/B\n".toList
          "en".toList).result = .ok dictionary ∧
        dictionary.suggest "theater".toList = [] := by
  let rule : AffixRule := ⟨.trailing, "re".toList, "er".toList, .trivial, true⟩
  let group : AffixGroup := ⟨.trailing, "B".toList, true, 1, [rule]⟩
  let entry : Entry := ⟨"theatre".toList, ["B".toList]⟩
  obtain ⟨dictionary, hbuilt, h⟩ := Logged.exists_result_eq_ok
    (p := fun dictionary : Dictionary => decide (entry ∈ dictionary.entries) &&
      decide (dictionary.affixes.group? .trailing "B".toList = some group))
    (show (ofTexts "SFX B Y 1\nSFX B re er .\n".toList "1\ntheatre/B\n".toList
      "en".toList).result.toOption.any _ = true by decide +kernel)
  simp only [Bool.and_eq_true, decide_eq_true_eq] at h
  obtain ⟨hentry, hgroup⟩ := h
  have hflag : "B".toList ∈ entry.flags := by decide
  have hrule : rule ∈ group.rules := by decide
  have hform : rule.apply entry.word = some "theater".toList := by decide +kernel
  refine ⟨dictionary, hbuilt, ?_⟩
  exact (suggest_form_eq_nil hbuilt hentry hflag hgroup hrule hform).1 (.transposition 'r' 'e')

end Rules

/-- **What becomes of a form without suggestions.** The answer is empty if the form is known, or if
a neighbour or a truncation licenses it, and else it is the form itself. So it is empty if the
word of the entry is the form, a neighbour or a part of it, and this is so for every rule whose
append text covers its strip text. -/
theorem suggest_form_of_collectsNothing {grammar words name : Text}
    (h : (ofTexts grammar words name).result = .ok dictionary)
    (hentry : entry ∈ dictionary.entries) (hform : form ∈ (dictionary.expand entry).forms)
    (hnothing : dictionary.CollectsNothing form) :
    (dictionary.suggest form = [] ∨ dictionary.suggest form = [form]) ∧
      (dictionary.suggest form = [] ↔
        dictionary.isKnown form = true ∨
        ∃ text, (dictionary.affixes.Neighbour form text ∨ IsTruncation text form) ∧
          dictionary.Licenses text form) ∧
      (entry.word = form ∨ dictionary.affixes.Neighbour form entry.word ∨
          IsTruncation entry.word form → dictionary.suggest form = []) ∧
      (∀ flag ∈ entry.flags, ∀ kind group, dictionary.affixes.group? kind flag = some group →
        ∀ rule ∈ group.rules, rule.apply entry.word = some form →
          rule.kind.Covers rule.strip rule.append → dictionary.suggest form = []) := by
  have hwf := wellFormed_of_ofTexts h
  have hlicenses := hwf.licenses_of_mem_forms hentry hform
  obtain ⟨hanswer, hempty⟩ := hwf.suggest_of_collectsNothing hnothing
  have hback (hword : entry.word = form ∨ dictionary.affixes.Neighbour form entry.word ∨
      IsTruncation entry.word form) : dictionary.suggest form = [] :=
    hwf.suggest_eq_nil_of_licenses hlicenses
      (hword.imp_right (Or.imp_right fun htruncation => ⟨htruncation, hnothing⟩))
  refine ⟨hanswer, hempty, hback, ?_⟩
  intro _ _ _ _ _ rule _ happly hcovers
  exact hback ((hwf.isTruncation_of_covers hentry happly hcovers).imp_right Or.inr)

/-- Nothing is suggested for `kindness`, and the beginning `kind` licenses it. -/
theorem suggest_kindness_eq_nil :
    ∃ dictionary,
      (ofTexts "SFX N Y 1\nSFX N 0 ness .\n".toList "1\nkind/N\n".toList
          "en".toList).result = .ok dictionary ∧
        dictionary.CollectsNothing "kindness".toList ∧
        dictionary.suggest "kindness".toList = [] := by
  let entry : Entry := ⟨"kind".toList, ["N".toList]⟩
  obtain ⟨dictionary, hbuilt, h⟩ := Logged.exists_result_eq_ok
    (p := fun dictionary : Dictionary => decide (entry ∈ dictionary.entries) &&
      decide ("kindness".toList ∈ (dictionary.expand entry).forms) &&
      decide (dictionary.CollectsNothing "kindness".toList))
    (show (ofTexts "SFX N Y 1\nSFX N 0 ness .\n".toList "1\nkind/N\n".toList
      "en".toList).result.toOption.any _ = true by decide +kernel)
  simp only [Bool.and_eq_true, decide_eq_true_eq] at h
  obtain ⟨⟨hentry, hform⟩, hnothing⟩ := h
  have hbeginning : IsTruncation "kind".toList "kindness".toList :=
    ⟨by decide, by decide, Or.inl ⟨"ness".toList, rfl⟩⟩
  refine ⟨dictionary, hbuilt, hnothing, ?_⟩
  exact (suggest_form_of_collectsNothing hbuilt hentry hform hnothing).2.2.1
    (Or.inr (Or.inr hbeginning))

/-- The flag of `city` licenses `cities`, for which nothing is suggested, and the answer is the form
itself: `city` is not one edit away, and is no part of it. -/
theorem suggest_cities_eq_echo :
    ∃ dictionary entry,
      (ofTexts "SFX S Y 1\nSFX S y ies [^aeiou]y\n".toList "1\ncity/S\n".toList
          "en".toList).result = .ok dictionary ∧
        entry ∈ dictionary.entries ∧
        "cities".toList ∈ (dictionary.expand entry).forms ∧
        dictionary.CollectsNothing "cities".toList ∧
        dictionary.suggest "cities".toList = ["cities".toList] := by
  obtain ⟨dictionary, hbuilt, h⟩ := Logged.exists_result_eq_ok
    (p := fun dictionary : Dictionary =>
      decide (⟨"city".toList, ["S".toList]⟩ ∈ dictionary.entries) &&
      decide ("cities".toList ∈ (dictionary.expand ⟨"city".toList, ["S".toList]⟩).forms) &&
      decide (dictionary.CollectsNothing "cities".toList) &&
      decide (dictionary.suggest "cities".toList = ["cities".toList]))
    (show (ofTexts "SFX S Y 1\nSFX S y ies [^aeiou]y\n".toList "1\ncity/S\n".toList
      "en".toList).result.toOption.any _ = true by decide +kernel)
  simp only [Bool.and_eq_true, decide_eq_true_eq] at h
  obtain ⟨⟨⟨hentry, hform⟩, hnothing⟩, hanswer⟩ := h
  exact ⟨dictionary, ⟨"city".toList, ["S".toList]⟩, hbuilt, hentry, hform, hnothing, hanswer⟩

end Dictionary

end AffixSpeller
