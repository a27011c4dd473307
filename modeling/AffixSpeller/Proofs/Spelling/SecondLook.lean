import AffixSpeller.Proofs.Spelling.Acceptance
import AffixSpeller.Proofs.Text.LetterCase
import AffixSpeller.Spelling.Checker

/-!
# The second look at a word

A checker takes a second look only at words that its dictionary can do no more than echo. So a
word in upper case or capitalized, whose lower-case form the dictionary approves, is right as long
as the passes suggest nothing else for it: one dictionary word next to it hides the second look.
For the same reason a case form that the second look suggests may be one that the checker would
not accept; all other suggestions consist of words that it accepts.

## Main definitions

* `Dictionary.CaseForm`: a case form that the second look suggests.

## Main results

* `Dictionary.WellFormed.neighbour_or_phrase_of_mem_suggest`: what an answer of a dictionary holds.
* `Checker.isCorrect_caseForm_iff`: when a case form of an approved word is right.
* `Checker.isCorrect_of_mem_suggest`: which suggestions are right.
-/

namespace AffixSpeller

/-! ### What an answer of a dictionary holds -/

namespace Dictionary

variable {dictionary : Dictionary} {word text : Text}

theorem approves_iff : dictionary.approves word = true ↔ dictionary.suggest word = [] := by
  simp [approves]

/-- What the passes find are neighbours in the dictionary and phrases. -/
theorem WellFormed.neighbour_or_phrase_of_mem_found (h : dictionary.WellFormed) {search : Search}
    (hpasses : dictionary.passes word = some search) (htext : text ∈ search.found) :
    (dictionary.affixes.Neighbour word text ∧ dictionary.contains text = true) ∨
      dictionary.Phrase word text := by
  obtain hstart | haccepted := Search.mem_found_of_run hpasses htext
  · cases hstart
  · obtain ⟨candidate, hmem, haccepts, rfl⟩ := mem_acceptedTexts.1 haccepted
    cases candidate with
    | word text => exact Or.inl ⟨neighbour_of_word_mem_candidates h.affixes hmem, haccepts⟩
    | phrase text => exact Or.inr ((phrase_mem_candidates_iff h.affixes).1 hmem)

/-- The passes do not find a word without a space that is not known. -/
theorem WellFormed.notMem_found (h : dictionary.WellFormed) (hspace : ' ' ∉ word)
    (hknown : dictionary.isKnown word = false) {search : Search}
    (hpasses : dictionary.passes word = some search) : word ∉ search.found := by
  intro hmem
  obtain ⟨-, hcontains⟩ | hphrase := h.neighbour_or_phrase_of_mem_found hpasses hmem
  · simp [isKnown, hcontains] at hknown
  · exact hspace hphrase.space_mem

/-- **What an answer holds.** Unless it only echoes the word, every text of it is a neighbour in
the dictionary or a phrase. -/
theorem WellFormed.neighbour_or_phrase_of_mem_suggest (h : dictionary.WellFormed)
    (hanswer : dictionary.suggest word ≠ [word]) (htext : text ∈ dictionary.suggest word) :
    (dictionary.affixes.Neighbour word text ∧ dictionary.contains text = true) ∨
      dictionary.Phrase word text := by
  obtain ⟨hknown, search, hpasses⟩ := exists_passes_of_suggest_ne_nil (List.ne_nil_of_mem htext)
  obtain hfound | hfound := eq_or_ne search.found []
  · obtain ⟨hnil, -⟩ | ⟨hecho, -⟩ := suggest_of_found_eq_nil hknown hpasses hfound
    · simp [hnil] at htext
    · exact absurd hecho hanswer
  · rw [suggest_of_found_ne_nil hknown hpasses hfound] at htext
    exact h.neighbour_or_phrase_of_mem_found hpasses htext

/-- An answer without another text than the word, which has no space, is empty or an echo. -/
theorem WellFormed.suggest_eq_nil_or_echo (h : dictionary.WellFormed) (hspace : ' ' ∉ word)
    (honly : ∀ text ∈ dictionary.suggest word, text = word) :
    dictionary.suggest word = [] ∨ dictionary.suggest word = [word] := by
  refine or_iff_not_imp_left.2 fun hanswer => ?_
  obtain ⟨hknown, search, hpasses⟩ := exists_passes_of_suggest_ne_nil hanswer
  obtain hfound | hfound := eq_or_ne search.found []
  · obtain ⟨hnil, -⟩ | ⟨hecho, -⟩ := suggest_of_found_eq_nil hknown hpasses hfound
    · exact absurd hnil hanswer
    · exact hecho
  · rw [suggest_of_found_ne_nil hknown hpasses hfound] at honly
    obtain ⟨text, htext⟩ := List.exists_mem_of_ne_nil _ hfound
    exact absurd (honly text htext ▸ htext) (h.notMem_found hspace hknown hpasses)

/-- The parts of a phrase are words of the dictionary. -/
theorem WellFormed.contains_of_phrase (h : dictionary.WellFormed)
    (hphrase : dictionary.Phrase word text) :
    ∀ part ∈ text.splitOn ' ', dictionary.contains part = true := by
  have hpair {l r : Text} (hl : dictionary.contains l = true) (hr : dictionary.contains r = true) :
      ∀ part ∈ (l ++ ' ' :: r).splitOn ' ', dictionary.contains part = true := by
    rw [List.splitOn_append_cons_self_of_not_mem (h.solid_of_contains hl).space_notMem,
      List.splitOn_eq_singleton (h.solid_of_contains hr).space_notMem]
    simp [hl, hr]
  cases hphrase with
  | replacement _ _ _ hparts => exact hparts
  | split l r _ hl hr => exact hpair hl hr
  | capitalized l r _ hl hr => exact hpair hl hr

/-- Unless an answer echoes the word, all parts of its texts are words of the dictionary. -/
theorem WellFormed.contains_of_mem_suggest (h : dictionary.WellFormed)
    (hanswer : dictionary.suggest word ≠ [word]) (htext : text ∈ dictionary.suggest word) :
    ∀ part ∈ text.splitOn ' ', dictionary.contains part = true := by
  obtain ⟨-, hcontains⟩ | hphrase := h.neighbour_or_phrase_of_mem_suggest hanswer htext
  · rw [List.splitOn_eq_singleton (h.solid_of_contains hcontains).space_notMem]
    simpa using hcontains
  · exact h.contains_of_phrase hphrase

/-- An approved text has no space. -/
theorem WellFormed.space_notMem_of_approves (h : dictionary.WellFormed)
    (happroves : dictionary.approves word = true) : ' ' ∉ word := by
  rw [approves_iff] at happroves
  cases hknown : dictionary.isKnown word with
  | true =>
    simp only [isKnown, Bool.or_eq_true, Bool.and_eq_true] at hknown
    obtain hcontains | ⟨-, hcontains⟩ := hknown
    · exact (h.solid_of_contains hcontains).space_notMem
    · exact fun hspace =>
        (h.solid_of_contains hcontains).space_notMem (Text.space_mem_toLower hspace)
  | false =>
    obtain ⟨text, hlicenses⟩ : ∃ text, dictionary.Licenses text word := by
      cases hpasses : dictionary.passes word with
      | none =>
        obtain ⟨text, -, hlicenses⟩ := h.passes_eq_none_iff.1 hpasses
        exact ⟨text, hlicenses⟩
      | some search =>
        obtain ⟨-, text, -, hlicenses⟩ := (suggest_eq_nil_iff_of_passes hknown hpasses).1 happroves
        exact ⟨text, hlicenses⟩
    exact (h.solid_of_licenses hlicenses).space_notMem

/-! ### The second look -/

/-- A case form that the second look at a word suggests, since the dictionary approves a lower-case
form: the capitalized form of a word of mixed case, or the word with one letter left out if that
is in upper case or capitalized. -/
inductive CaseForm (dictionary : Dictionary) : Text → Text → Prop
  | capitalized {word : Text} (hmixed : Text.isMixed word = true)
      (hlower : dictionary.approves (Text.toLower word) = true) :
      dictionary.CaseForm word (Text.capitalize word)
  | deletion (l : Text) (c : Char) (r : Text)
      (hcase : (Text.isUpper (l ++ r) || Text.isCapitalized (l ++ r)) = true)
      (hlower : dictionary.approves (Text.toLower (l ++ r)) = true) :
      dictionary.CaseForm (l ++ c :: r) (l ++ r)

/-- The second look finds nothing to add to a word in upper case or capitalized whose lower-case
form is approved. -/
theorem refine_of_case (hcase : (Text.isUpper word || Text.isCapitalized word) = true)
    (hlower : dictionary.approves (Text.toLower word) = true) :
    dictionary.refine word = some [] := by
  simp [refine, hcase, hlower]

/-- A text with a letter left out contributes no other text than itself. -/
theorem mem_refinedForms {form : Text} (h : form ∈ dictionary.refinedForms text) :
    form = text ∧ (dictionary.approves text = true ∨
      ((Text.isUpper text || Text.isCapitalized text) = true ∧
        dictionary.approves (Text.toLower text) = true)) := by
  simp only [refinedForms, List.mem_append, List.mem_ite_nil_right, List.mem_singleton,
    Bool.and_eq_true] at h
  obtain ⟨hcase, ⟨hupper, hform⟩ | ⟨hcapitalized, hform⟩⟩ | ⟨happroves, hform⟩ := h
  · exact ⟨hform.trans (eq_of_beq hupper).symm, Or.inr hcase⟩
  · exact ⟨hform.trans (eq_of_beq hcapitalized).symm, Or.inr hcase⟩
  · exact ⟨hform, Or.inl happroves⟩

/-- **What the second look suggests.** Texts that the dictionary approves, and case forms. -/
theorem approves_or_caseForm_of_mem_refine {answer : List Text}
    (h : dictionary.refine word = some answer) (htext : text ∈ answer) :
    dictionary.approves text = true ∨ dictionary.CaseForm word text := by
  unfold refine at h
  dsimp only at h
  split_ifs at h with hcase hmixed
  · cases h
    cases htext
  · cases h
    rw [Bool.and_eq_true] at hmixed
    obtain rfl | htext := List.mem_cons.1 htext
    · exact Or.inr (.capitalized hmixed.1 hmixed.2)
    · rw [List.mem_singleton.1 htext]
      exact Or.inl hmixed.2
  · rw [foldl_appendNew_nil] at h
    split at h
    · cases h
    · cases h
      obtain ⟨deleted, hdeleted, hform⟩ := List.mem_flatMap.1 (List.mem_eraseDups.1 htext)
      obtain ⟨rfl, happroves | ⟨hcase, hlower⟩⟩ := mem_refinedForms hform
      · exact Or.inl happroves
      · obtain ⟨l, c, r, rfl, rfl⟩ := Edits.mem_deletions.1 (List.mem_of_mem_filter hdeleted)
        exact Or.inr (.deletion l c r hcase hlower)

end Dictionary

/-! ### The answer of a checker -/

namespace Checker

variable {checker : Checker} {word text : Text}

theorem isCorrect_iff : checker.isCorrect word = true ↔ checker.suggest word = [] := by
  simp [isCorrect]

theorem suggest_of_accepts (h : checker.accepts word = true) : checker.suggest word = [] := by
  simp [suggest, h]

/-- A word that the session has not accepted has the answer of the dictionary, unless that echoes
the word and there is a second look with another outcome. -/
theorem suggest_of_not_accepts (h : checker.accepts word = false) :
    (checker.suggest word = checker.dictionary.suggest word ∧
        (checker.refines = true → checker.dictionary.suggest word = [word] →
          checker.dictionary.refine word = none)) ∨
      (checker.refines = true ∧ checker.dictionary.suggest word = [word] ∧
        checker.dictionary.refine word = some (checker.suggest word)) := by
  simp only [suggest, h, Bool.false_eq_true, ↓reduceIte]
  by_cases hlook : checker.refines = true ∧ checker.dictionary.suggest word = [word]
  · obtain ⟨hrefines, hecho⟩ := hlook
    cases hrefine : checker.dictionary.refine word with
    | none => simp [hrefines, hecho]
    | some answer => simp [hrefines, hecho]
  · left
    have hno : (checker.refines && checker.dictionary.suggest word == [word]) = false := by
      simpa [Bool.and_eq_false_iff, imp_iff_not_or] using hlook
    simp only [hno, Bool.false_eq_true, ↓reduceIte, true_and]
    exact fun hrefines hecho => absurd ⟨hrefines, hecho⟩ hlook

/-- A text that the dictionary approves is right. -/
theorem isCorrect_of_approves (h : checker.dictionary.approves word = true) :
    checker.isCorrect word = true := by
  rw [isCorrect_iff]
  rw [Dictionary.approves_iff] at h
  cases haccepts : checker.accepts word with
  | true => exact suggest_of_accepts haccepts
  | false =>
    obtain ⟨hanswer, -⟩ | ⟨-, hecho, -⟩ := suggest_of_not_accepts haccepts
    · rw [hanswer, h]
    · simp [h] at hecho

theorem isCorrect_of_contains (h : checker.dictionary.contains word = true) :
    checker.isCorrect word = true :=
  isCorrect_of_approves
    (Dictionary.approves_iff.2 (Dictionary.suggest_of_isKnown (by simp [Dictionary.isKnown, h])))

/-! ### Case forms of approved words -/

/-- A case form is right if its lower-case form is approved and the dictionary suggests nothing
else for it. -/
theorem isCorrect_of_only_echo (hwf : checker.dictionary.WellFormed)
    (hrefines : checker.refines = true)
    (hcase : (Text.isUpper word || Text.isCapitalized word) = true)
    (hlower : checker.dictionary.approves (Text.toLower word) = true)
    (honly : ∀ text ∈ checker.dictionary.suggest word, text = word) :
    checker.isCorrect word = true := by
  have hspace : ' ' ∉ word := fun h =>
    hwf.space_notMem_of_approves hlower (Text.space_mem_toLower h)
  rw [isCorrect_iff]
  cases haccepts : checker.accepts word with
  | true => exact suggest_of_accepts haccepts
  | false =>
    have hrefine := Dictionary.refine_of_case hcase hlower
    obtain ⟨hanswer, hlook⟩ | ⟨-, -, hlook⟩ := suggest_of_not_accepts haccepts
    · obtain hnil | hecho := hwf.suggest_eq_nil_or_echo hspace honly
      · rw [hanswer, hnil]
      · simp [hlook hrefines hecho] at hrefine
    · rw [hrefine] at hlook
      exact (Option.some.inj hlook).symm

/-- A case form is right if its lower-case form is approved and no neighbour or phrase is in the
dictionary. -/
theorem isCorrect_of_nothing_near (hwf : checker.dictionary.WellFormed)
    (hrefines : checker.refines = true)
    (hcase : (Text.isUpper word || Text.isCapitalized word) = true)
    (hlower : checker.dictionary.approves (Text.toLower word) = true)
    (hneighbours : ∀ text, checker.dictionary.affixes.Neighbour word text →
      checker.dictionary.contains text = false)
    (hphrases : ∀ text, ¬checker.dictionary.Phrase word text) :
    checker.isCorrect word = true := by
  refine isCorrect_of_only_echo hwf hrefines hcase hlower fun text htext => ?_
  by_contra hne
  have hanswer : checker.dictionary.suggest word ≠ [word] := fun hecho => by
    rw [hecho] at htext
    exact hne (List.mem_singleton.1 htext)
  obtain ⟨hneighbour, hcontains⟩ | hphrase := hwf.neighbour_or_phrase_of_mem_suggest hanswer htext
  · simp [hneighbours text hneighbour] at hcontains
  · exact hphrases text hphrase

/-- If a word without a space is right that the session has not accepted and that is not known, the
passes find a confirmation or nothing. -/
theorem found_eq_nil_of_isCorrect (hwf : checker.dictionary.WellFormed) (hspace : ' ' ∉ word)
    (haccepts : checker.accepts word = false) (hknown : checker.dictionary.isKnown word = false)
    {search : Search} (hpasses : checker.dictionary.passes word = some search)
    (hcorrect : checker.isCorrect word = true) : search.found = [] := by
  rw [isCorrect_iff] at hcorrect
  by_contra hfound
  have hfirst := Dictionary.suggest_of_found_ne_nil hknown hpasses hfound
  obtain ⟨hanswer, -⟩ | ⟨-, hecho, -⟩ := suggest_of_not_accepts haccepts
  · exact hfound (hfirst.symm.trans (hanswer.symm.trans hcorrect))
  · refine hwf.notMem_found hspace hknown hpasses ?_
    rw [← hfirst, hecho]
    exact List.mem_singleton_self word

/-- The second look answers nothing for a case form whose lower-case form is approved, so a wrong
one has the answer of the dictionary. -/
theorem suggest_of_caseForm (hcase : (Text.isUpper word || Text.isCapitalized word) = true)
    (hlower : checker.dictionary.approves (Text.toLower word) = true)
    (hwrong : checker.isCorrect word = false) :
    checker.suggest word = checker.dictionary.suggest word := by
  have hanswer : checker.suggest word ≠ [] := fun hnil => by
    simp [isCorrect, hnil] at hwrong
  cases haccepts : checker.accepts word with
  | true => exact absurd (suggest_of_accepts haccepts) hanswer
  | false =>
    obtain ⟨hfirst, -⟩ | ⟨-, -, hlook⟩ := suggest_of_not_accepts haccepts
    · exact hfirst
    · rw [Dictionary.refine_of_case hcase hlower, Option.some.injEq] at hlook
      exact absurd hlook.symm hanswer

/-- **When a case form of an approved word is right.** The session has accepted it; it is known; a
neighbour licenses it; or no neighbour is in the dictionary and there is no phrase, so that the
dictionary leaves it to the second look. In all other cases the answer is the dictionary's. -/
theorem isCorrect_caseForm_iff {grammar words name : Text}
    (h : (Dictionary.ofTexts grammar words name).result = .ok checker.dictionary)
    (hrefines : checker.refines = true)
    (hcase : (Text.isUpper word || Text.isCapitalized word) = true)
    (hlower : checker.dictionary.suggest (Text.toLower word) = []) :
    (checker.isCorrect word = true ↔
        checker.accepts word = true ∨ checker.dictionary.isKnown word = true ∨
        (∃ text, checker.dictionary.affixes.Neighbour word text ∧
          checker.dictionary.Licenses text word) ∨
        ((∀ text, checker.dictionary.affixes.Neighbour word text →
            checker.dictionary.contains text = false) ∧
          ∀ text, ¬checker.dictionary.Phrase word text)) ∧
      (checker.isCorrect word = false →
        checker.suggest word = checker.dictionary.suggest word) := by
  have hwf := Dictionary.wellFormed_of_ofTexts h
  rw [← Dictionary.approves_iff] at hlower
  have hspace : ' ' ∉ word := fun h =>
    hwf.space_notMem_of_approves hlower (Text.space_mem_toLower h)
  refine ⟨⟨fun hcorrect => ?_, ?_⟩, suggest_of_caseForm hcase hlower⟩
  · rw [← hwf.passes_eq_none_iff]
    cases haccepts : checker.accepts word with
    | true => exact Or.inl rfl
    | false =>
      cases hknown : checker.dictionary.isKnown word with
      | true => exact Or.inr (Or.inl rfl)
      | false =>
        cases hpasses : checker.dictionary.passes word with
        | none => exact Or.inr (Or.inr (Or.inl rfl))
        | some search =>
          have hfound := found_eq_nil_of_isCorrect hwf hspace haccepts hknown hpasses hcorrect
          exact Or.inr (Or.inr (Or.inr ((hwf.found_eq_nil_iff hspace hpasses).1 hfound)))
  · rw [← hwf.passes_eq_none_iff]
    rintro (haccepts | hknown | hpasses | ⟨hneighbours, hphrases⟩)
    · exact isCorrect_iff.2 (suggest_of_accepts haccepts)
    · exact isCorrect_of_approves (Dictionary.approves_iff.2 (Dictionary.suggest_of_isKnown hknown))
    · exact isCorrect_of_approves
        (Dictionary.approves_iff.2 (Dictionary.suggest_of_passes_eq_none hpasses))
    · exact isCorrect_of_nothing_near hwf hrefines hcase hlower hneighbours hphrases

/-- Where the dictionary has `mark` with a rule that appends `s` and nothing next to `MARKS`, that
word is right. -/
theorem isCorrect_marks_upper :
    ∃ checker : Checker,
      (Dictionary.ofTexts "SFX S Y 1\nSFX S 0 s .\n".toList "1\nmark/S\n".toList
          "en".toList).result = .ok checker.dictionary ∧
        checker.dictionary.suggest "MARKS".toList = ["MARKS".toList] ∧
        checker.isCorrect "MARKS".toList = true := by
  obtain ⟨dictionary, hbuilt, h⟩ := Logged.exists_result_eq_ok
    (p := fun dictionary : Dictionary =>
      (dictionary.suggest "marks".toList).isEmpty &&
      dictionary.suggest "MARKS".toList == ["MARKS".toList] &&
      (dictionary.passes "MARKS".toList).any (·.found.isEmpty))
    (show (Dictionary.ofTexts "SFX S Y 1\nSFX S 0 s .\n".toList "1\nmark/S\n".toList
      "en".toList).result.toOption.any _ = true by decide +kernel)
  simp only [Bool.and_eq_true, List.isEmpty_iff, beq_iff_eq, Option.any_eq_true] at h
  obtain ⟨⟨hlower, hecho⟩, search, hpasses, hfound⟩ := h
  let checker : Checker := (Checker.ofDictionary dictionary (Settings.standard [])).2
  have hwf : dictionary.WellFormed := Dictionary.wellFormed_of_ofTexts hbuilt
  have hnothing := (hwf.found_eq_nil_iff (by decide) hpasses).1 hfound
  have hchecker : (Dictionary.ofTexts "SFX S Y 1\nSFX S 0 s .\n".toList "1\nmark/S\n".toList
      "en".toList).result = .ok checker.dictionary := hbuilt
  refine ⟨checker, hchecker, hecho, ?_⟩
  refine (isCorrect_caseForm_iff hchecker rfl (by decide +kernel) ?_).1.2
    (Or.inr (Or.inr (Or.inr hnothing)))
  exact (congrArg dictionary.suggest (by decide +kernel)).trans hlower

/-- With the name `Mark` in the dictionary too, `marks` is right, but `Marks` is not: the
dictionary suggests the name for it, so that there is no second look. -/
theorem isCorrect_marks_capitalized_eq_false :
    ∃ checker : Checker,
      (Dictionary.ofTexts "SFX S Y 1\nSFX S 0 s .\n".toList "2\nmark/S\nMark\n".toList
          "en".toList).result = .ok checker.dictionary ∧
        checker.refines = true ∧ Text.isCapitalized "Marks".toList = true ∧
        checker.dictionary.suggest (Text.toLower "Marks".toList) = [] ∧
        checker.suggest "Marks".toList = ["Mark".toList] ∧
        checker.isCorrect "Marks".toList = false := by
  obtain ⟨dictionary, hbuilt, h⟩ := Logged.exists_result_eq_ok
    (p := fun dictionary : Dictionary =>
      decide (dictionary.suggest (Text.toLower "Marks".toList) = []) &&
      decide ((Checker.ofDictionary dictionary (Settings.standard [])).2.suggest "Marks".toList =
        ["Mark".toList]))
    (show (Dictionary.ofTexts "SFX S Y 1\nSFX S 0 s .\n".toList "2\nmark/S\nMark\n".toList
      "en".toList).result.toOption.any _ = true by decide +kernel)
  simp only [Bool.and_eq_true, decide_eq_true_eq] at h
  obtain ⟨hlower, hanswer⟩ := h
  refine ⟨(Checker.ofDictionary dictionary (Settings.standard [])).2, hbuilt, rfl,
    by decide +kernel, hlower, hanswer, ?_⟩
  rw [isCorrect, hanswer]
  rfl

/-! ### Suggestions -/

/-- **Which suggestions are right.** All parts of a suggestion are right, unless it is a case form
that the second look suggests. A case form that is itself in upper case or capitalized, and whose
own lower-case form is approved, is wrong only if the dictionary suggests something else for it. -/
theorem isCorrect_of_mem_suggest {grammar words name : Text}
    (h : (Dictionary.ofTexts grammar words name).result = .ok checker.dictionary)
    (hword : checker.suggest word ≠ [word]) (htext : text ∈ checker.suggest word) :
    (∀ part ∈ text.splitOn ' ', checker.isCorrect part = true) ∨
      (checker.refines = true ∧ checker.dictionary.suggest word = [word] ∧
        checker.dictionary.CaseForm word text ∧
        ((Text.isUpper text || Text.isCapitalized text) = true →
          checker.dictionary.suggest (Text.toLower text) = [] →
          ∃ other ∈ checker.dictionary.suggest text, other ≠ text)) := by
  have hwf := Dictionary.wellFormed_of_ofTexts h
  have haccepts : checker.accepts word = false := by
    by_contra haccepts
    simp [suggest_of_accepts (by simpa using haccepts)] at htext
  obtain ⟨hanswer, -⟩ | ⟨hrefines, hecho, hlook⟩ := suggest_of_not_accepts haccepts
  · left
    rw [hanswer] at hword htext
    exact fun part hpart =>
      isCorrect_of_contains (hwf.contains_of_mem_suggest hword htext part hpart)
  · -- a suggestion of the second look that is right has no space, so it is its only part
    have hwhole (hspace : ' ' ∉ text) (hcorrect : checker.isCorrect text = true) :
        ∀ part ∈ text.splitOn ' ', checker.isCorrect part = true := by
      simpa [List.splitOn_eq_singleton hspace] using hcorrect
    obtain happroves | hform := Dictionary.approves_or_caseForm_of_mem_refine hlook htext
    · exact Or.inl (hwhole (hwf.space_notMem_of_approves happroves)
        (isCorrect_of_approves happroves))
    · refine or_iff_not_imp_left.2 fun hwrong => ⟨hrefines, hecho, hform, fun hcase hlower => ?_⟩
      rw [← Dictionary.approves_iff] at hlower
      by_contra! honly
      refine hwrong (hwhole (fun hspace => ?_)
        (isCorrect_of_only_echo hwf hrefines hcase hlower honly))
      exact hwf.space_notMem_of_approves hlower (Text.space_mem_toLower hspace)

/-- The second look at `mARKS` suggests `Marks`, which is right where the dictionary can only echo
it. -/
theorem isCorrect_of_mem_suggest_marks :
    ∃ checker : Checker,
      (Dictionary.ofTexts "SFX S Y 1\nSFX S 0 s .\n".toList "1\nmark/S\n".toList
          "en".toList).result = .ok checker.dictionary ∧
        checker.suggest "mARKS".toList = ["Marks".toList, "marks".toList] ∧
        checker.dictionary.suggest "Marks".toList = ["Marks".toList] ∧
        checker.isCorrect "Marks".toList = true := by
  obtain ⟨dictionary, hbuilt, h⟩ := Logged.exists_result_eq_ok
    (p := fun dictionary : Dictionary =>
      decide (dictionary.suggest "Marks".toList = ["Marks".toList]) &&
      decide (dictionary.suggest (Text.toLower "Marks".toList) = []) &&
      decide ((Checker.ofDictionary dictionary (Settings.standard [])).2.suggest "mARKS".toList =
        ["Marks".toList, "marks".toList]))
    (show (Dictionary.ofTexts "SFX S Y 1\nSFX S 0 s .\n".toList "1\nmark/S\n".toList
      "en".toList).result.toOption.any _ = true by decide +kernel)
  simp only [Bool.and_eq_true, decide_eq_true_eq] at h
  obtain ⟨⟨hecho, hlower⟩, hanswer⟩ := h
  let checker : Checker := (Checker.ofDictionary dictionary (Settings.standard [])).2
  have hecho : checker.dictionary.suggest "Marks".toList = ["Marks".toList] := hecho
  have hanswer : checker.suggest "mARKS".toList = ["Marks".toList, "marks".toList] := hanswer
  refine ⟨checker, hbuilt, hanswer, hecho, ?_⟩
  have hword : checker.suggest "mARKS".toList ≠ ["mARKS".toList] := by
    rw [hanswer]
    decide
  have htext : "Marks".toList ∈ checker.suggest "mARKS".toList := by
    rw [hanswer]
    exact List.mem_cons_self
  obtain hparts | ⟨-, -, -, hother⟩ := isCorrect_of_mem_suggest hbuilt hword htext
  · exact hparts "Marks".toList (by decide)
  · obtain ⟨other, hmem, hne⟩ := hother (by decide +kernel) hlower
    rw [hecho] at hmem
    exact absurd (List.mem_singleton.1 hmem) hne

/-- The second look at `mARKS` suggests `Marks`, which is wrong as long as the name `Mark` is in
the dictionary. -/
theorem isCorrect_suggested_marks_eq_false :
    ∃ checker : Checker,
      (Dictionary.ofTexts "SFX S Y 1\nSFX S 0 s .\n".toList "2\nmark/S\nMark\n".toList
          "en".toList).result = .ok checker.dictionary ∧
        checker.suggest "mARKS".toList = ["Marks".toList, "marks".toList] ∧
        "Marks".toList.splitOn ' ' = ["Marks".toList] ∧
        checker.isCorrect "Marks".toList = false := by
  obtain ⟨dictionary, hbuilt, h⟩ := Logged.exists_result_eq_ok
    (p := fun dictionary : Dictionary =>
      decide ((Checker.ofDictionary dictionary (Settings.standard [])).2.suggest "mARKS".toList =
        ["Marks".toList, "marks".toList]) &&
      !(Checker.ofDictionary dictionary (Settings.standard [])).2.isCorrect "Marks".toList)
    (show (Dictionary.ofTexts "SFX S Y 1\nSFX S 0 s .\n".toList "2\nmark/S\nMark\n".toList
      "en".toList).result.toOption.any _ = true by decide +kernel)
  simp only [Bool.and_eq_true, decide_eq_true_eq, Bool.not_eq_true'] at h
  obtain ⟨hanswer, hwrong⟩ := h
  exact ⟨(Checker.ofDictionary dictionary (Settings.standard [])).2, hbuilt, hanswer, by decide,
    hwrong⟩

end Checker

end AffixSpeller
