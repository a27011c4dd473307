import AffixSpeller.Proofs.Spelling.Acceptance
import AffixSpeller.Proofs.Spelling.Session
import AffixSpeller.Proofs.Text.CaseForms

/-!
# Case forms of learned words and of dictionary words

A checker and a dictionary find the upper-case form or the capitalized form of a word by lower-casing
it. So they find the forms of those words that lower-casing takes back. A word that is learned with a
capital is not among them, and neither is a word such as `straße`, whose upper-case form lower-casing
takes to `strasse`. Besides, a form may be right on its own account.

## Main results

* `Checker.isCorrect_learn`: which case forms of a word are right once the word is learned.
* `Dictionary.isKnown_caseForms`: which case forms of a word in lower case a dictionary knows.
-/

namespace AffixSpeller

open Text (ComesBackFromUpper ComesBackFromCapital)

namespace Checker

variable {checker : Checker} {calls : List SessionCall} {word text : Text}

theorem isCorrect_after : (checker.after calls).isCorrect text = true ↔
    checker.isCorrect text = true ∨ SessionCall.Silences calls text := by
  rw [isCorrect_iff, isCorrect_iff, suggest_after]
  split_ifs with hsilences <;> simp [hsilences]

/-- Learning a word makes the word right, and what is in upper case or capitalized and has the word
as its lower-case form. -/
theorem isCorrect_learn_iff : (checker.learn word).isCorrect text = true ↔
    checker.isCorrect text = true ∨ text = word ∨
      ((Text.isUpper text = true ∨ Text.isCapitalized text = true) ∧ Text.toLower text = word) := by
  have hlearn : checker.learn word = checker.after [.learn word] := rfl
  rw [hlearn, isCorrect_after]
  simp [SessionCall.Silences]

/-- **Which case forms of a word are right once the word is learned.** The word itself is; the
upper-case form and the capitalized form are if they were right before, if they are the word itself,
or if every letter of the word comes back from them. -/
theorem isCorrect_learn (checker : Checker) (word : Text) :
    (checker.learn word).isCorrect word = true ∧
    ((checker.learn word).isCorrect (Text.toUpper word) = true ↔
      checker.isCorrect (Text.toUpper word) = true ∨ Text.toUpper word = word ∨
        ComesBackFromUpper word) ∧
    ((checker.learn word).isCorrect (Text.capitalize word) = true ↔
      checker.isCorrect (Text.capitalize word) = true ∨ Text.capitalize word = word ∨
        ComesBackFromCapital word) := by
  refine ⟨isCorrect_learn_iff.2 (Or.inr (Or.inl rfl)), ?_, ?_⟩
  · rw [isCorrect_learn_iff, Text.toLower_toUpper_eq_self_iff]
    simp [Text.isUpper_toUpper]
  · rw [isCorrect_learn_iff, Text.toLower_capitalize_eq_self_iff,
      and_iff_right_of_imp fun h => Or.inr (Text.isCapitalized_capitalize h)]

/-- The capital of `Paris` does not come back from `PARIS`. -/
theorem isCorrect_learn_paris_upper_eq_false :
    ∃ checker : Checker,
      (Dictionary.ofTexts [] "1\ncat\n".toList "en".toList).result = .ok checker.dictionary ∧
        Text.toUpper "Paris".toList = "PARIS".toList ∧
        (checker.learn "Paris".toList).isCorrect "PARIS".toList = false := by
  obtain ⟨dictionary, hbuilt, h⟩ := Logged.exists_result_eq_ok
    (p := fun dictionary : Dictionary =>
      !((ofDictionary dictionary (Settings.standard [])).2.learn "Paris".toList).isCorrect
        "PARIS".toList)
    (show (Dictionary.ofTexts [] "1\ncat\n".toList "en".toList).result.toOption.any _ = true by
      decide +kernel)
  rw [Bool.not_eq_true'] at h
  exact ⟨(ofDictionary dictionary (Settings.standard [])).2, hbuilt, by decide +kernel, h⟩

end Checker

namespace Dictionary

variable {dictionary : Dictionary} {word : Text}

theorem isKnown_iff : dictionary.isKnown word = true ↔
    dictionary.contains word = true ∨
      ((Text.isUpper word = true ∨ Text.isCapitalized word = true) ∧
        dictionary.contains (Text.toLower word) = true) := by
  simp [isKnown]

/-- **Which case forms of a word in lower case a dictionary knows.** It knows the word. It knows the
upper-case form if every letter comes back from it, and the capitalized form if the first letter
does; otherwise it knows them if they, or their own lower-case forms, are words of the dictionary.
The answer for a form that it knows is empty. -/
theorem isKnown_caseForms (hcontains : dictionary.contains word = true)
    (hlower : Text.isLower word = true) :
    dictionary.isKnown word = true ∧
    (dictionary.isKnown (Text.toUpper word) = true ↔
      ComesBackFromUpper word ∨ dictionary.contains (Text.toUpper word) = true ∨
        dictionary.contains (Text.toLower (Text.toUpper word)) = true) ∧
    (dictionary.isKnown (Text.capitalize word) = true ↔
      (∀ c ∈ word.head?, Unicode.ComesBack c) ∨
        dictionary.contains (Text.capitalize word) = true ∨
        ((Text.isUpper (Text.capitalize word) = true ∨
            Text.isCapitalized (Text.capitalize word) = true) ∧
          dictionary.contains (Text.toLower (Text.capitalize word)) = true)) ∧
    ∀ form ∈ [word, Text.toUpper word, Text.capitalize word],
      dictionary.isKnown form = true → dictionary.suggest form = [] := by
  refine ⟨isKnown_iff.2 (Or.inl hcontains), ?_, ?_, fun form _ => suggest_of_isKnown⟩
  · rw [isKnown_iff, Text.isUpper_toUpper, ← Text.toLower_toUpper_eq_self_iff]
    simp only [true_or, true_and]
    exact (or_iff_right_of_imp fun h => Or.inr (by rwa [h])).symm
  · rw [isKnown_iff, ← Text.comesBackFromCapital_iff_of_isLower hlower]
    refine (or_iff_right_of_imp fun h => Or.inr ⟨Or.inr (Text.isCapitalized_capitalize h), ?_⟩).symm
    rwa [Text.toLower_capitalize_eq_self_iff.2 h]

/-- The last letter of `λόγος` is the sigma that its place asks for, so that the word comes back from
`ΛΌΓΟΣ`. -/
theorem isKnown_caseForms_logos :
    ∃ dictionary,
      (ofTexts [] "1\nλόγος\n".toList "el".toList).result = .ok dictionary ∧
        dictionary.contains "λόγος".toList = true ∧ Text.isLower "λόγος".toList = true ∧
        dictionary.isKnown "ΛΌΓΟΣ".toList = true ∧ dictionary.isKnown "Λόγος".toList = true ∧
        dictionary.suggest "ΛΌΓΟΣ".toList = [] ∧ dictionary.suggest "Λόγος".toList = [] := by
  obtain ⟨dictionary, hbuilt, hcontains⟩ := Logged.exists_result_eq_ok
    (p := fun dictionary : Dictionary => dictionary.contains "λόγος".toList)
    (show (ofTexts [] "1\nλόγος\n".toList "el".toList).result.toOption.any _ = true by
      decide +kernel)
  have hlower : Text.isLower "λόγος".toList = true := by decide +kernel
  have hupper : Text.toUpper "λόγος".toList = "ΛΌΓΟΣ".toList := by decide +kernel
  have hcapital : Text.capitalize "λόγος".toList = "Λόγος".toList := by decide +kernel
  have hback : ComesBackFromUpper "λόγος".toList :=
    Text.toLower_toUpper_eq_self_iff.1 (by decide +kernel)
  have hfirst : Unicode.ComesBack 'λ' := by decide +kernel
  obtain ⟨-, hu, hc, hanswer⟩ := isKnown_caseForms hcontains hlower
  rw [hupper] at hu hanswer
  rw [hcapital] at hc hanswer
  have hu := hu.2 (Or.inl hback)
  have hc := hc.2 (Or.inl (by simpa using hfirst))
  exact ⟨dictionary, hbuilt, hcontains, hlower, hu, hc, hanswer _ (by simp) hu,
    hanswer _ (by simp) hc⟩

/-- Lower-casing takes `STRASSE` to another word than `straße`. -/
theorem isKnown_strasse_upper_eq_false :
    ∃ dictionary,
      (ofTexts [] "1\nstraße\n".toList "de".toList).result = .ok dictionary ∧
        dictionary.contains "straße".toList = true ∧ Text.isLower "straße".toList = true ∧
        Text.toUpper "straße".toList = "STRASSE".toList ∧
        dictionary.isKnown "STRASSE".toList = false ∧
        dictionary.suggest "STRASSE".toList = ["STRASSE".toList] := by
  obtain ⟨dictionary, hbuilt, h⟩ := Logged.exists_result_eq_ok
    (p := fun dictionary : Dictionary => dictionary.contains "straße".toList &&
      !dictionary.isKnown "STRASSE".toList &&
      dictionary.suggest "STRASSE".toList == ["STRASSE".toList])
    (show (ofTexts [] "1\nstraße\n".toList "de".toList).result.toOption.any _ = true by
      decide +kernel)
  simp only [Bool.and_eq_true, beq_iff_eq, Bool.not_eq_true'] at h
  obtain ⟨⟨hcontains, hknown⟩, hanswer⟩ := h
  exact ⟨dictionary, hbuilt, hcontains, by decide +kernel, by decide +kernel, hknown, hanswer⟩

end Dictionary

end AffixSpeller
