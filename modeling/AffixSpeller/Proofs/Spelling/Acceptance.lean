import AffixSpeller.Proofs.Spelling.Search

/-!
# When a word is accepted

The answer for a word is empty if and only if the word is known, a neighbour in the dictionary
licenses it, or a truncation does while there is no suggestion at all. So neither the texts that
were tried before, nor the suggestions found before, nor the order of the passes hide a
confirmation by a neighbour.

## Main definitions

* `Dictionary.passes`: the search through all candidates for a word.

## Main results

* `Dictionary.WellFormed.passes_eq_none_iff`: when the passes confirm a word.
* `Dictionary.WellFormed.found_eq_nil_iff`: when they find no suggestion.
* `Dictionary.suggest_eq_nil_iff`: when the answer for a word is empty.
-/

namespace AffixSpeller.Dictionary

variable {dictionary : Dictionary} {word text : Text} {search : Search}

/-- The search through all candidates for a word, from the start. -/
def passes (dictionary : Dictionary) (word : Text) : Option Search :=
  Search.run dictionary word {} (dictionary.candidates word)

/-! ### The answer by the outcome of the passes -/

theorem suggest_of_isKnown (h : dictionary.isKnown word = true) : dictionary.suggest word = [] := by
  simp [suggest, h]

theorem suggest_of_passes_eq_none (h : dictionary.passes word = none) :
    dictionary.suggest word = [] := by
  unfold passes at h
  simp [suggest, h]

/-- An answer that is not empty is given after the passes. -/
theorem exists_passes_of_suggest_ne_nil (h : dictionary.suggest word ≠ []) :
    dictionary.isKnown word = false ∧ ∃ search, dictionary.passes word = some search := by
  constructor
  · by_contra hknown
    exact h (suggest_of_isKnown (by simpa using hknown))
  · cases hpasses : dictionary.passes word with
    | none => exact absurd (suggest_of_passes_eq_none hpasses) h
    | some search => exact ⟨search, rfl⟩

theorem suggest_of_found_ne_nil (hknown : dictionary.isKnown word = false)
    (h : dictionary.passes word = some search) (hfound : search.found ≠ []) :
    dictionary.suggest word = search.found := by
  unfold passes at h
  simp [suggest, hknown, h, hfound]

/-- Without a suggestion, the answer is empty if a truncation licenses the word, and else the word
itself. -/
theorem suggest_of_found_eq_nil (hknown : dictionary.isKnown word = false)
    (h : dictionary.passes word = some search) (hfound : search.found = []) :
    (dictionary.suggest word = [] ∧
        ∃ text, IsTruncation text word ∧ dictionary.Licenses text word) ∨
      (dictionary.suggest word = [word] ∧
        ¬∃ text, IsTruncation text word ∧ dictionary.Licenses text word) := by
  have htruncations : (Edits.truncations word).any (dictionary.licenses · word) = true ↔
      ∃ text, IsTruncation text word ∧ dictionary.Licenses text word := by
    simp [List.any_eq_true, Edits.mem_truncations, licenses_eq_true_iff]
  rw [← htruncations]
  unfold passes at h
  cases hany : (Edits.truncations word).any (dictionary.licenses · word) <;>
    simp [suggest, hknown, h, hfound, hany]

/-- After passes without a confirmation, the answer is empty if they found no suggestion and a
truncation licenses the word. -/
theorem suggest_eq_nil_iff_of_passes (hknown : dictionary.isKnown word = false)
    (hpasses : dictionary.passes word = some search) :
    dictionary.suggest word = [] ↔
      search.found = [] ∧ ∃ text, IsTruncation text word ∧ dictionary.Licenses text word := by
  obtain hfound | hfound := eq_or_ne search.found []
  · obtain ⟨hanswer, hlicensed⟩ | ⟨hanswer, hnone⟩ :=
      suggest_of_found_eq_nil hknown hpasses hfound
    · simp [hanswer, hfound, hlicensed]
    · simp [hanswer, hnone]
  · simp [suggest_of_found_ne_nil hknown hpasses hfound, hfound]

/-! ### The outcome of the passes -/

/-- **When the passes confirm a word.** Some neighbour is in the dictionary and licenses it. -/
theorem WellFormed.passes_eq_none_iff (h : dictionary.WellFormed) :
    dictionary.passes word = none ↔
      ∃ text, dictionary.affixes.Neighbour word text ∧ dictionary.Licenses text word := by
  rw [passes, Search.run_eq_none_iff h (Search.harmless_start dictionary word)
    fun text htext => ((phrase_mem_candidates_iff h.affixes).1 htext).space_mem]
  refine exists_congr fun text => and_congr_left fun hlicenses => ?_
  have hspace := (h.solid_of_contains hlicenses.contains).space_notMem
  exact ⟨neighbour_of_word_mem_candidates h.affixes,
    fun hneighbour => word_mem_candidates_of_neighbour h.affixes hneighbour hspace⟩

/-- The suggestions for a word without a space are its accepted candidates, each at its first
place. -/
theorem WellFormed.found_of_passes (h : dictionary.WellFormed) (hspace : ' ' ∉ word)
    (hpasses : dictionary.passes word = some search) :
    search.found = (dictionary.acceptedTexts (dictionary.candidates word)).eraseDups := by
  rw [Search.found_of_run rfl (fun text => space_notMem_of_word_mem_candidates h.affixes hspace)
    hpasses, foldl_appendNew_nil]

/-- **When the passes find no suggestion.** No neighbour of the word is in the dictionary, and it
has no phrase. -/
theorem WellFormed.found_eq_nil_iff (h : dictionary.WellFormed) (hspace : ' ' ∉ word)
    (hpasses : dictionary.passes word = some search) :
    search.found = [] ↔
      (∀ text, dictionary.affixes.Neighbour word text → dictionary.contains text = false) ∧
        ∀ text, ¬dictionary.Phrase word text := by
  rw [List.eq_nil_iff_forall_not_mem, h.found_of_passes hspace hpasses]
  simp only [List.mem_eraseDups, mem_acceptedTexts, not_exists, not_and]
  constructor
  · intro hnone
    constructor
    · intro text hneighbour
      by_contra hcontains
      have hcontains : dictionary.contains text = true := by simpa using hcontains
      have hmem := word_mem_candidates_of_neighbour h.affixes hneighbour
        (h.solid_of_contains hcontains).space_notMem
      exact hnone text (.word text) hmem hcontains rfl
    · intro text hphrase
      exact hnone text (.phrase text) ((phrase_mem_candidates_iff h.affixes).2 hphrase) rfl rfl
  · rintro ⟨hneighbours, hphrases⟩ _ candidate hmem haccepts rfl
    cases candidate with
    | word text =>
      have hcontains := hneighbours text (neighbour_of_word_mem_candidates h.affixes hmem)
      simp [hcontains] at haccepts
    | phrase text => exact hphrases text ((phrase_mem_candidates_iff h.affixes).1 hmem)

/-! ### Acceptance -/

/-- **When the answer for a word is empty.** The word is known; or a neighbour in the dictionary
licenses it; or no neighbour is in the dictionary, there is no phrase, and a beginning or an end of
the word licenses it. -/
theorem suggest_eq_nil_iff {grammar words name : Text}
    (h : (ofTexts grammar words name).result = .ok dictionary) (word : Text) :
    dictionary.suggest word = [] ↔
      dictionary.isKnown word = true ∨
      (∃ text, dictionary.affixes.Neighbour word text ∧ dictionary.Licenses text word) ∨
      ((∀ text, dictionary.affixes.Neighbour word text → dictionary.contains text = false) ∧
        (∀ text, ¬dictionary.Phrase word text) ∧
        ∃ text, IsTruncation text word ∧ dictionary.Licenses text word) := by
  have hwf := wellFormed_of_ofTexts h
  rw [← hwf.passes_eq_none_iff]
  cases hknown : dictionary.isKnown word with
  | true => simp [suggest_of_isKnown hknown]
  | false =>
    cases hpasses : dictionary.passes word with
    | none => simp [suggest_of_passes_eq_none hpasses]
    | some search =>
      rw [suggest_eq_nil_iff_of_passes hknown hpasses, ← and_assoc]
      simp only [Bool.false_eq_true, reduceCtorEq, false_or]
      -- a licensed word has no space, so what was refused had no part in what was found
      exact and_congr_left fun ⟨_, _, hlicenses⟩ =>
        hwf.found_eq_nil_iff (hwf.solid_of_licenses hlicenses).space_notMem hpasses

/-- With `cat` in the dictionary and a rule that appends `s`, the answer for `cats` is empty,
although the dictionary word `ats` is one deletion away and is tried first. -/
theorem suggest_cats_eq_nil :
    ∃ dictionary,
      (ofTexts "SFX A Y 1\nSFX A 0 s .\n".toList "2\nats\ncat/A\n".toList "en".toList).result =
          .ok dictionary ∧
        dictionary.contains "ats".toList = true ∧ dictionary.suggest "cats".toList = [] := by
  obtain ⟨dictionary, hbuilt, h⟩ := Logged.exists_result_eq_ok
    (p := fun dictionary => dictionary.contains "ats".toList &&
      dictionary.licenses "cat".toList "cats".toList)
    (show (ofTexts "SFX A Y 1\nSFX A 0 s .\n".toList "2\nats\ncat/A\n".toList
      "en".toList).result.toOption.any _ = true by decide +kernel)
  obtain ⟨hats, hcat⟩ := Bool.and_eq_true_iff.1 h
  refine ⟨dictionary, hbuilt, hats, (suggest_eq_nil_iff hbuilt "cats".toList).2 ?_⟩
  exact Or.inr (Or.inl ⟨"cat".toList, .deletion "cat".toList 's' [], licenses_eq_true_iff.1 hcat⟩)

end AffixSpeller.Dictionary
