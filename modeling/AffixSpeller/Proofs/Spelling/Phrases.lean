import AffixSpeller.Proofs.Spelling.Acceptance

/-!
# Which phrases are suggested

A search looks at a text once. A text with a space may come up in two ways, as a single word, which
no dictionary has, or as a phrase whose parts are in the dictionary; whichever comes first decides.
In the order of the candidates, only the deletions stand before the texts that the replacement table
makes. So a phrase of the table is suggested unless the word, which then has a space itself, becomes
that phrase by leaving out one character.

## Main results

* `Search.mem_found_iff_of_isSettled`: what was tried once is found later only if it was found then.
* `Search.mem_found_iff_find?`: the first candidate with a text decides whether it is found.
* `Dictionary.replaced_mem_suggest_iff`: which phrases of the replacement table are suggested.
-/

namespace AffixSpeller

namespace Search

variable {dictionary : Dictionary} {word text : Text} {search next : Search} {candidate : Candidate}
  {candidates : List Candidate}

theorem notMem_found (h : search.isSettled text = false) : text ∉ search.found := by
  intro hmem
  simp [isSettled, hmem] at h

theorem found_refuse (search : Search) (text : Text) : (search.refuse text).found = search.found := by
  unfold refuse
  split_ifs <;> rfl

/-- A step settles the text of its candidate, if that has a space, and no other one. -/
theorem isSettled_of_step (hspace : ' ' ∈ text)
    (hstep : search.step dictionary word candidate = some next) :
    next.isSettled text = true ↔ search.isSettled text = true ∨ text = candidate.text := by
  obtain ⟨hold, rfl⟩ | ⟨-, -, rfl⟩ | ⟨-, -, rfl⟩ := step_eq_some hstep
  · exact (or_iff_left_of_imp fun h => h ▸ hold).symm
  · rw [isSettled_refuse, Bool.or_eq_true, Bool.and_eq_true, decide_eq_true_eq, beq_iff_eq]
    exact or_congr_right (and_iff_right_of_imp fun h => h ▸ hspace)
  · rw [isSettled_add, Bool.or_eq_true, beq_iff_eq]

/-- A step finds a new text only if it is accepted and nothing has settled it before. -/
theorem mem_found_of_step_iff (hstep : search.step dictionary word candidate = some next) :
    text ∈ next.found ↔ text ∈ search.found ∨
      (search.isSettled text = false ∧ dictionary.accepts candidate = true ∧
        text = candidate.text) := by
  obtain ⟨hold, rfl⟩ | ⟨hnew, hreject, rfl⟩ | ⟨hnew, haccept, rfl⟩ := step_eq_some hstep
  · refine (or_iff_left ?_).symm
    rintro ⟨hnew, -, rfl⟩
    simp [hold] at hnew
  · simp [found_refuse, hreject]
  · simp only [add, List.mem_append, List.mem_singleton, haccept, true_and]
    exact or_congr_right (iff_and_self.2 fun h => h ▸ hnew)

/-- What was tried once is found later only if it was found then. -/
theorem mem_found_iff_of_isSettled (hspace : ' ' ∈ text) (h : search.isSettled text = true)
    (hrun : run dictionary word search candidates = some next) :
    text ∈ next.found ↔ text ∈ search.found := by
  induction candidates generalizing search with
  | nil =>
    cases hrun
    rfl
  | cons candidate candidates ih =>
    rw [run] at hrun
    cases hstep : search.step dictionary word candidate with
    | none => simp [hstep] at hrun
    | some mid =>
      simp only [hstep] at hrun
      rw [ih ((isSettled_of_step hspace hstep).2 (Or.inl h)) hrun, mem_found_of_step_iff hstep]
      simp [h]

/-- **The first candidate with a text decides.** A text with a space that was not tried before is
found if and only if it comes up as a phrase before it comes up as a single word. -/
theorem mem_found_iff_find? (hspace : ' ' ∈ text) (hcontains : dictionary.contains text = false)
    (hnew : search.isSettled text = false)
    (hrun : run dictionary word search candidates = some next) :
    text ∈ next.found ↔ candidates.find? (·.text == text) = some (.phrase text) := by
  induction candidates generalizing search with
  | nil =>
    cases hrun
    simp [notMem_found hnew]
  | cons candidate candidates ih =>
    rw [run] at hrun
    cases hstep : search.step dictionary word candidate with
    | none => simp [hstep] at hrun
    | some mid =>
      simp only [hstep] at hrun
      have hsettled := isSettled_of_step hspace hstep
      by_cases htext : candidate.text = text
      · rw [mem_found_iff_of_isSettled hspace (hsettled.2 (Or.inr htext.symm)) hrun,
          mem_found_of_step_iff hstep, List.find?_cons_of_pos (by simpa using htext),
          or_iff_right (notMem_found hnew)]
        subst htext
        cases candidate with
        | word text => simp [show dictionary.contains text = false from hcontains]
        | phrase text => simpa using hnew
      · have hmid : mid.isSettled text = false := by
          rw [← Bool.not_eq_true, hsettled, hnew]
          simpa using Ne.symm htext
        rw [ih hmid hrun, List.find?_cons_of_neg (by simpa using htext)]

end Search

/-- A candidate is the first one with its text if no other one has it. -/
theorem Candidate.find?_text_eq_some {candidates : List Candidate} {candidate : Candidate}
    (hmem : candidate ∈ candidates)
    (honly : ∀ other ∈ candidates, other.text = candidate.text → other = candidate) :
    candidates.find? (·.text == candidate.text) = some candidate := by
  cases hfind : candidates.find? (·.text == candidate.text) with
  | none => simpa using List.find?_eq_none.1 hfind candidate hmem
  | some other =>
    have htext : other.text = candidate.text := by simpa using List.find?_some hfind
    rw [honly other (List.mem_of_find?_eq_some hfind) htext]

/-- A word is none of its own deletions. -/
theorem Edits.ne_of_mem_deletions {word text : Text} (h : text ∈ Edits.deletions word) :
    text ≠ word := by
  obtain ⟨l, c, r, rfl, rfl⟩ := Edits.mem_deletions.1 h
  intro heq
  simpa using congrArg List.length heq

namespace Dictionary

variable {dictionary : Dictionary} {word text : Text} {search : Search}

/-- The first candidate with the text of a phrase of the replacement table: a single word, if the
text is a deletion, and else the phrase. -/
theorem find?_candidates_of_replaced (hspace : ' ' ∈ text)
    (hphrase : .phrase text ∈ dictionary.replacementCandidates word) :
    (dictionary.candidates word).find? (·.text == text) =
      if text ∈ Edits.deletions word then some (.word text) else some (.phrase text) := by
  have hreplaced : (dictionary.replacementCandidates word).find? (·.text == text) =
      some (.phrase text) := by
    refine Candidate.find?_text_eq_some hphrase fun other hother htext => ?_
    obtain ⟨replaced, -, hreplaced⟩ := List.mem_filterMap.1 hother
    obtain ⟨hnone, rfl⟩ | ⟨-, -, rfl⟩ := ofReplaced_eq_some_iff.1 hreplaced
    · rw [Candidate.text_word] at htext
      exact absurd (htext ▸ hspace) hnone
    · exact congrArg Candidate.phrase htext
  simp only [candidates, List.append_assoc, List.find?_append, hreplaced]
  split_ifs with hdeletion
  · have hword : ((Edits.deletions word).map Candidate.word).find? (·.text == text) =
        some (.word text) := by
      have hmem : .word text ∈ (Edits.deletions word).map Candidate.word :=
        List.mem_map_of_mem hdeletion
      refine Candidate.find?_text_eq_some hmem fun other hother htext => ?_
      obtain ⟨deleted, -, rfl⟩ := List.mem_map.1 hother
      exact congrArg Candidate.word htext
    rw [hword]
    rfl
  · have hnone : ((Edits.deletions word).map Candidate.word).find? (·.text == text) = none := by
      rw [List.find?_eq_none]
      intro other hother
      obtain ⟨deleted, hdeleted, rfl⟩ := List.mem_map.1 hother
      have hne : deleted ≠ text := fun h => hdeletion (h ▸ hdeleted)
      simpa using hne
    rw [hnone]
    rfl

/-- The passes find a phrase of the replacement table unless it is a deletion of the word. -/
theorem WellFormed.replaced_mem_found_iff (h : dictionary.WellFormed)
    (hpasses : dictionary.passes word = some search) (hspace : ' ' ∈ text)
    (hphrase : .phrase text ∈ dictionary.replacementCandidates word) :
    text ∈ search.found ↔ text ∉ Edits.deletions word := by
  have hnew : ({} : Search).isSettled text = false := by simp [Search.isSettled, WordTrie.contains]
  rw [Search.mem_found_iff_find? hspace (h.contains_eq_false_of_space hspace) hnew hpasses,
    find?_candidates_of_replaced hspace hphrase]
  split_ifs with hdeletion <;> simp [hdeletion]

/-- **Which phrases of the replacement table are suggested.** Whenever there is an answer, it has
every text that an entry makes of the word and that consists of words of the dictionary between
spaces, unless the text is the word with one character left out. A word without a space has no such
text with one left out. -/
theorem replaced_mem_suggest_iff {grammar words name : Text}
    (h : (ofTexts grammar words name).result = .ok dictionary) {entry : Replacement}
    (hentry : entry ∈ dictionary.affixes.replacements) (hrewrites : entry.Rewrites word text)
    (hspace : ' ' ∈ text)
    (hparts : ∀ part ∈ text.splitOn ' ', part ≠ [] ∧ dictionary.contains part = true)
    (hanswer : dictionary.suggest word ≠ []) :
    (text ∈ dictionary.suggest word ↔ ¬∃ l c r, word = l ++ c :: r ∧ text = l ++ r) ∧
      (' ' ∉ word → text ∈ dictionary.suggest word) := by
  have hwf := wellFormed_of_ofTexts h
  obtain ⟨hknown, search, hpasses⟩ := exists_passes_of_suggest_ne_nil hanswer
  have hphrase : .phrase text ∈ dictionary.replacementCandidates word := by
    rw [mem_replacementCandidates hwf.affixes]
    refine ⟨entry, hentry, text, hrewrites, ofReplaced_eq_some_iff.2 (Or.inr ⟨hspace, ?_, rfl⟩)⟩
    simpa [containsParts] using hparts
  have hfound := hwf.replaced_mem_found_iff hpasses hspace hphrase
  have hiff : text ∈ dictionary.suggest word ↔ ¬∃ l c r, word = l ++ c :: r ∧ text = l ++ r := by
    rw [← Edits.mem_deletions, ← hfound]
    obtain hnil | hne := eq_or_ne search.found []
    · -- a word is none of its own deletions, so the echo of the word is not the phrase
      have hdeletion : text ∈ Edits.deletions word := by simpa [hnil] using hfound
      have hecho := (suggest_of_found_eq_nil hknown hpasses hnil).resolve_left
        fun h => hanswer h.1
      rw [hecho.1, hnil, List.mem_singleton]
      simpa using Edits.ne_of_mem_deletions hdeletion
    · rw [suggest_of_found_ne_nil hknown hpasses hne]
  refine ⟨hiff, fun hword => hiff.2 ?_⟩
  rintro ⟨l, c, r, rfl, rfl⟩
  simp_all

/-- In `a lodd`, the table makes `a lot` with a change of more than one character. -/
theorem a_lot_mem_suggest_a_lodd :
    ∃ dictionary,
      (ofTexts "REP 1\nREP dd t\n".toList "2\na\nlot\n".toList "en".toList).result =
          .ok dictionary ∧
        dictionary.suggest "a lodd".toList ≠ [] ∧
        "a lot".toList ∈ dictionary.suggest "a lodd".toList := by
  obtain ⟨dictionary, hbuilt, h⟩ := Logged.exists_result_eq_ok
    (p := fun dictionary : Dictionary =>
      dictionary.affixes.replacements == [⟨"dd".toList, "t".toList, false, false⟩] &&
      dictionary.containsParts "a lot".toList && !(dictionary.suggest "a lodd".toList).isEmpty)
    (show (ofTexts "REP 1\nREP dd t\n".toList "2\na\nlot\n".toList
      "en".toList).result.toOption.any _ = true by decide +kernel)
  obtain ⟨⟨htable, hparts⟩, hanswer⟩ :
      (dictionary.affixes.replacements = [⟨"dd".toList, "t".toList, false, false⟩] ∧
        dictionary.containsParts "a lot".toList = true) ∧
      dictionary.suggest "a lodd".toList ≠ [] := by simpa using h
  have hentry : ⟨"dd".toList, "t".toList, false, false⟩ ∈ dictionary.affixes.replacements := by
    rw [htable, List.mem_singleton]
  have hrewrites : Replacement.Rewrites ⟨"dd".toList, "t".toList, false, false⟩ "a lodd".toList
      "a lot".toList := .intro "a lo".toList [] (by simp) (by simp)
  refine ⟨dictionary, hbuilt, hanswer, ?_⟩
  refine (replaced_mem_suggest_iff hbuilt hentry hrewrites (by decide)
    (by simpa [containsParts] using hparts) hanswer).1.2 ?_
  rw [← Edits.mem_deletions]
  decide

/-- In `a lott`, the table makes a phrase that is lost, since it is also the word without one `t`:
it has been looked up as a single word before. -/
theorem suggest_a_lott_eq_echo :
    ∃ dictionary entry,
      (ofTexts "REP 1\nREP tt t\n".toList "2\na\nlot\n".toList "en".toList).result =
          .ok dictionary ∧
        entry ∈ dictionary.affixes.replacements ∧
        entry.Rewrites "a lott".toList "a lot".toList ∧
        (∀ part ∈ "a lot".toList.splitOn ' ', part ≠ [] ∧ dictionary.contains part = true) ∧
        dictionary.suggest "a lott".toList = ["a lott".toList] := by
  obtain ⟨dictionary, hbuilt, h⟩ := Logged.exists_result_eq_ok
    (p := fun dictionary : Dictionary =>
      dictionary.affixes.replacements == [⟨"tt".toList, "t".toList, false, false⟩] &&
      dictionary.containsParts "a lot".toList &&
      dictionary.suggest "a lott".toList == ["a lott".toList])
    (show (ofTexts "REP 1\nREP tt t\n".toList "2\na\nlot\n".toList
      "en".toList).result.toOption.any _ = true by decide +kernel)
  simp only [Bool.and_eq_true, beq_iff_eq] at h
  obtain ⟨⟨htable, hparts⟩, hanswer⟩ := h
  refine ⟨dictionary, ⟨"tt".toList, "t".toList, false, false⟩, hbuilt, ?_,
    .intro "a lo".toList [] (by simp) (by simp), by simpa [containsParts] using hparts, hanswer⟩
  rw [htable, List.mem_singleton]

end Dictionary

end AffixSpeller
