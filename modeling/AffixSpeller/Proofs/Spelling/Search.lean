import AffixSpeller.Proofs.Spelling.Neighbours

/-!
# What a search finds

A search goes through the candidates once and remembers what it has tried. What it remembers hides
no confirmation: it never holds a text that licenses the word. If the word has no space, what it
remembers hides no suggestion either, since the single words tried have no space and the phrases
have one; the suggestions are then the accepted candidates, each at its first place.

## Main definitions

* `Dictionary.Licenses`: a text is in the dictionary with flags that license a word.
* `Dictionary.accepts`, `Dictionary.acceptedTexts`: whether a candidate is a suggestion when it is
  tried first, and the texts of those that are.
* `Search.Harmless`: nothing that was tried licenses the word.

## Main results

* `Search.step_eq_none_iff`, `Search.step_eq_some`: what one step does.
* `Search.run_eq_none_iff`: when a search ends with a confirmation.
* `Search.mem_found_of_run`: what a search finds was accepted.
* `Search.found_of_run`: what a search has found at its end.
-/

namespace AffixSpeller

namespace Dictionary

variable {dictionary : Dictionary} {text word : Text}

/-- The text is a word of the dictionary, and the other text is among the forms that its flags
license. -/
def Licenses (dictionary : Dictionary) (text word : Text) : Prop :=
  ∃ entry, dictionary.lookup text = some entry ∧ word ∈ (dictionary.expand entry).forms

theorem licenses_eq_true_iff :
    dictionary.licenses text word = true ↔ dictionary.Licenses text word := by
  unfold licenses Licenses
  cases dictionary.lookup text <;> simp [Expansion.contains]

theorem Licenses.contains (h : dictionary.Licenses text word) :
    dictionary.contains text = true := by
  obtain ⟨entry, hentry, -⟩ := h
  exact contains_iff_exists_lookup.2 ⟨entry, hentry⟩

/-- Only solid texts are licensed. -/
theorem WellFormed.solid_of_licenses (h : dictionary.WellFormed)
    (hlicenses : dictionary.Licenses text word) : Text.Solid word := by
  obtain ⟨entry, hentry, hword⟩ := hlicenses
  refine h.affixes.solid_of_mem_forms ?_ hword
  rw [word_of_lookup hentry]
  exact h.solid_of_contains (contains_iff_exists_lookup.2 ⟨entry, hentry⟩)

/-- Whether the candidate is a suggestion, provided that it does not license the word and was not
tried before. -/
def accepts (dictionary : Dictionary) : Candidate → Bool
  | .word text => dictionary.contains text
  | .phrase _ => true

@[simp] theorem accepts_word : dictionary.accepts (.word text) = dictionary.contains text := rfl

@[simp] theorem accepts_phrase : dictionary.accepts (.phrase text) = true := rfl

end Dictionary

/-- The text of a candidate. -/
def Candidate.text : Candidate → Text
  | word text => text
  | phrase text => text

@[simp] theorem Candidate.text_word (text : Text) : (word text).text = text := rfl

@[simp] theorem Candidate.text_phrase (text : Text) : (phrase text).text = text := rfl

/-- The texts of the accepted candidates. -/
def Dictionary.acceptedTexts (dictionary : Dictionary) (candidates : List Candidate) : List Text :=
  (candidates.filter dictionary.accepts).map Candidate.text

namespace Dictionary

variable {dictionary : Dictionary} {text : Text}

@[simp] theorem acceptedTexts_nil : dictionary.acceptedTexts [] = [] := rfl

@[simp] theorem acceptedTexts_cons (candidate : Candidate) (candidates : List Candidate) :
    dictionary.acceptedTexts (candidate :: candidates) =
      if dictionary.accepts candidate then candidate.text :: dictionary.acceptedTexts candidates
      else dictionary.acceptedTexts candidates := by
  cases h : dictionary.accepts candidate <;> simp [acceptedTexts, h]

@[simp] theorem acceptedTexts_append (cs ds : List Candidate) :
    dictionary.acceptedTexts (cs ++ ds) =
      dictionary.acceptedTexts cs ++ dictionary.acceptedTexts ds := by
  simp [acceptedTexts]

theorem mem_acceptedTexts {candidates : List Candidate} :
    text ∈ dictionary.acceptedTexts candidates ↔
      ∃ candidate ∈ candidates, dictionary.accepts candidate = true ∧ candidate.text = text := by
  simp [acceptedTexts, and_assoc]

end Dictionary

namespace Search

variable {dictionary : Dictionary} {word : Text} {search next : Search} {candidate : Candidate}
  {candidates : List Candidate}

/-! ### One step -/

theorem isSettled_add (search : Search) (text other : Text) :
    (search.add text).isSettled other = (search.isSettled other || other == text) := by
  by_cases h : other = text <;> simp [isSettled, add, h, Bool.or_comm]

theorem isSettled_refuse (search : Search) (text other : Text) :
    (search.refuse text).isSettled other =
      (search.isSettled other || (decide (' ' ∈ text) && other == text)) := by
  unfold refuse
  split_ifs with hspace
  · have hmem : ' ' ∈ text := by simpa using hspace
    have hne : text ≠ [] := List.ne_nil_of_mem hmem
    rw [isSettled, WordTrie.contains_insert _ hne]
    simp only [isSettled, hmem, decide_true, Bool.true_and]
    cases search.found.contains other <;> simp [Bool.or_comm]
  · have hmem : ' ' ∉ text := by simpa using hspace
    simp [hmem]

/-- A step ends the search if and only if it tries a text that licenses the word. -/
theorem step_eq_none_iff :
    search.step dictionary word candidate = none ↔
      ∃ text, candidate = .word text ∧ search.isSettled text = false ∧
        dictionary.Licenses text word := by
  cases candidate with
  | word text =>
    simp only [step, Candidate.word.injEq, exists_eq_left', ← Dictionary.licenses_eq_true_iff,
      Dictionary.licenses]
    cases search.isSettled text with
    | true => simp
    | false =>
      cases dictionary.lookup text with
      | none => simp
      | some entry => simp
  | phrase text =>
    simp only [step, reduceCtorEq, false_and, exists_false, iff_false]
    split_ifs <;> simp

/-- A step that does not end the search passes over a settled text, refuses a text that is not in
the dictionary, or adds a suggestion. -/
theorem step_eq_some (h : search.step dictionary word candidate = some next) :
    (search.isSettled candidate.text = true ∧ next = search) ∨
      (search.isSettled candidate.text = false ∧ dictionary.accepts candidate = false ∧
        next = search.refuse candidate.text) ∨
      (search.isSettled candidate.text = false ∧ dictionary.accepts candidate = true ∧
        next = search.add candidate.text) := by
  cases candidate with
  | word text =>
    simp only [step, Candidate.text_word, Dictionary.accepts_word,
      Dictionary.contains_eq_isSome_lookup] at h ⊢
    cases hsettled : search.isSettled text with
    | true => simp_all
    | false =>
      cases hlookup : dictionary.lookup text with
      | none => simp_all
      | some entry => simp_all
  | phrase text =>
    simp only [step, Candidate.text_phrase, Dictionary.accepts_phrase] at h ⊢
    cases hsettled : search.isSettled text <;> simp_all

/-! ### Confirmations -/

/-- Nothing that was tried licenses the word. -/
def Harmless (dictionary : Dictionary) (word : Text) (search : Search) : Prop :=
  ∀ text, search.isSettled text = true → ¬dictionary.Licenses text word

theorem harmless_start (dictionary : Dictionary) (word : Text) : Harmless dictionary word {} := by
  intro text h
  simp [isSettled, WordTrie.contains] at h

/-- A step that does not end the search keeps it harmless. -/
theorem Harmless.step (hdictionary : dictionary.WellFormed)
    (h : Harmless dictionary word search)
    (hphrase : ∀ text, candidate = .phrase text → ' ' ∈ text)
    (hstep : search.step dictionary word candidate = some next) :
    Harmless dictionary word next := by
  intro other hother
  obtain ⟨-, rfl⟩ | ⟨-, hreject, rfl⟩ | ⟨hnew, -, rfl⟩ := step_eq_some hstep
  · exact h other hother
  · rw [isSettled_refuse, Bool.or_eq_true] at hother
    obtain hother | hother := hother
    · exact h other hother
    · obtain ⟨-, rfl⟩ : ' ' ∈ candidate.text ∧ other = candidate.text := by simpa using hother
      intro hlicenses
      cases candidate with
      | word text =>
        have hcontains : dictionary.contains text = true := hlicenses.contains
        simp [hcontains] at hreject
      | phrase text => simp at hreject
  · rw [isSettled_add, Bool.or_eq_true] at hother
    obtain hother | hother := hother
    · exact h other hother
    · obtain rfl : other = candidate.text := by simpa using hother
      intro hlicenses
      cases candidate with
      | word text =>
        have hnone := step_eq_none_iff.2 ⟨text, rfl, hnew, hlicenses⟩
        simp [hnone] at hstep
      | phrase text =>
        have hcontains : dictionary.contains text = true := hlicenses.contains
        simp [hdictionary.contains_eq_false_of_space (hphrase text rfl)] at hcontains

/-- **When a search ends with a confirmation.** Neither what was tried before nor what was found
before hides a text that licenses the word. -/
theorem run_eq_none_iff (hdictionary : dictionary.WellFormed)
    (h : Harmless dictionary word search)
    (hphrase : ∀ text, .phrase text ∈ candidates → ' ' ∈ text) :
    run dictionary word search candidates = none ↔
      ∃ text, .word text ∈ candidates ∧ dictionary.Licenses text word := by
  induction candidates generalizing search with
  | nil => simp [run]
  | cons candidate candidates ih =>
    rw [run]
    cases hstep : search.step dictionary word candidate with
    | none =>
      obtain ⟨text, rfl, -, hlicenses⟩ := step_eq_none_iff.1 hstep
      simp only [true_iff]
      exact ⟨text, List.mem_cons_self, hlicenses⟩
    | some next =>
      have hnext := h.step hdictionary
        (fun text htext => hphrase text (htext ▸ List.mem_cons_self)) hstep
      rw [ih hnext fun text htext => hphrase text (List.mem_cons_of_mem candidate htext)]
      refine exists_congr fun text => and_congr_left fun hlicenses => ?_
      -- the candidate of this step is not the one that licenses the word
      have hne : .word text ≠ candidate := by
        rintro rfl
        have hnew : search.isSettled text = false := by
          by_contra hsettled
          exact h text (by simpa using hsettled) hlicenses
        simp [step_eq_none_iff.2 ⟨text, rfl, hnew, hlicenses⟩] at hstep
      simp [hne]

/-! ### Suggestions -/

/-- What a step adds is the text of its candidate, which is accepted. -/
theorem mem_found_of_step {text : Text}
    (hstep : search.step dictionary word candidate = some next) (h : text ∈ next.found) :
    text ∈ search.found ∨ (dictionary.accepts candidate = true ∧ candidate.text = text) := by
  obtain ⟨-, rfl⟩ | ⟨-, -, rfl⟩ | ⟨-, haccept, rfl⟩ := step_eq_some hstep
  · exact Or.inl h
  · refine Or.inl ?_
    unfold refuse at h
    split_ifs at h <;> exact h
  · obtain h | h := List.mem_append.1 h
    · exact Or.inl h
    · exact Or.inr ⟨haccept, (List.mem_singleton.1 h).symm⟩

/-- Whatever was tried before, a search finds only the texts of accepted candidates. -/
theorem mem_found_of_run {text : Text}
    (hrun : run dictionary word search candidates = some next) (h : text ∈ next.found) :
    text ∈ search.found ∨ text ∈ dictionary.acceptedTexts candidates := by
  induction candidates generalizing search with
  | nil =>
    cases hrun
    exact Or.inl h
  | cons candidate candidates ih =>
    rw [run] at hrun
    cases hstep : search.step dictionary word candidate with
    | none => simp [hstep] at hrun
    | some mid =>
      simp only [hstep] at hrun
      rw [Dictionary.acceptedTexts_cons]
      obtain hmid | hlater := ih hrun
      · obtain hold | ⟨haccept, rfl⟩ := mem_found_of_step hstep hmid
        · exact Or.inl hold
        · simp [haccept]
      · split_ifs
        · exact Or.inr (List.mem_cons_of_mem _ hlater)
        · exact Or.inr hlater

/-- A step without refused texts adds an accepted candidate unless it was found before. -/
theorem found_of_step (hrefused : search.refused = .empty)
    (hword : ∀ text, candidate = .word text → ' ' ∉ text)
    (hstep : search.step dictionary word candidate = some next) :
    next.refused = .empty ∧
      next.found =
        if dictionary.accepts candidate then appendNew search.found candidate.text
        else search.found := by
  have hsettled : search.isSettled candidate.text = search.found.contains candidate.text := by
    simp [isSettled, hrefused, WordTrie.contains]
  obtain ⟨hold, rfl⟩ | ⟨-, hreject, rfl⟩ | ⟨hnew, haccept, rfl⟩ := step_eq_some hstep
  · rw [hsettled] at hold
    simp [hrefused, appendNew, show candidate.text ∈ next.found by simpa using hold]
  · cases candidate with
    | word text => simp [refuse, hword text rfl, hrefused, hreject]
    | phrase text => simp at hreject
  · rw [hsettled] at hnew
    simp [haccept, add, hrefused, appendNew, show candidate.text ∉ search.found by simpa using hnew]

/-- **What a search has found at its end.** If the single words tried have no space, it is the
accepted candidates, each at its first place. -/
theorem found_of_run (hrefused : search.refused = .empty)
    (hword : ∀ text, .word text ∈ candidates → ' ' ∉ text)
    (hrun : run dictionary word search candidates = some next) :
    next.found = (dictionary.acceptedTexts candidates).foldl appendNew search.found := by
  induction candidates generalizing search with
  | nil =>
    cases hrun
    rfl
  | cons candidate candidates ih =>
    rw [run] at hrun
    cases hstep : search.step dictionary word candidate with
    | none => simp [hstep] at hrun
    | some mid =>
      obtain ⟨hmid, hfound⟩ := found_of_step hrefused
        (fun text htext => hword text (htext ▸ List.mem_cons_self)) hstep
      simp only [hstep] at hrun
      rw [ih hmid (fun text htext => hword text (List.mem_cons_of_mem candidate htext)) hrun,
        hfound]
      cases haccept : dictionary.accepts candidate <;> simp [haccept]

end Search

end AffixSpeller
