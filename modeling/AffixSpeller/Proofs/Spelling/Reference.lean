import AffixSpeller.Proofs.Spelling.Acceptance
import AffixSpeller.Proofs.Text.LetterCase

/-!
# A plain reference for the suggestions

The suggestions for a word can be read off a list of texts without any search: all edits of the
word, one kind after the other and each kind by the position in the word, of which those in the
dictionary are kept, each at its first place. What the search remembers, what it refuses, and the
edits it does not list since they change nothing leave no trace in the answer.

## Main definitions

* `Reference.deletions`, `Reference.replacements`, `Reference.substitutions`,
  `Reference.insertions`, `Reference.transpositions`, `Reference.splits`: the edits by position.
* `Reference.keeps`: whether a text is kept.
* `Reference.suggestions`: the kept texts, each at its first place.

## Main results

* `Reference.found_of_passes`: what the passes find are the suggestions of the reference.
* `Reference.suggest_eq_suggestions`: every answer that is not empty is the one of the reference.
-/

namespace AffixSpeller

namespace Reference

/-! ### Edits by position -/

/-- One character is left out. -/
def deletions (word : Text) : List Text :=
  (List.range word.length).map fun i => word.take i ++ word.drop (i + 1)

/-- Whether the entry's pattern stands at a position, which is one that the entry is tied to. -/
def occursAt (entry : Replacement) (word : Text) (i : Nat) : Bool :=
  entry.pattern.isPrefixOf (word.drop i) && (!entry.atStart || i == 0)
    && (!entry.atEnd || i + entry.pattern.length == word.length)

/-- One occurrence of the entry's pattern is replaced. -/
def replacements (entry : Replacement) (word : Text) : List Text :=
  ((List.range word.length).filter (occursAt entry word)).map fun i =>
    word.take i ++ entry.replacement ++ word.drop (i + entry.pattern.length)

/-- One character is changed to the letter. -/
def substitutions (letter : Char) (word : Text) : List Text :=
  (List.range word.length).map fun i => word.take i ++ letter :: word.drop (i + 1)

/-- The letter is put in. -/
def insertions (letter : Char) (word : Text) : List Text :=
  (List.range (word.length + 1)).map fun i => word.take i ++ letter :: word.drop i

/-- Two neighbouring characters are swapped. -/
def transpositions (word : Text) : List Text :=
  (List.range (word.length - 1)).map fun i =>
    word.take i ++ ((word.drop i).take 2).reverse ++ word.drop (i + 2)

/-- The word is cut in two. -/
def cuts (word : Text) : List (Text × Text) :=
  (List.range (word.length - 1)).map fun i => (word.take (i + 1), word.drop (i + 1))

/-- A word of more than three characters is cut in two, first as it stands everywhere and then with
both parts capitalized. -/
def splits (word : Text) : List Text :=
  if 3 < word.length then
    (cuts word).map (fun (l, r) => l ++ ' ' :: r)
      ++ (cuts word).map fun (l, r) => Text.capitalize l ++ ' ' :: Text.capitalize r
  else []

/-! ### Suggestions -/

variable (dictionary : Dictionary) (word : Text)

/-- All edits of a word, in order. -/
def candidates : List Text :=
  deletions word
    ++ dictionary.affixes.replacements.flatMap (replacements · word)
    ++ dictionary.affixes.tryCharacters.flatMap (substitutions · word)
    ++ dictionary.affixes.tryCharacters.flatMap (insertions · word)
    ++ transpositions word
    ++ splits word

/-- Whether a text is a word of the dictionary, or a text with spaces that has only words of the
dictionary between them. -/
def keeps (text : Text) : Bool :=
  if ' ' ∈ text then (text.splitOn ' ').all fun part => !part.isEmpty && dictionary.contains part
  else dictionary.contains text

/-- The kept edits of a word, each at its first place. -/
def suggestions : List Text :=
  ((candidates dictionary word).filter (keeps dictionary)).eraseDups

end Reference

/-! ### The lists of edits are the edits by position -/

namespace Edits

theorem deletions_eq (word : Text) : deletions word = Reference.deletions word := by
  induction word with
  | nil => rfl
  | cons c cs ih =>
    rw [deletions, ih]
    simp [Reference.deletions, List.range_succ_eq_map, Function.comp_def]

theorem insertions_eq (letter : Char) (word : Text) :
    insertions letter word = Reference.insertions letter word := by
  induction word with
  | nil => rfl
  | cons c cs ih =>
    rw [insertions, ih]
    simp [Reference.insertions, List.range_succ_eq_map, Function.comp_def]

/-- Substitutions that change nothing are not listed. -/
theorem substitutions_eq (letter : Char) (word : Text) :
    substitutions letter word = (Reference.substitutions letter word).filter (· ≠ word) := by
  induction word with
  | nil => rfl
  | cons c cs ih =>
    have hcons : Reference.substitutions letter (c :: cs) =
        (letter :: cs) :: (Reference.substitutions letter cs).map (c :: ·) := by
      simp [Reference.substitutions, List.range_succ_eq_map, Function.comp_def]
    rw [substitutions, ih, hcons]
    by_cases hc : c = letter
    · simp [hc, List.filter_map, Function.comp_def]
    · simp [hc, Ne.symm hc, List.filter_map, Function.comp_def]

/-- Transpositions that change nothing are not listed. -/
theorem transpositions_eq (word : Text) :
    transpositions word = (Reference.transpositions word).filter (· ≠ word) := by
  induction word with
  | nil => rfl
  | cons c cs ih =>
    cases cs with
    | nil => rfl
    | cons d ds =>
      have hcons : Reference.transpositions (c :: d :: ds) =
          (d :: c :: ds) :: (Reference.transpositions (d :: ds)).map (c :: ·) := by
        simp [Reference.transpositions, List.range_succ_eq_map, Function.comp_def]
      rw [transpositions, ih, hcons]
      by_cases hc : c = d
      · simp [hc, List.filter_map, Function.comp_def]
      · simp [hc, Ne.symm hc, List.filter_map, Function.comp_def]

theorem cuts_eq (word : Text) : cuts word = Reference.cuts word := by
  induction word with
  | nil => rfl
  | cons c cs ih =>
    cases cs with
    | nil => rfl
    | cons d ds =>
      rw [cuts, ih]
      simp [Reference.cuts, List.range_succ_eq_map, Function.comp_def]

private theorem occursAt_succ (entry : Replacement) (isStart : Bool) (c : Char) (cs : Text)
    (i : Nat) :
    (Reference.occursAt entry (c :: cs) (i + 1) && (!entry.atStart || isStart)) =
      (Reference.occursAt entry cs i && (!entry.atStart || false)) := by
  have hend : (i + 1 + entry.pattern.length == cs.length + 1) =
      (i + entry.pattern.length == cs.length) := by
    rw [Bool.eq_iff_iff, beq_iff_eq, beq_iff_eq]
    omega
  simp only [Reference.occursAt, List.drop_succ_cons, List.length_cons, hend]
  cases entry.atStart <;> simp

/-- The entry applies at the front of the text if the text starts with its pattern and the ends
agree. -/
private theorem occursAt_zero {entry : Replacement} {isStart : Bool} {word : Text} :
    (Reference.occursAt entry word 0 && (!entry.atStart || isStart)) = true ↔
      ∃ rest, entry.pattern.isPrefixOf? word = some rest ∧
        ((entry.atStart && !isStart) || (entry.atEnd && !rest.isEmpty)) = false := by
  cases hrest : entry.pattern.isPrefixOf? word with
  | none =>
    have hno : ¬entry.pattern <+: word := by
      rintro ⟨rest, h⟩
      simp [List.isPrefixOf?_eq_some_iff_append_eq.2 h] at hrest
    simp [Reference.occursAt, hno]
  | some rest =>
    obtain rfl := List.isPrefixOf?_eq_some_iff_append_eq.1 hrest
    unfold Reference.occursAt
    cases entry.atStart <;> cases entry.atEnd <;> cases isStart <;> simp

/-- What is found from some character on is found at the positions from there on. -/
private theorem replacementsFrom_eq (entry : Replacement) (isStart : Bool) (word : Text) :
    replacementsFrom entry isStart word =
      ((List.range word.length).filter fun i =>
        Reference.occursAt entry word i && (!entry.atStart || isStart)).map fun i =>
        word.take i ++ entry.replacement ++ word.drop (i + entry.pattern.length) := by
  induction word generalizing isStart with
  | nil => rfl
  | cons c cs ih =>
    have hlater : (replacementsFrom entry false cs).map (c :: ·) =
        (((List.range cs.length).map Nat.succ).filter fun i =>
          Reference.occursAt entry (c :: cs) i && (!entry.atStart || isStart)).map fun i =>
          (c :: cs).take i ++ entry.replacement ++ (c :: cs).drop (i + entry.pattern.length) := by
      simp only [ih, List.filter_map, Function.comp_def, Nat.succ_eq_add_one, occursAt_succ,
        List.map_map]
      simp [Nat.add_right_comm _ 1]
    rw [replacementsFrom, List.length_cons, List.range_succ_eq_map, List.filter_cons, hlater]
    simp only [occursAt_zero]
    cases hrest : entry.pattern.isPrefixOf? (c :: cs) with
    | none => simp
    | some rest =>
      have hdrop : (c :: cs).drop entry.pattern.length = rest := by
        rw [← List.isPrefixOf?_eq_some_iff_append_eq.1 hrest, List.drop_left]
      simp only [Option.some.injEq, exists_eq_left']
      split_ifs <;> simp_all

theorem replacements_eq (entry : Replacement) (word : Text) :
    replacements entry word = Reference.replacements entry word := by
  simp [replacements, replacementsFrom_eq, Reference.replacements]

end Edits

/-! ### What is kept -/

namespace Reference

variable {dictionary : Dictionary} {word text l r : Text}

theorem keeps_of_space_notMem (h : ' ' ∉ text) :
    keeps dictionary text = dictionary.contains text := by
  simp [keeps, h]

theorem keeps_of_space_mem (h : ' ' ∈ text) :
    keeps dictionary text = dictionary.containsParts text := by
  simp [keeps, h, Dictionary.containsParts]

/-- Two parts with a space between them are kept if both are in the dictionary. -/
theorem keeps_append (hl : ' ' ∉ l) (hr : ' ' ∉ r) :
    keeps dictionary (l ++ ' ' :: r) = (dictionary.contains l && dictionary.contains r) := by
  have hsplit : (l ++ ' ' :: r).splitOn ' ' = [l, r] := by
    rw [List.splitOn_append_cons_self_of_not_mem hl, List.splitOn_eq_singleton hr]
  have hpart (part : Text) :
      (!part.isEmpty && dictionary.contains part) = dictionary.contains part := by
    cases part <;> simp
  rw [keeps_of_space_mem (by simp), Dictionary.containsParts, hsplit]
  simp [hpart]

/-- Candidates that are made of texts one by one are kept where the texts are. -/
private theorem acceptedTexts_filterMap {α : Type} {xs : List α} {f : α → Option Candidate}
    {g : α → Text}
    (h : ∀ x ∈ xs, dictionary.acceptedTexts (f x).toList = [g x].filter (keeps dictionary)) :
    dictionary.acceptedTexts (xs.filterMap f) = (xs.map g).filter (keeps dictionary) := by
  induction xs with
  | nil => rfl
  | cons x xs ih =>
    have hsplit : (x :: xs).filterMap f = (f x).toList ++ xs.filterMap f := by
      cases hx : f x <;> simp [hx]
    rw [hsplit, Dictionary.acceptedTexts_append, h x List.mem_cons_self,
      ih fun y hy => h y (List.mem_cons_of_mem x hy), ← List.filter_append]
    rfl

private theorem acceptedTexts_words {texts : List Text} (h : ∀ text ∈ texts, ' ' ∉ text) :
    dictionary.acceptedTexts (texts.map .word) = texts.filter (keeps dictionary) := by
  rw [← List.filterMap_eq_map, acceptedTexts_filterMap (g := id), List.map_id]
  intro text htext
  have hkeeps : keeps dictionary text = dictionary.contains text :=
    keeps_of_space_notMem (h text htext)
  cases hcontains : dictionary.contains text <;> simp [hkeeps, hcontains]

private theorem acceptedTexts_replaced (texts : List Text) :
    dictionary.acceptedTexts (texts.filterMap dictionary.ofReplaced) =
      texts.filter (keeps dictionary) := by
  rw [acceptedTexts_filterMap (g := id), List.map_id]
  intro text _
  by_cases hspace : ' ' ∈ text
  · have hkeeps : keeps dictionary text = dictionary.containsParts text := keeps_of_space_mem hspace
    cases hparts : dictionary.containsParts text <;>
      simp [Dictionary.ofReplaced, hkeeps, hspace, hparts]
  · have hkeeps : keeps dictionary text = dictionary.contains text := keeps_of_space_notMem hspace
    cases hcontains : dictionary.contains text <;>
      simp [Dictionary.ofReplaced, hkeeps, hspace, hcontains]

/-- The pairs are made of parts without spaces, which `f` gives none. -/
private theorem acceptedTexts_pairs {pairs : List (Text × Text)} {f : Text → Text}
    (hf : ∀ {text}, ' ' ∉ text → ' ' ∉ f text)
    (h : ∀ pair ∈ pairs, ' ' ∉ pair.1 ∧ ' ' ∉ pair.2) :
    dictionary.acceptedTexts (pairs.filterMap fun (l, r) => dictionary.pair? (f l) (f r)) =
      (pairs.map fun (l, r) => f l ++ ' ' :: f r).filter (keeps dictionary) := by
  refine acceptedTexts_filterMap fun (l, r) hpair => ?_
  obtain ⟨hl, hr⟩ := h (l, r) hpair
  have hkeeps : keeps dictionary (f l ++ ' ' :: f r) =
      (dictionary.contains (f l) && dictionary.contains (f r)) := keeps_append (hf hl) (hf hr)
  unfold Dictionary.pair?
  cases hboth : dictionary.contains (f l) && dictionary.contains (f r) <;> simp [hkeeps, hboth]

/-- Leaving out the word itself leaves out nothing that is kept. -/
private theorem filter_keeps_filter_ne (hspace : ' ' ∉ word)
    (hnew : dictionary.contains word = false) (texts : List Text) :
    (texts.filter (· ≠ word)).filter (keeps dictionary) = texts.filter (keeps dictionary) := by
  have hkeeps : keeps dictionary word = false := by rw [keeps_of_space_notMem hspace, hnew]
  rw [List.filter_filter]
  refine List.filter_congr fun text _ => ?_
  by_cases h : text = word <;> simp [h, hkeeps]

private theorem acceptedTexts_splits (hspace : ' ' ∉ word) :
    dictionary.acceptedTexts (dictionary.splitCandidates word) =
      (splits word).filter (keeps dictionary) := by
  have hcuts : ∀ pair ∈ Edits.cuts word, ' ' ∉ pair.1 ∧ ' ' ∉ pair.2 := by
    rintro ⟨l, r⟩ hpair
    obtain ⟨rfl, -, -⟩ := Edits.mem_cuts.1 hpair
    simpa using hspace
  unfold Dictionary.splitCandidates splits
  by_cases hlength : 3 < word.length
  · rw [if_neg (not_le.2 hlength), if_pos hlength, Dictionary.acceptedTexts_append,
      List.filter_append, ← Edits.cuts_eq, ← acceptedTexts_pairs Text.space_notMem_capitalize hcuts]
    exact congrArg (· ++ _) (acceptedTexts_pairs (f := id) id hcuts)
  · rw [if_pos (not_lt.1 hlength), if_neg hlength]
    rfl

/-- The candidates that are accepted are the edits by position that are kept. -/
theorem acceptedTexts_candidates (h : dictionary.WellFormed) (hspace : ' ' ∉ word)
    (hnew : dictionary.contains word = false) :
    dictionary.acceptedTexts (dictionary.candidates word) =
      (candidates dictionary word).filter (keeps dictionary) := by
  have hword {text : Text} (hmem : .word text ∈ dictionary.candidates word) : ' ' ∉ text :=
    Dictionary.space_notMem_of_word_mem_candidates h.affixes hspace hmem
  have hdeletions : dictionary.acceptedTexts ((Edits.deletions word).map .word) =
      (deletions word).filter (keeps dictionary) := by
    rw [← Edits.deletions_eq, acceptedTexts_words]
    exact fun text ht => hword (by simp [Dictionary.candidates, ht])
  have hreplacements : dictionary.acceptedTexts (dictionary.replacementCandidates word) =
      (dictionary.affixes.replacements.flatMap (replacements · word)).filter
        (keeps dictionary) := by
    simp only [Dictionary.replacementCandidates, acceptedTexts_replaced, Edits.replacements_eq]
  have hsubstitutions : dictionary.acceptedTexts
        ((dictionary.affixes.tryCharacters.flatMap (Edits.substitutions · word)).map .word) =
      (dictionary.affixes.tryCharacters.flatMap (substitutions · word)).filter
        (keeps dictionary) := by
    have hlisted : dictionary.affixes.tryCharacters.flatMap (Edits.substitutions · word) =
        (dictionary.affixes.tryCharacters.flatMap (substitutions · word)).filter (· ≠ word) := by
      simp only [Edits.substitutions_eq, List.filter_flatMap]
    rw [acceptedTexts_words, hlisted, filter_keeps_filter_ne hspace hnew]
    exact fun text ht => hword (by simp_all [Dictionary.candidates])
  have hinsertions : dictionary.acceptedTexts
        ((dictionary.affixes.tryCharacters.flatMap (Edits.insertions · word)).map .word) =
      (dictionary.affixes.tryCharacters.flatMap (insertions · word)).filter (keeps dictionary) := by
    rw [acceptedTexts_words]
    · simp only [Edits.insertions_eq]
    · exact fun text ht => hword (by simp_all [Dictionary.candidates])
  have htranspositions : dictionary.acceptedTexts ((Edits.transpositions word).map .word) =
      (transpositions word).filter (keeps dictionary) := by
    rw [acceptedTexts_words, Edits.transpositions_eq, filter_keeps_filter_ne hspace hnew]
    exact fun text ht => hword (by simp [Dictionary.candidates, ht])
  simp only [Dictionary.candidates, candidates, Dictionary.acceptedTexts_append,
    List.filter_append, hdeletions, hreplacements, hsubstitutions, hinsertions, htranspositions,
    acceptedTexts_splits hspace]

/-- **What the passes find.** For a word without a space that is not in the dictionary, it is the
kept edits, each at its first place. -/
theorem found_of_passes (h : dictionary.WellFormed) (hspace : ' ' ∉ word)
    (hnew : dictionary.contains word = false) {search : Search}
    (hpasses : dictionary.passes word = some search) :
    search.found = suggestions dictionary word := by
  rw [h.found_of_passes hspace hpasses, acceptedTexts_candidates h hspace hnew, suggestions]

/-! ### The answer -/

theorem mem_suggestions :
    text ∈ suggestions dictionary word ↔
      text ∈ candidates dictionary word ∧ keeps dictionary text = true := by
  rw [suggestions, List.mem_eraseDups, List.mem_filter]

/-- A word without a space that is not in the dictionary is not among its own suggestions. -/
theorem notMem_suggestions (hspace : ' ' ∉ word) (hnew : dictionary.contains word = false) :
    word ∉ suggestions dictionary word := by
  rw [mem_suggestions, keeps_of_space_notMem hspace, hnew]
  simp

/-- **Every answer that is not empty is the one of the reference.** So it has every kept edit and
no other text, none of them twice; the word itself is in it only where nothing is kept. -/
theorem suggest_eq_suggestions {grammar words name : Text}
    (h : (Dictionary.ofTexts grammar words name).result = .ok dictionary) (hspace : ' ' ∉ word)
    (hanswer : dictionary.suggest word ≠ []) :
    dictionary.suggest word =
        (if suggestions dictionary word = [] then [word] else suggestions dictionary word) ∧
      (∀ text ∈ candidates dictionary word, keeps dictionary text = true →
        text ∈ dictionary.suggest word) ∧
      (∀ text ∈ dictionary.suggest word, text ≠ word →
        text ∈ candidates dictionary word ∧ keeps dictionary text = true) ∧
      (dictionary.suggest word).Nodup ∧
      (word ∈ dictionary.suggest word →
        suggestions dictionary word = [] ∧ dictionary.suggest word = [word]) := by
  have hwf := Dictionary.wellFormed_of_ofTexts h
  obtain ⟨hknown, search, hpasses⟩ := Dictionary.exists_passes_of_suggest_ne_nil hanswer
  have hnew : dictionary.contains word = false := by
    rw [Dictionary.isKnown, Bool.or_eq_false_iff] at hknown
    exact hknown.1
  have hfound := found_of_passes hwf hspace hnew hpasses
  by_cases hnil : suggestions dictionary word = []
  · -- nothing is kept, so the answer is the word itself
    have hecho : dictionary.suggest word = [word] := by
      obtain ⟨hempty, -⟩ | ⟨hecho, -⟩ :=
        Dictionary.suggest_of_found_eq_nil hknown hpasses (hfound.trans hnil)
      · exact absurd hempty hanswer
      · exact hecho
    have hnone : ∀ text ∈ candidates dictionary word, keeps dictionary text ≠ true := by
      intro text hmem hkeeps
      simpa [hnil] using mem_suggestions.2 ⟨hmem, hkeeps⟩
    rw [hecho, if_pos hnil]
    refine ⟨rfl, ?_, ?_, List.nodup_singleton word, fun _ => ⟨hnil, rfl⟩⟩
    · exact fun text hmem hkeeps => absurd hkeeps (hnone text hmem)
    · exact fun text hmem hne => absurd (List.mem_singleton.1 hmem) hne
  · have hsuggest : dictionary.suggest word = suggestions dictionary word := by
      rw [Dictionary.suggest_of_found_ne_nil hknown hpasses (hfound ▸ hnil), hfound]
    rw [hsuggest, if_neg hnil]
    refine ⟨rfl, ?_, ?_, nodup_eraseDups _, ?_⟩
    · exact fun text hmem hkeeps => mem_suggestions.2 ⟨hmem, hkeeps⟩
    · exact fun text hmem _ => mem_suggestions.1 hmem
    · exact fun hmem => absurd hmem (notMem_suggestions hspace hnew)

/-- For `alot`, `lot` comes by a deletion, and `a lot` by the replacement table and again by a
cut. -/
theorem suggest_alot_eq :
    ∃ dictionary,
      (Dictionary.ofTexts "REP 1\nREP alot a_lot\n".toList "2\na\nlot\n".toList
          "en".toList).result = .ok dictionary ∧
        dictionary.suggest "alot".toList = ["lot".toList, "a lot".toList] := by
  obtain ⟨dictionary, hbuilt, h⟩ := Logged.exists_result_eq_ok
    (p := fun dictionary : Dictionary => !(dictionary.suggest "alot".toList).isEmpty &&
      suggestions dictionary "alot".toList == ["lot".toList, "a lot".toList])
    (show (Dictionary.ofTexts "REP 1\nREP alot a_lot\n".toList "2\na\nlot\n".toList
      "en".toList).result.toOption.any _ = true by decide +kernel)
  obtain ⟨hanswer, hsuggestions⟩ : dictionary.suggest "alot".toList ≠ [] ∧
      suggestions dictionary "alot".toList = ["lot".toList, "a lot".toList] := by simpa using h
  refine ⟨dictionary, hbuilt, ?_⟩
  rw [(suggest_eq_suggestions hbuilt (by decide) hanswer).1, hsuggestions]
  decide

end Reference

end AffixSpeller
