import AffixSpeller.Proofs.Lexicon.Dictionary
import AffixSpeller.Spelling.Suggestion

/-!
# The neighbours of a word

The neighbours of a word are the texts that one edit makes of it: a character left out, an
occurrence of an entry of the replacement table replaced, a character changed to or put in from the
characters to try, or two different neighbouring characters swapped. Some words also have phrases:
replaced texts with spaces, and the two parts of a longer word. The lists of edits hold exactly
these, wherever in the word the edit takes place.

## Main definitions

* `Replacement.Rewrites`: an occurrence of the entry's pattern is replaced.
* `AffixTable.Neighbour`: one edit makes a text of a word.
* `Dictionary.Phrase`: words of the dictionary between spaces that may be meant by a word.
* `IsTruncation`: a beginning or an end of a word.

## Main results

* `Edits.mem_replacements`: the list of replaced texts is complete, overlapping occurrences
  included.
* `Dictionary.neighbour_of_word_mem_candidates`, `Dictionary.word_mem_candidates_of_neighbour`: the
  single words among the candidates are the neighbours without a space.
* `Dictionary.phrase_mem_candidates_iff`: the phrases among the candidates.
-/

namespace AffixSpeller

/-- One occurrence of the entry's pattern is replaced; it stands at the ends that the entry is
tied to. -/
inductive Replacement.Rewrites (entry : Replacement) : Text → Text → Prop
  | intro (l r : Text) (hstart : entry.atStart = true → l = [])
      (hend : entry.atEnd = true → r = []) :
      entry.Rewrites (l ++ entry.pattern ++ r) (l ++ entry.replacement ++ r)

/-- One edit that the table allows makes the second text of the first. -/
inductive AffixTable.Neighbour (table : AffixTable) : Text → Text → Prop
  | deletion (l : Text) (c : Char) (r : Text) : table.Neighbour (l ++ c :: r) (l ++ r)
  | replacement {entry : Replacement} {word text : Text} (hentry : entry ∈ table.replacements)
      (h : entry.Rewrites word text) : table.Neighbour word text
  | substitution (l : Text) (c : Char) (r : Text) {letter : Char}
      (hletter : letter ∈ table.tryCharacters) (hne : c ≠ letter) :
      table.Neighbour (l ++ c :: r) (l ++ letter :: r)
  | insertion (l r : Text) {letter : Char} (hletter : letter ∈ table.tryCharacters) :
      table.Neighbour (l ++ r) (l ++ letter :: r)
  | transposition (l : Text) (c d : Char) (r : Text) (hne : c ≠ d) :
      table.Neighbour (l ++ c :: d :: r) (l ++ d :: c :: r)

/-- Words of the dictionary between spaces that may be meant by a word: a replaced text with spaces,
or the two parts of a word of more than three letters, as they stand or capitalized. -/
inductive Dictionary.Phrase (dictionary : Dictionary) : Text → Text → Prop
  | replacement {entry : Replacement} {word text : Text}
      (hentry : entry ∈ dictionary.affixes.replacements) (h : entry.Rewrites word text)
      (hspace : ' ' ∈ text) (hparts : ∀ part ∈ text.splitOn ' ', dictionary.contains part = true) :
      dictionary.Phrase word text
  | split (l r : Text) (hlength : 3 < (l ++ r).length) (hl : dictionary.contains l = true)
      (hr : dictionary.contains r = true) : dictionary.Phrase (l ++ r) (l ++ ' ' :: r)
  | capitalized (l r : Text) (hlength : 3 < (l ++ r).length)
      (hl : dictionary.contains (Text.capitalize l) = true)
      (hr : dictionary.contains (Text.capitalize r) = true) :
      dictionary.Phrase (l ++ r) (Text.capitalize l ++ ' ' :: Text.capitalize r)

/-- The text is a beginning or an end of the word, but neither empty nor the word itself. -/
def IsTruncation (text word : Text) : Prop :=
  text ≠ [] ∧ text ≠ word ∧ (text <+: word ∨ text <:+ word)

/-! ### The lists of edits -/

namespace Edits

variable {word text l r : Text} {letter : Char}

theorem mem_deletions :
    text ∈ deletions word ↔ ∃ l c r, word = l ++ c :: r ∧ text = l ++ r := by
  induction word generalizing text with
  | nil => simp [deletions]
  | cons a as ih =>
    simp only [deletions, List.mem_cons, List.mem_map, ih]
    constructor
    · rintro (rfl | ⟨_, ⟨l, c, r, rfl, rfl⟩, rfl⟩)
      · exact ⟨[], a, text, rfl, rfl⟩
      · exact ⟨a :: l, c, r, rfl, rfl⟩
    · rintro ⟨l, c, r, hword, rfl⟩
      obtain ⟨rfl, h⟩ | ⟨l', rfl, rfl⟩ := List.cons_eq_append_iff.1 hword
      · cases h
        exact Or.inl rfl
      · exact Or.inr ⟨l' ++ r, ⟨l', c, r, rfl, rfl⟩, rfl⟩

theorem mem_substitutions :
    text ∈ substitutions letter word ↔
      ∃ l c r, word = l ++ c :: r ∧ c ≠ letter ∧ text = l ++ letter :: r := by
  induction word generalizing text with
  | nil => simp [substitutions]
  | cons a as ih =>
    have hlist : text ∈ substitutions letter (a :: as) ↔
        (a ≠ letter ∧ text = letter :: as) ∨ ∃ v ∈ substitutions letter as, a :: v = text := by
      rw [substitutions]
      split_ifs with ha <;> simp [ha]
    rw [hlist]
    simp only [ih]
    constructor
    · rintro (⟨ha, rfl⟩ | ⟨_, ⟨l, c, r, rfl, hc, rfl⟩, rfl⟩)
      · exact ⟨[], a, as, rfl, ha, rfl⟩
      · exact ⟨a :: l, c, r, rfl, hc, rfl⟩
    · rintro ⟨l, c, r, hword, hc, rfl⟩
      obtain ⟨rfl, h⟩ | ⟨l', rfl, rfl⟩ := List.cons_eq_append_iff.1 hword
      · cases h
        exact Or.inl ⟨hc, rfl⟩
      · exact Or.inr ⟨l' ++ letter :: r, ⟨l', c, r, rfl, hc, rfl⟩, rfl⟩

theorem mem_insertions :
    text ∈ insertions letter word ↔ ∃ l r, word = l ++ r ∧ text = l ++ letter :: r := by
  induction word generalizing text with
  | nil => simp [insertions]
  | cons a as ih =>
    simp only [insertions, List.mem_cons, List.mem_map, ih]
    constructor
    · rintro (rfl | ⟨_, ⟨l, r, rfl, rfl⟩, rfl⟩)
      · exact ⟨[], a :: as, rfl, rfl⟩
      · exact ⟨a :: l, r, rfl, rfl⟩
    · rintro ⟨l, r, hword, rfl⟩
      obtain ⟨rfl, rfl⟩ | ⟨l', rfl, rfl⟩ := List.cons_eq_append_iff.1 hword
      · exact Or.inl rfl
      · exact Or.inr ⟨l' ++ letter :: r, ⟨l', r, rfl, rfl⟩, rfl⟩

theorem mem_transpositions :
    text ∈ transpositions word ↔
      ∃ l c d r, word = l ++ c :: d :: r ∧ c ≠ d ∧ text = l ++ d :: c :: r := by
  induction word generalizing text with
  | nil => simp [transpositions]
  | cons a as ih =>
    cases as with
    | nil =>
      simp only [transpositions, List.not_mem_nil, false_iff]
      rintro ⟨l, c, d, r, hword, -⟩
      have := congrArg List.length hword
      simp only [List.length_append, List.length_cons, List.length_nil] at this
      omega
    | cons b bs =>
      have hlist : text ∈ transpositions (a :: b :: bs) ↔
          (a ≠ b ∧ text = b :: a :: bs) ∨ ∃ v ∈ transpositions (b :: bs), a :: v = text := by
        rw [transpositions]
        split_ifs with hab <;> simp [hab]
      rw [hlist]
      simp only [ih]
      constructor
      · rintro (⟨hab, rfl⟩ | ⟨_, ⟨l, c, d, r, hbs, hcd, rfl⟩, rfl⟩)
        · exact ⟨[], a, b, bs, rfl, hab, rfl⟩
        · exact ⟨a :: l, c, d, r, by rw [hbs]; rfl, hcd, rfl⟩
      · rintro ⟨l, c, d, r, hword, hcd, rfl⟩
        obtain ⟨rfl, h⟩ | ⟨l', rfl, hbs⟩ := List.cons_eq_append_iff.1 hword
        · cases h
          exact Or.inl ⟨hcd, rfl⟩
        · exact Or.inr ⟨l' ++ d :: c :: r, ⟨l', c, d, r, hbs, hcd, rfl⟩, rfl⟩

theorem mem_cuts : (l, r) ∈ cuts word ↔ word = l ++ r ∧ l ≠ [] ∧ r ≠ [] := by
  induction word generalizing l r with
  | nil =>
    simp only [cuts, List.not_mem_nil, false_iff]
    rintro ⟨h, hl, -⟩
    exact hl (List.append_eq_nil_iff.1 h.symm).1
  | cons a as ih =>
    cases as with
    | nil =>
      simp only [cuts, List.not_mem_nil, false_iff]
      rintro ⟨h, hl, hr⟩
      obtain ⟨rfl, -⟩ | ⟨l', rfl, hnil⟩ := List.cons_eq_append_iff.1 h
      · exact hl rfl
      · exact hr (List.append_eq_nil_iff.1 hnil.symm).2
    | cons b bs =>
      rw [cuts]
      simp only [List.mem_cons, List.mem_map, Prod.exists, Prod.mk.injEq, ih]
      constructor
      · rintro (⟨rfl, rfl⟩ | ⟨l', _, ⟨hbs, hl', hr⟩, rfl, rfl⟩)
        · exact ⟨rfl, by simp, by simp⟩
        · exact ⟨by rw [hbs]; rfl, by simp, hr⟩
      · rintro ⟨h, hl, hr⟩
        obtain ⟨rfl, -⟩ | ⟨l', rfl, hbs⟩ := List.cons_eq_append_iff.1 h
        · exact absurd rfl hl
        · obtain rfl | hl' := eq_or_ne l' []
          · exact Or.inl ⟨rfl, hbs.symm⟩
          · exact Or.inr ⟨l', r, ⟨hbs, hl', hr⟩, rfl, rfl⟩

/-- The beginnings and ends of a word are its truncations. -/
theorem mem_truncations : text ∈ truncations word ↔ IsTruncation text word := by
  simp only [truncations, List.mem_append, List.mem_reverse, List.mem_map, Prod.exists, mem_cuts,
    exists_and_right, exists_eq_right, IsTruncation]
  constructor
  · rintro (⟨r, rfl, hl, hr⟩ | ⟨l, rfl, hl, hr⟩)
    · exact ⟨hl, by simpa using hr, Or.inl (List.prefix_append text r)⟩
    · exact ⟨hr, by simpa using hl, Or.inr (List.suffix_append l text)⟩
  · rintro ⟨hne, hword, ⟨r, rfl⟩ | ⟨l, rfl⟩⟩
    · exact Or.inl ⟨r, rfl, hne, by simpa using hword⟩
    · exact Or.inr ⟨l, rfl, by simpa using hword, hne⟩

/-- An occurrence stands at the front of the text or is one of the rest of the text. -/
private theorem mem_replacementsFrom_cons {entry : Replacement} {isStart : Bool} {a : Char}
    {as : Text} :
    text ∈ replacementsFrom entry isStart (a :: as) ↔
      (∃ r, a :: as = entry.pattern ++ r ∧ text = entry.replacement ++ r ∧
        (entry.atStart = true → isStart = true) ∧ (entry.atEnd = true → r = [])) ∨
      ∃ v ∈ replacementsFrom entry false as, a :: v = text := by
  rw [replacementsFrom]
  cases hrest : entry.pattern.isPrefixOf? (a :: as) with
  | none =>
    have hno (r : Text) : a :: as ≠ entry.pattern ++ r := fun h => by
      simp [List.isPrefixOf?_eq_some_iff_append_eq.2 h.symm] at hrest
    simp [hno]
  | some rest =>
    have hfront (r : Text) : a :: as = entry.pattern ++ r ↔ r = rest := by
      rw [← List.isPrefixOf?_eq_some_iff_append_eq.1 hrest, List.append_right_inj, eq_comm]
    have htied : (entry.atStart = true → isStart = true) ∧ (entry.atEnd = true → rest = []) ↔
        ((entry.atStart && !isStart) || (entry.atEnd && !rest.isEmpty)) = false := by
      cases entry.atStart <;> cases entry.atEnd <;> cases isStart <;> simp
    simp only [hfront, exists_eq_left, htied]
    split_ifs with h <;> simp [h]

private theorem mem_replacementsFrom {entry : Replacement} (hpattern : entry.pattern ≠ [])
    {isStart : Bool} :
    text ∈ replacementsFrom entry isStart word ↔
      ∃ l r, word = l ++ entry.pattern ++ r ∧ text = l ++ entry.replacement ++ r ∧
        (entry.atStart = true → isStart = true ∧ l = []) ∧ (entry.atEnd = true → r = []) := by
  induction word generalizing text isStart with
  | nil => simp [replacementsFrom, hpattern]
  | cons a as ih =>
    rw [mem_replacementsFrom_cons]
    simp only [ih]
    constructor
    · rintro (⟨r, hword, rfl, hstart, hend⟩ | ⟨_, ⟨l, r, rfl, rfl, hstart, hend⟩, rfl⟩)
      · exact ⟨[], r, hword, rfl, fun h => ⟨hstart h, rfl⟩, hend⟩
      · exact ⟨a :: l, r, rfl, rfl, fun h => absurd (hstart h).1 (by simp), hend⟩
    · rintro ⟨l, r, hword, rfl, hstart, hend⟩
      rw [List.append_assoc] at hword
      obtain ⟨rfl, h⟩ | ⟨l', rfl, rfl⟩ := List.cons_eq_append_iff.1 hword
      · exact Or.inl ⟨r, h.symm, rfl, fun hs => (hstart hs).1, hend⟩
      · refine Or.inr ⟨l' ++ entry.replacement ++ r, ⟨l', r, by simp, rfl, ?_, hend⟩, by simp⟩
        exact fun hs => absurd (hstart hs).2 (by simp)

/-- **The list of replaced texts is complete.** Occurrences may overlap, and each is replaced on
its own. -/
theorem mem_replacements {entry : Replacement} (hpattern : entry.pattern ≠ []) :
    text ∈ replacements entry word ↔ entry.Rewrites word text := by
  simp only [replacements, mem_replacementsFrom hpattern, true_and]
  constructor
  · rintro ⟨l, r, rfl, rfl, hstart, hend⟩
    exact .intro l r hstart hend
  · rintro ⟨l, r, hstart, hend⟩
    exact ⟨l, r, rfl, rfl, hstart, hend⟩

end Edits

/-! ### The candidates -/

namespace Dictionary

variable {dictionary : Dictionary} {word text : Text}

private theorem containsParts_iff :
    dictionary.containsParts text = true ↔
      ∀ part ∈ text.splitOn ' ', dictionary.contains part = true := by
  simp only [containsParts, List.all_eq_true, Bool.and_eq_true, Bool.not_eq_eq_eq_not,
    Bool.not_true, List.isEmpty_eq_false_iff]
  refine forall₂_congr fun part _ => and_iff_right_of_imp fun h hnil => ?_
  simp [hnil] at h

theorem ofReplaced_eq_some_iff {candidate : Candidate} :
    dictionary.ofReplaced text = some candidate ↔
      (' ' ∉ text ∧ candidate = .word text) ∨
        (' ' ∈ text ∧ dictionary.containsParts text = true ∧ candidate = .phrase text) := by
  unfold ofReplaced
  split_ifs with hspace hparts <;> simp_all [eq_comm (b := candidate)]

theorem pair?_eq_some_iff {l r : Text} {candidate : Candidate} :
    dictionary.pair? l r = some candidate ↔
      dictionary.contains l = true ∧ dictionary.contains r = true ∧
        candidate = .phrase (l ++ ' ' :: r) := by
  unfold pair?
  split_ifs with h <;> simp_all [eq_comm (b := candidate)]

theorem mem_replacementCandidates (h : dictionary.affixes.WellFormed) {candidate : Candidate} :
    candidate ∈ dictionary.replacementCandidates word ↔
      ∃ entry ∈ dictionary.affixes.replacements, ∃ text, entry.Rewrites word text ∧
        dictionary.ofReplaced text = some candidate := by
  simp only [replacementCandidates, List.mem_filterMap, List.mem_flatMap]
  constructor
  · rintro ⟨text, ⟨entry, hentry, htext⟩, hcandidate⟩
    exact ⟨entry, hentry, text, (Edits.mem_replacements (h.pattern_ne_nil entry hentry)).1 htext,
      hcandidate⟩
  · rintro ⟨entry, hentry, text, htext, hcandidate⟩
    exact ⟨text, ⟨entry, hentry, (Edits.mem_replacements (h.pattern_ne_nil entry hentry)).2 htext⟩,
      hcandidate⟩

theorem mem_splitCandidates {candidate : Candidate} :
    candidate ∈ dictionary.splitCandidates word ↔
      3 < word.length ∧ ∃ l r, word = l ++ r ∧ l ≠ [] ∧ r ≠ [] ∧
        (dictionary.pair? l r = some candidate ∨
          dictionary.pair? (Text.capitalize l) (Text.capitalize r) = some candidate) := by
  unfold splitCandidates
  split_ifs with hlength
  · simp [not_lt.2 hlength]
  · simp only [List.mem_append, List.mem_filterMap, Prod.exists, Edits.mem_cuts, not_le.1 hlength,
      true_and]
    constructor
    · rintro (⟨l, r, ⟨hword, hl, hr⟩, hpair⟩ | ⟨l, r, ⟨hword, hl, hr⟩, hpair⟩)
      · exact ⟨l, r, hword, hl, hr, Or.inl hpair⟩
      · exact ⟨l, r, hword, hl, hr, Or.inr hpair⟩
    · rintro ⟨l, r, hword, hl, hr, hpair | hpair⟩
      · exact Or.inl ⟨l, r, ⟨hword, hl, hr⟩, hpair⟩
      · exact Or.inr ⟨l, r, ⟨hword, hl, hr⟩, hpair⟩

private theorem word_mem_candidates_iff (h : dictionary.affixes.WellFormed) :
    .word text ∈ dictionary.candidates word ↔
      text ∈ Edits.deletions word ∨
      (∃ entry ∈ dictionary.affixes.replacements, entry.Rewrites word text ∧ ' ' ∉ text) ∨
      (∃ letter ∈ dictionary.affixes.tryCharacters, text ∈ Edits.substitutions letter word) ∨
      (∃ letter ∈ dictionary.affixes.tryCharacters, text ∈ Edits.insertions letter word) ∨
      text ∈ Edits.transpositions word := by
  simp [candidates, mem_replacementCandidates h, mem_splitCandidates, ofReplaced_eq_some_iff,
    pair?_eq_some_iff]

/-- A single word among the candidates is a neighbour. -/
theorem neighbour_of_word_mem_candidates (h : dictionary.affixes.WellFormed)
    (hmem : .word text ∈ dictionary.candidates word) :
    dictionary.affixes.Neighbour word text := by
  obtain hmem | ⟨entry, hentry, hmem, -⟩ | ⟨letter, hletter, hmem⟩ | ⟨letter, hletter, hmem⟩ |
      hmem := (word_mem_candidates_iff h).1 hmem
  · obtain ⟨l, c, r, rfl, rfl⟩ := Edits.mem_deletions.1 hmem
    exact .deletion l c r
  · exact .replacement hentry hmem
  · obtain ⟨l, c, r, rfl, hne, rfl⟩ := Edits.mem_substitutions.1 hmem
    exact .substitution l c r hletter hne
  · obtain ⟨l, r, rfl, rfl⟩ := Edits.mem_insertions.1 hmem
    exact .insertion l r hletter
  · obtain ⟨l, c, d, r, rfl, hne, rfl⟩ := Edits.mem_transpositions.1 hmem
    exact .transposition l c d r hne

/-- A neighbour without a space is tried as a single word. -/
theorem word_mem_candidates_of_neighbour (h : dictionary.affixes.WellFormed)
    (hneighbour : dictionary.affixes.Neighbour word text) (hspace : ' ' ∉ text) :
    .word text ∈ dictionary.candidates word := by
  rw [word_mem_candidates_iff h]
  cases hneighbour with
  | deletion l c r => exact Or.inl (Edits.mem_deletions.2 ⟨l, c, r, rfl, rfl⟩)
  | replacement hentry hrewrites => exact Or.inr (Or.inl ⟨_, hentry, hrewrites, hspace⟩)
  | substitution l c r hletter hne =>
    exact Or.inr (Or.inr (Or.inl
      ⟨_, hletter, Edits.mem_substitutions.2 ⟨l, c, r, rfl, hne, rfl⟩⟩))
  | insertion l r hletter =>
    exact Or.inr (Or.inr (Or.inr (Or.inl
      ⟨_, hletter, Edits.mem_insertions.2 ⟨l, r, rfl, rfl⟩⟩)))
  | transposition l c d r hne =>
    exact Or.inr (Or.inr (Or.inr (Or.inr
      (Edits.mem_transpositions.2 ⟨l, c, d, r, rfl, hne, rfl⟩))))

/-- The edits of a word without a space that are tried as single words have no space. -/
theorem space_notMem_of_word_mem_candidates (h : dictionary.affixes.WellFormed)
    (hword : ' ' ∉ word) (hmem : .word text ∈ dictionary.candidates word) : ' ' ∉ text := by
  have hletter {letter : Char} (hletter : letter ∈ dictionary.affixes.tryCharacters) :
      ' ' ≠ letter := fun heq => h.solid_tryCharacters.space_notMem (heq ▸ hletter)
  obtain hmem | ⟨entry, -, -, hspace⟩ | ⟨letter, hl, hmem⟩ | ⟨letter, hl, hmem⟩ | hmem :=
    (word_mem_candidates_iff h).1 hmem
  · obtain ⟨l, c, r, rfl, rfl⟩ := Edits.mem_deletions.1 hmem
    simp_all
  · exact hspace
  · obtain ⟨l, c, r, rfl, hne, rfl⟩ := Edits.mem_substitutions.1 hmem
    simp_all
  · obtain ⟨l, r, rfl, rfl⟩ := Edits.mem_insertions.1 hmem
    simp_all
  · obtain ⟨l, c, d, r, rfl, hne, rfl⟩ := Edits.mem_transpositions.1 hmem
    simp_all

/-- The phrases among the candidates are the phrases of the word. -/
theorem phrase_mem_candidates_iff (h : dictionary.affixes.WellFormed) :
    .phrase text ∈ dictionary.candidates word ↔ dictionary.Phrase word text := by
  have hmem : .phrase text ∈ dictionary.candidates word ↔
      .phrase text ∈ dictionary.replacementCandidates word ∨
        .phrase text ∈ dictionary.splitCandidates word := by
    simp [candidates]
  rw [hmem, mem_replacementCandidates h, mem_splitCandidates]
  simp only [ofReplaced_eq_some_iff, pair?_eq_some_iff, reduceCtorEq, and_false, false_or,
    Candidate.phrase.injEq, containsParts_iff]
  constructor
  · rintro (⟨entry, hentry, _, hrewrites, hspace, hparts, rfl⟩ |
      ⟨hlength, l, r, rfl, -, -, ⟨hl, hr, rfl⟩ | ⟨hl, hr, rfl⟩⟩)
    · exact .replacement hentry hrewrites hspace hparts
    · exact .split l r hlength hl hr
    · exact .capitalized l r hlength hl hr
  · have hne {t : Text} {f : Text → Text} (hf : f [] = [])
        (ht : dictionary.contains (f t) = true) : t ≠ [] := by
      rintro rfl
      simp [hf] at ht
    rintro (⟨hentry, hrewrites, hspace, hparts⟩ | ⟨l, r, hlength, hl, hr⟩ |
      ⟨l, r, hlength, hl, hr⟩)
    · exact Or.inl ⟨_, hentry, text, hrewrites, hspace, hparts, rfl⟩
    · exact Or.inr ⟨hlength, l, r, rfl, hne (f := id) rfl hl, hne (f := id) rfl hr,
        Or.inl ⟨hl, hr, rfl⟩⟩
    · exact Or.inr ⟨hlength, l, r, rfl, hne rfl hl, hne rfl hr, Or.inr ⟨hl, hr, rfl⟩⟩

/-- Every phrase has a space. -/
theorem Phrase.space_mem (h : dictionary.Phrase word text) : ' ' ∈ text := by
  cases h with
  | replacement _ _ hspace _ => exact hspace
  | split | capitalized => simp

end Dictionary

end AffixSpeller
