import AffixSpeller.Lexicon.Dictionary
import AffixSpeller.Proofs.Affix.Expansion
import AffixSpeller.Proofs.Lexicon.WordTrie
import AffixSpeller.Proofs.Text.Basic

/-!
# Well-formed dictionaries

A dictionary made from a grammar text and a word list text is *well-formed*: its table is, and its
words are solid. No word is empty, since a trie has no place for the empty word. The entries are
what looking up their words gives.

## Main definitions

* `WordList.Lexical`: the words of a trie are solid, and the trie is unambiguous.
* `Dictionary.WellFormed`: what holds of every dictionary that is read.

## Main results

* `WordList.Lexical.addOccurrence`, `WordList.lexical_readWords`: one more occurrence of a word
  keeps a trie lexical, so every word list is.
* `Dictionary.wellFormed_of_ofTexts`: a dictionary that is read is well-formed.
* `Dictionary.WellFormed.mem_entries_iff`: the entries are the results of looking up words.
-/

namespace AffixSpeller

/-! ### Word lists -/

namespace WordList

/-- The words are solid, and no letter is offered twice for a position. -/
structure Lexical {α : Type} (words : WordTrie α) : Prop where
  unambiguous : words.Unambiguous
  solid : ∀ {word : Text} {value : α}, words.get? word = some value → Text.Solid word

theorem lexical_empty : Lexical (.empty : WordTrie (List Flag)) :=
  ⟨trivial, by simp⟩

theorem Lexical.mapWithWord {α β : Type} {words : WordTrie α} (h : Lexical words)
    (f : Text → α → β) : Lexical (words.mapWithWord f) where
  unambiguous := h.unambiguous.mapWithWord f
  solid {word value} hword := by
    rw [WordTrie.get?_mapWithWord] at hword
    obtain ⟨old, hold, -⟩ := Option.map_eq_some_iff.1 hword
    exact h.solid hold

/-- The word of an item is a part of it, and is not empty. -/
theorem fst_readItem (encoding : FlagEncoding) {item : Text} (h : item ≠ []) :
    (readItem encoding item).1 ≠ [] ∧ (readItem encoding item).1 ⊆ item := by
  unfold readItem
  split
  · rename_i c cs flags hcut
    rw [(Text.cutAt_eq_some_iff.1 hcut).1]
    exact ⟨List.cons_ne_nil c cs, List.subset_append_left _ _⟩
  · exact ⟨h, List.Subset.refl item⟩

/-- The word of a line is solid and not empty. -/
theorem solid_readLine {encoding : FlagEncoding} {line : Text} {occurrence : Text × List Flag}
    (h : readLine encoding line = some occurrence) :
    occurrence.1 ≠ [] ∧ Text.Solid occurrence.1 := by
  obtain ⟨item, hitem, rfl⟩ := Option.map_eq_some_iff.1 h
  obtain ⟨hne, hsolid⟩ := Text.solid_of_mem_fields (List.mem_of_mem_head? hitem)
  obtain ⟨hword, hsubset⟩ := fst_readItem encoding hne
  exact ⟨hword, hsolid.mono hsubset⟩

theorem Lexical.addOccurrence {words : WordTrie (List Flag)} (h : Lexical words)
    {occurrence : Text × List Flag} (hne : occurrence.1 ≠ []) (hsolid : Text.Solid occurrence.1) :
    Lexical (addOccurrence words occurrence) where
  unambiguous := h.unambiguous.alter _ _
  solid {word value} hword := by
    rw [WordList.addOccurrence, WordTrie.get?_alter _ _ hne] at hword
    split_ifs at hword with heq
    · exact heq ▸ hsolid
    · exact h.solid hword

theorem lexical_readWords (encoding : FlagEncoding) (lines : List Text) :
    Lexical (readWords encoding lines) := by
  have hfold (occurrences : List (Text × List Flag)) (words : WordTrie (List Flag))
      (hwords : Lexical words)
      (hocc : ∀ occurrence ∈ occurrences, occurrence.1 ≠ [] ∧ Text.Solid occurrence.1) :
      Lexical (occurrences.foldl WordList.addOccurrence words) := by
    induction occurrences generalizing words with
    | nil => exact hwords
    | cons occurrence occurrences ih =>
      obtain ⟨hne, hsolid⟩ := hocc occurrence List.mem_cons_self
      exact ih _ (hwords.addOccurrence hne hsolid)
        fun o ho => hocc o (List.mem_cons_of_mem occurrence ho)
  refine hfold _ _ lexical_empty fun occurrence hocc => ?_
  obtain ⟨line, -, hline⟩ := List.mem_filterMap.1 hocc
  exact solid_readLine hline

theorem lexical_read {encoding : FlagEncoding} {text : Text} {list : WordList}
    (h : read encoding text = some list) : Lexical list.words := by
  unfold read at h
  split at h
  · cases h
  · obtain ⟨declared, -, rfl⟩ := Option.map_eq_some_iff.1 h
    exact lexical_readWords encoding _

end WordList

/-! ### Dictionaries -/

namespace Dictionary

variable {dictionary : Dictionary} {word : Text} {entry : Entry}

/-- What holds of every dictionary that is read from texts. -/
structure WellFormed (dictionary : Dictionary) : Prop where
  affixes : dictionary.affixes.WellFormed
  words : WordList.Lexical dictionary.words

/-- **A dictionary that is read from texts is well-formed.** -/
theorem wellFormed_of_ofTexts {grammar words name : Text}
    (h : (ofTexts grammar words name).result = .ok dictionary) : dictionary.WellFormed := by
  obtain ⟨affixes, haffixes, htable⟩ := Logged.result_andThen_eq_ok_iff.1 h
  rw [Logged.result_after, ofTable] at htable
  split at htable
  · cases htable
  · rename_i list hlist
    cases htable
    exact ⟨AffixTable.wellFormed_of_parse (Logged.result_mapError_eq_ok_iff.1 haffixes),
      (WordList.lexical_read hlist).mapWithWord _⟩

/-- The entry that a look-up finds is that of the word. -/
theorem word_of_lookup (h : dictionary.lookup word = some entry) : entry.word = word :=
  dictionary.word_eq h

/-- A dictionary made of words with flags finds for each word an entry with its flags. -/
theorem lookup_ofWords (name : Text) (affixes : AffixTable) (words : WordTrie (List Flag))
    (word : Text) :
    (ofWords name affixes words).lookup word =
      (words.get? word).map fun flags => ⟨word, flags⟩ :=
  WordTrie.get?_mapWithWord Entry.mk words word

theorem contains_eq_isSome_lookup :
    dictionary.contains word = (dictionary.lookup word).isSome := by
  simp [contains, WordTrie.contains, lookup]

theorem contains_iff_exists_lookup :
    dictionary.contains word = true ↔ ∃ entry, dictionary.lookup word = some entry := by
  rw [contains_eq_isSome_lookup, Option.isSome_iff_exists]

@[simp] theorem contains_nil (dictionary : Dictionary) : dictionary.contains [] = false := by
  simp [contains, WordTrie.contains]

/-- The entries of a dictionary are the results of looking up words. -/
theorem WellFormed.mem_entries_iff (h : dictionary.WellFormed) :
    entry ∈ dictionary.entries ↔ dictionary.lookup entry.word = some entry := by
  rw [entries, List.mem_map]
  constructor
  · rintro ⟨⟨word, entry⟩, hmem, rfl⟩
    have hget := (WordTrie.mem_toList_iff h.words.unambiguous).1 hmem
    exact (dictionary.word_eq hget).symm ▸ hget
  · exact fun hget => ⟨_, (WordTrie.mem_toList_iff h.words.unambiguous).2 hget, rfl⟩

/-- The words of the entries are those under which they are stored. -/
theorem WellFormed.map_word_entries (h : dictionary.WellFormed) :
    dictionary.entries.map Entry.word = dictionary.words.toList.map Prod.fst := by
  rw [entries, List.map_map]
  refine List.map_congr_left fun stored hmem => ?_
  exact dictionary.word_eq ((WordTrie.mem_toList_iff h.words.unambiguous).1 hmem)

theorem WellFormed.solid_of_contains (h : dictionary.WellFormed)
    (hword : dictionary.contains word = true) : Text.Solid word := by
  obtain ⟨entry, hentry⟩ := contains_iff_exists_lookup.1 hword
  exact h.words.solid hentry

/-- A text with a space is no word of a dictionary. -/
theorem WellFormed.contains_eq_false_of_space (h : dictionary.WellFormed) (hword : ' ' ∈ word) :
    dictionary.contains word = false := by
  by_contra hne
  exact (h.solid_of_contains (by simpa using hne)).space_notMem hword

end Dictionary

end AffixSpeller
