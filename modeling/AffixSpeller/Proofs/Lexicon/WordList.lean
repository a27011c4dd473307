import AffixSpeller.Proofs.Affix.Reading
import AffixSpeller.Proofs.Lexicon.Dictionary

/-!
# What a word list holds

A dictionary holds the words of the lines after the count, each under its own name and with the
flags of all lines that it comes on, in the order of the lines and each flag once. The number of
lines, their order and the flags of other words do not matter to a look-up.

## Main definitions

* `WordList.body`, `WordList.items`: the lines after the count, and their first fields.
* `WordList.itemWord`, `WordList.itemFlags`: the word of an item, and the flags behind it.
* `WordList.wordsOf`, `WordList.flagsOf`: the words of lines, and the flags of one of them.
* `WordList.count?`: the number that a word list begins with.

## Main results

* `WordList.get?_readWords`: the value of a word in the trie that lines make.
* `Dictionary.ofTexts_result_eq_ok_iff`: when there is a dictionary, and which one.
* `Dictionary.ofTexts_result_eq_missingCount_iff`: when there is none for want of a count.
* `Dictionary.holds_wordList`: what a dictionary holds.
-/

namespace AffixSpeller

/-! ### Items -/

/-- No flags are written as the empty text. -/
@[simp] theorem FlagEncoding.decode_nil (encoding : FlagEncoding) : encoding.decode [] = [] := by
  cases encoding <;> rfl

namespace WordList

/-- The lines after the first one that is not blank, without the blank ones. -/
def body (text : Text) : List Text :=
  (contentLines text).tail

/-- The number that the first line that is not blank begins with. -/
def count? (text : Text) : Option Nat :=
  (contentLines text).head?.bind readCount

/-- The first fields of lines. -/
def items (lines : List Text) : List Text :=
  lines.filterMap fun line => (Text.fields line).head?

/-- The word of an item: what stands before the first slash, or the item itself if that begins
with a slash. -/
def itemWord (item : Text) : Text :=
  if item.head? = some '/' then item else item.takeWhile (· != '/')

/-- The flags of an item: those written behind the first slash, unless the item begins with it. -/
def itemFlags (encoding : FlagEncoding) (item : Text) : List Flag :=
  if item.head? = some '/' then [] else encoding.decode (item.dropWhile (· != '/')).tail

/-- The words of lines, in their order and with repetitions. -/
def wordsOf (lines : List Text) : List Text :=
  (items lines).map itemWord

/-- The flags of a word: those of all lines that it comes on, each at its first place. -/
def flagsOf (encoding : FlagEncoding) (lines : List Text) (word : Text) : List Flag :=
  (((items lines).filter (itemWord · == word)).flatMap (itemFlags encoding)).eraseDups

variable {encoding : FlagEncoding} {lines : List Text} {word : Text}

theorem readItem_eq (encoding : FlagEncoding) (item : Text) :
    readItem encoding item = (itemWord item, itemFlags encoding item) := by
  unfold readItem itemWord itemFlags
  rw [Text.cutAt_eq]
  cases item with
  | nil => simp
  | cons c cs =>
    by_cases hc : c = '/'
    · simp [hc]
    · by_cases hmem : '/' ∈ cs
      · simp [hc, hmem]
      · -- without a slash the item is its word, and nothing is left for flags
        have hall : ∀ d ∈ cs, (d != '/') = true := by
          intro d hd
          simpa using fun heq : d = '/' => hmem (heq ▸ hd)
        have htake : cs.takeWhile (· != '/') = cs := List.takeWhile_eq_self_iff.2 hall
        have hdrop : cs.dropWhile (· != '/') = [] := List.dropWhile_eq_nil_iff.2 hall
        simp [hc, Ne.symm hc, hmem, htake, hdrop]

/-- The occurrences of words in lines are their items, read one by one. -/
theorem filterMap_readLine (encoding : FlagEncoding) (lines : List Text) :
    lines.filterMap (readLine encoding) =
      (items lines).map fun item => (itemWord item, itemFlags encoding item) := by
  rw [items, List.map_filterMap]
  refine List.filterMap_congr fun line _ => ?_
  simp only [readLine, funext (readItem_eq encoding)]

/-! ### Occurrences of words -/

/-- **Occurrences of words.** Each of them adds its flags to the flags of its own word, and does
nothing to other words. -/
theorem get?_foldl_addOccurrence {occurrences : List (Text × List Flag)}
    (hne : ∀ occurrence ∈ occurrences, occurrence.1 ≠ []) (words : WordTrie (List Flag))
    (word : Text) :
    (occurrences.foldl addOccurrence words).get? word =
      if word ∈ occurrences.map Prod.fst then
        some (((occurrences.filter (·.1 == word)).flatMap Prod.snd).foldl appendNew
          ((words.get? word).getD []))
      else words.get? word := by
  induction occurrences generalizing words with
  | nil => simp
  | cons occurrence occurrences ih =>
    have hget := WordTrie.get?_alter (fun flags => occurrence.2.foldl appendNew (flags.getD []))
      words (hne occurrence List.mem_cons_self) word
    rw [List.foldl_cons, ih (fun o ho => hne o (List.mem_cons_of_mem occurrence ho)), addOccurrence,
      hget]
    simp only [List.map_cons, List.mem_cons]
    by_cases hword : word = occurrence.1
    · subst hword
      by_cases hlater : occurrence.1 ∈ occurrences.map Prod.fst
      · simp [hlater, List.foldl_append]
      · have hnone : occurrences.filter (·.1 == occurrence.1) = [] := by
          rw [List.filter_eq_nil_iff]
          intro o ho heq
          exact hlater (eq_of_beq heq ▸ List.mem_map_of_mem ho)
        simp [hlater, hnone]
    · have hother : (occurrence.1 == word) = false := by simpa using Ne.symm hword
      simp only [hword, false_or, if_false, List.filter_cons, hother, Bool.false_eq_true]

/-- The words of lines are not empty. -/
theorem ne_nil_of_mem_wordsOf (h : word ∈ wordsOf lines) : word ≠ [] := by
  obtain ⟨item, hitem, rfl⟩ := List.mem_map.1 h
  obtain ⟨line, -, hline⟩ := List.mem_filterMap.1 hitem
  have hword := fst_readItem .ascii (Text.solid_of_mem_fields (List.mem_of_mem_head? hline)).1
  rw [readItem_eq] at hword
  exact hword.1

/-- **What a look-up finds** in the trie that lines make. -/
theorem get?_readWords (encoding : FlagEncoding) (lines : List Text) (word : Text) :
    (readWords encoding lines).get? word =
      if word ∈ wordsOf lines then some (flagsOf encoding lines word) else none := by
  have hwords : ((items lines).map fun item => (itemWord item, itemFlags encoding item)).map
      Prod.fst = wordsOf lines := by
    simp [wordsOf, Function.comp_def]
  have hne : ∀ occurrence ∈ (items lines).map fun item => (itemWord item, itemFlags encoding item),
      occurrence.1 ≠ [] := fun occurrence hocc =>
    ne_nil_of_mem_wordsOf (hwords ▸ List.mem_map_of_mem hocc)
  rw [readWords, filterMap_readLine, get?_foldl_addOccurrence hne, hwords]
  simp only [WordTrie.get?_empty, Option.getD_none, foldl_appendNew_nil, flagsOf,
    List.filter_map, List.flatMap_map, Function.comp_def]

theorem mem_flagsOf {flag : Flag} :
    flag ∈ flagsOf encoding lines word ↔
      ∃ item ∈ items lines, itemWord item = word ∧ flag ∈ itemFlags encoding item := by
  simp [flagsOf, and_assoc]

/-- The trie that lines make has each of their words once. -/
theorem size_readWords (encoding : FlagEncoding) (lines : List Text) :
    (readWords encoding lines).size = (wordsOf lines).eraseDups.length := by
  have hunambiguous := (lexical_readWords encoding lines).unambiguous
  rw [WordTrie.size_eq_length_toList, ← List.length_map Prod.fst]
  refine List.Perm.length_eq ?_
  rw [List.perm_ext_iff_of_nodup hunambiguous.nodup_words (nodup_eraseDups _)]
  intro word
  rw [List.mem_eraseDups]
  have hget := get?_readWords encoding lines word
  constructor
  · intro hmem
    obtain ⟨⟨v, flags⟩, hentry, rfl⟩ := List.mem_map.1 hmem
    by_contra hnone
    rw [(WordTrie.mem_toList_iff hunambiguous).1 hentry, if_neg hnone] at hget
    cases hget
  · intro hmem
    rw [if_pos hmem, ← WordTrie.mem_toList_iff hunambiguous] at hget
    exact List.mem_map_of_mem hget

/-- A text that begins with a count is a word list. -/
theorem read_eq (encoding : FlagEncoding) (text : Text) :
    read encoding text =
      (count? text).map fun declared => ⟨declared, readWords encoding (body text)⟩ := by
  unfold read count? body
  cases contentLines text <;> simp

end WordList

/-! ### Dictionaries -/

namespace Dictionary

variable {grammar words name : Text} {dictionary : Dictionary}

/-- **When there is a dictionary.** The grammar is read and the word list begins with a count; the
dictionary is made of the table and of the lines after the count. -/
theorem ofTexts_result_eq_ok_iff :
    (ofTexts grammar words name).result = .ok dictionary ↔
      (∃ declared, WordList.count? words = some declared) ∧
        ∃ table, (AffixTable.parse grammar (name ++ ".aff".toList)).result = .ok table ∧
          dictionary =
            ofWords name table (WordList.readWords table.flagEncoding (WordList.body words)) := by
  simp only [ofTexts, Logged.result_andThen_eq_ok_iff, Logged.result_mapError_eq_ok_iff,
    Logged.result_after, ofTable, WordList.read_eq]
  cases WordList.count? words <;> simp [eq_comm]

theorem ofTexts_result_toOption (grammar words name : Text) :
    (ofTexts grammar words name).result.toOption =
      (AffixTable.parse grammar (name ++ ".aff".toList)).result.toOption.bind fun table =>
        (WordList.count? words).map fun _ =>
          ofWords name table (WordList.readWords table.flagEncoding (WordList.body words)) := by
  ext dictionary
  simp only [toOption_eq_some_iff, ofTexts_result_eq_ok_iff, Option.bind_eq_some_iff]
  cases WordList.count? words <;> simp [eq_comm]

/-- **When the count is missing.** The grammar is read, but the word list does not begin with a
count; the error names the word list. -/
theorem ofTexts_result_eq_missingCount_iff {file : Text} :
    (ofTexts grammar words name).result = .error (.missingCount file) ↔
      file = name ++ ".dic".toList ∧ WordList.count? words = none ∧
        ∃ table, (AffixTable.parse grammar (name ++ ".aff".toList)).result = .ok table := by
  unfold ofTexts Logged.andThen Logged.mapError
  cases (AffixTable.parse grammar (name ++ ".aff".toList)).result with
  | error e => simp [Except.mapError]
  | ok table =>
    simp only [Except.mapError, Logged.result_after, ofTable, WordList.read_eq]
    cases WordList.count? words <;> simp [eq_comm]

theorem lookup_of_ofTexts (h : (ofTexts grammar words name).result = .ok dictionary)
    (word : Text) :
    dictionary.lookup word =
      if word ∈ WordList.wordsOf (WordList.body words) then
        some ⟨word, WordList.flagsOf dictionary.affixes.flagEncoding (WordList.body words) word⟩
      else none := by
  obtain ⟨-, table, -, rfl⟩ := ofTexts_result_eq_ok_iff.1 h
  rw [lookup_ofWords, WordList.get?_readWords]
  split_ifs <;> rfl

theorem size_of_ofTexts (h : (ofTexts grammar words name).result = .ok dictionary) :
    dictionary.size = (WordList.wordsOf (WordList.body words)).eraseDups.length := by
  obtain ⟨-, table, -, rfl⟩ := ofTexts_result_eq_ok_iff.1 h
  exact (WordTrie.size_mapWithWord _ _).trans
    (WordList.size_readWords table.flagEncoding (WordList.body words))

theorem flagEncoding_of_ofTexts (h : (ofTexts grammar words name).result = .ok dictionary) :
    dictionary.affixes.flagEncoding =
      (GrammarLine.flagEncodings grammar).getLast?.getD .ascii := by
  obtain ⟨-, table, htable, rfl⟩ := ofTexts_result_eq_ok_iff.1 h
  exact AffixTable.flagEncoding_of_parse htable

/-- The words of the entries are solid and not empty. -/
theorem WellFormed.solid_of_mem_entries (h : dictionary.WellFormed) {entry : Entry}
    (hentry : entry ∈ dictionary.entries) : entry.word ≠ [] ∧ Text.Solid entry.word := by
  have hcontains := contains_iff_exists_lookup.2 ⟨entry, h.mem_entries_iff.1 hentry⟩
  refine ⟨fun hnil => ?_, h.solid_of_contains hcontains⟩
  simp [hnil] at hcontains

/-- **What a dictionary holds.** A look-up finds exactly the words of the lines after the count,
each with the flags of all its lines, read in the encoding that the grammar asks for last. The size
is the number of different words. There is no dictionary for want of a count if and only if the
grammar is read and the first line that is not blank does not begin with a number. -/
theorem holds_wordList (grammar words name : Text) :
    (∀ dictionary, (ofTexts grammar words name).result = .ok dictionary →
      (∀ word, dictionary.lookup word =
        if word ∈ WordList.wordsOf (WordList.body words) then
          some ⟨word, WordList.flagsOf ((GrammarLine.flagEncodings grammar).getLast?.getD .ascii)
            (WordList.body words) word⟩
        else none) ∧
      dictionary.size = (WordList.wordsOf (WordList.body words)).eraseDups.length ∧
      (∀ entry ∈ dictionary.entries, entry.word ≠ [] ∧ Text.Solid entry.word)) ∧
    ∀ file, (ofTexts grammar words name).result = .error (.missingCount file) ↔
      file = name ++ ".dic".toList ∧ WordList.count? words = none ∧
        ∃ table, (AffixTable.parse grammar (name ++ ".aff".toList)).result = .ok table := by
  refine ⟨fun dictionary h => ⟨fun word => ?_, size_of_ofTexts h, fun entry hentry => ?_⟩,
    fun file => ofTexts_result_eq_missingCount_iff⟩
  · rw [lookup_of_ofTexts h, flagEncoding_of_ofTexts h]
  · exact (wellFormed_of_ofTexts h).solid_of_mem_entries hentry

/-- Two lines of `cat` under comma-separated flags, and an item that begins with a slash; a list
that begins with a word has no count. -/
theorem lookup_cat_eq :
    (∃ dictionary : Dictionary,
      (ofTexts "FLAG long\nFLAG num\n".toList
          "\ufeff2 # words\n\n\ufeffcat/7,12 noun\n/cat/7\n cat/12,3\n".toList
          "en".toList).result = .ok dictionary ∧
        dictionary.lookup "cat".toList =
          some ⟨"cat".toList, ["7".toList, "12".toList, "3".toList]⟩ ∧
        dictionary.lookup "/cat/7".toList = some ⟨"/cat/7".toList, []⟩ ∧
        dictionary.lookup "noun".toList = none ∧ dictionary.size = 2) ∧
      (ofTexts "".toList "cat\n1\n".toList "en".toList).result =
        .error (.missingCount "en.dic".toList) := by
  constructor
  · obtain ⟨dictionary, hbuilt, -⟩ := Logged.exists_result_eq_ok (p := fun _ : Dictionary => true)
      (show (ofTexts "FLAG long\nFLAG num\n".toList
        "\ufeff2 # words\n\n\ufeffcat/7,12 noun\n/cat/7\n cat/12,3\n".toList
        "en".toList).result.toOption.any _ = true by decide +kernel)
    obtain ⟨hlookup, hsize, -⟩ := (holds_wordList _ _ _).1 dictionary hbuilt
    refine ⟨dictionary, hbuilt, ?_, ?_, ?_, ?_⟩
    · rw [hlookup]
      decide +kernel
    · rw [hlookup]
      decide +kernel
    · rw [hlookup]
      decide +kernel
    · rw [hsize]
      decide +kernel
  · refine ((holds_wordList _ _ _).2 _).2 ⟨rfl, by decide +kernel, ?_⟩
    obtain ⟨table, htable, -⟩ := Logged.exists_result_eq_ok (p := fun _ : AffixTable => true)
      (show (AffixTable.parse "".toList ("en".toList ++ ".aff".toList)).result.toOption.any _ = true
        by decide +kernel)
    exact ⟨table, htable⟩

end Dictionary

end AffixSpeller
