import AffixSpeller.Proofs.Lexicon.WordList
import Mathlib.Data.Set.Card

/-!
# What is recorded about a dictionary

The record of a dictionary that is read begins with what reading its grammar recorded. After it
come a charset that is not that of the text, a declared number of words that is not their number,
and flags that lead nowhere; the last event says that the dictionary is there. Reading a grammar
records nothing but directives that are passed over and that the grammar was read.

## Main definitions

* `Event.IsAboutGrammar`: the events of reading a grammar.
* `Event.isFlagsUnknown`: the events about flags that lead nowhere.
* `Dictionary.entriesWithUnknown`: the entries whose expansion reports a flag.

## Main results

* `AffixTable.isAboutGrammar_of_mem_log`: reading a grammar records only such events.
* `Dictionary.log_of_ofTexts`: the record of a dictionary that is read.
* `Dictionary.countDiffers_mem_log_iff`: when it says that a declared number is wrong.
* `Dictionary.flagsUnknown_agrees`: it tells of flags that lead nowhere as expansion does.
-/

namespace AffixSpeller

/-! ### Grammars -/

/-- The event is one of reading a grammar. -/
def Event.IsAboutGrammar : Event → Prop
  | directiveIgnored .. | directiveUnknown .. | grammarRead .. => True
  | _ => False

/-- The event says that words carry flags that lead nowhere. -/
def Event.isFlagsUnknown : Event → Bool
  | flagsUnknown .. => true
  | _ => false

theorem Event.IsAboutGrammar.isFlagsUnknown_ne_true {event : Event} (h : event.IsAboutGrammar) :
    ¬event.isFlagsUnknown = true := by
  cases event <;> first | exact Bool.false_ne_true | exact h.elim

theorem GrammarLine.isAboutGrammar_of_mem_notices {file : Text} {line : GrammarLine}
    {event : Event} (h : event ∈ line.notices file) : event.IsAboutGrammar := by
  unfold notices at h
  split at h
  · cases h
  · split at h
    · rw [List.mem_singleton.1 h]
      trivial
    · rw [List.mem_singleton.1 h]
      trivial
    · cases h

/-- The lines of a grammar record only directives that are passed over. -/
theorem Draft.isAboutGrammar_of_mem_readLines {file : Text} {lines : List GrammarLine}
    {draft : Draft} {event : Event} (h : event ∈ (readLines file draft lines).log) :
    event.IsAboutGrammar := by
  induction lines generalizing draft with
  | nil => cases h
  | cons line lines ih =>
    unfold readLines at h
    split at h
    · cases h
    · obtain h | h := List.mem_append.1 h
      · exact GrammarLine.isAboutGrammar_of_mem_notices h
      · exact ih h

/-- **Reading a grammar records only events about the grammar.** -/
theorem AffixTable.isAboutGrammar_of_mem_log {text file : Text} {event : Event}
    (h : event ∈ (AffixTable.parse text file).log) : event.IsAboutGrammar := by
  obtain h | ⟨draft, -, h⟩ := Logged.mem_log_andThen h
  · exact Draft.isAboutGrammar_of_mem_readLines h
  · cases hfinish : draft.finish file with
    | error e => simp [hfinish] at h
    | ok table =>
      simp only [hfinish, Logged.log_note, List.mem_singleton] at h
      rw [h]
      trivial

/-! ### Dictionaries -/

namespace Dictionary

variable {grammar words name : Text} {dictionary : Dictionary}

/-- **The record of a dictionary**: that of its grammar, then the notices about the charset and
about the words. -/
theorem log_of_ofTexts (h : (ofTexts grammar words name).result = .ok dictionary) :
    ∃ declared, WordList.count? words = some declared ∧
      (ofTexts grammar words name).log =
        (AffixTable.parse grammar (name ++ ".aff".toList)).log ++
          (charsetNotices name dictionary.affixes ++ dictionary.wordNotices declared) := by
  obtain ⟨⟨declared, hcount⟩, table, htable, rfl⟩ := ofTexts_result_eq_ok_iff.1 h
  refine ⟨declared, hcount, ?_⟩
  have hparsed : ((AffixTable.parse grammar (name ++ ".aff".toList)).mapError
      DictionaryError.grammar).result = .ok table := Logged.result_mapError_eq_ok_iff.2 htable
  rw [ofTexts, Logged.log_andThen_of_ok hparsed, ofTable, WordList.read_eq, hcount]
  rfl

theorem countDiffers_notMem_charsetNotices {affixes : AffixTable} {other : Text}
    {declared read : Nat} :
    Event.countDiffers other declared read ∉ charsetNotices name affixes := by
  unfold charsetNotices
  split
  · simp
  · split_ifs <;> simp

theorem countDiffers_mem_wordNotices_iff {other : Text} {declared stated read : Nat} :
    Event.countDiffers other stated read ∈ dictionary.wordNotices declared ↔
      other = dictionary.name ∧ stated = declared ∧ read = dictionary.size ∧
        declared ≠ dictionary.size := by
  simp only [wordNotices]
  split_ifs <;> simp_all

/-- **When a declared number is said to be wrong**: it is not the number of the words. -/
theorem countDiffers_mem_log_iff (h : (ofTexts grammar words name).result = .ok dictionary)
    {other : Text} {declared read : Nat} :
    Event.countDiffers other declared read ∈ (ofTexts grammar words name).log ↔
      other = name ∧ WordList.count? words = some declared ∧ read = dictionary.size ∧
        declared ≠ dictionary.size := by
  obtain ⟨stated, hcount, hlog⟩ := log_of_ofTexts h
  have hgrammar : Event.countDiffers other declared read ∉
      (AffixTable.parse grammar (name ++ ".aff".toList)).log :=
    fun hmem => AffixTable.isAboutGrammar_of_mem_log hmem
  have hname : dictionary.name = name := by
    obtain ⟨-, table, -, rfl⟩ := ofTexts_result_eq_ok_iff.1 h
    rfl
  simp only [hlog, List.mem_append, hgrammar, countDiffers_notMem_charsetNotices, false_or,
    countDiffers_mem_wordNotices_iff, hname, hcount, Option.some.injEq]
  constructor
  · rintro ⟨rfl, rfl, rfl, hne⟩
    exact ⟨rfl, rfl, rfl, hne⟩
  · rintro ⟨rfl, rfl, rfl, hne⟩
    exact ⟨rfl, rfl, rfl, hne⟩

/-! ### Flags that lead nowhere -/

/-- The entries whose expansion reports a flag that leads nowhere. -/
def entriesWithUnknown (dictionary : Dictionary) : Set Entry :=
  {entry | dictionary.lookup entry.word = some entry ∧ (dictionary.expand entry).unknown ≠ []}

/-- These entries are those that are counted when a dictionary is read. -/
theorem WellFormed.entriesWithUnknown_eq (h : dictionary.WellFormed) :
    dictionary.entriesWithUnknown =
      (dictionary.entries.filter fun entry =>
        entry.flags.any dictionary.affixes.isUnknownFlag).toFinset := by
  ext entry
  have hreported : (dictionary.expand entry).unknown ≠ [] ↔
      entry.flags.any dictionary.affixes.isUnknownFlag = true := by
    rw [Ne, expand, AffixTable.unknown_expand_eq_nil_iff]
    simp
  simp [entriesWithUnknown, hreported, h.mem_entries_iff]

theorem WellFormed.countUnknown_eq_ncard (h : dictionary.WellFormed) :
    dictionary.countUnknown = dictionary.entriesWithUnknown.ncard := by
  have hnodup : dictionary.entries.Nodup := by
    refine List.Nodup.of_map Entry.word ?_
    exact h.map_word_entries ▸ h.words.unambiguous.nodup_words
  rw [h.entriesWithUnknown_eq, Set.ncard_coe_finset,
    List.toFinset_card_of_nodup (hnodup.filter _), countUnknown, List.countP_eq_length_filter]

theorem WellFormed.finite_entriesWithUnknown (h : dictionary.WellFormed) :
    dictionary.entriesWithUnknown.Finite :=
  h.entriesWithUnknown_eq ▸ Finset.finite_toSet _

/-- The record has at most one event about flags that lead nowhere, with the number of words that
have some. -/
theorem filter_isFlagsUnknown_log (h : (ofTexts grammar words name).result = .ok dictionary) :
    (ofTexts grammar words name).log.filter Event.isFlagsUnknown =
      if dictionary.countUnknown = 0 then [] else [.flagsUnknown name dictionary.countUnknown] := by
  obtain ⟨declared, -, hlog⟩ := log_of_ofTexts h
  have hname : dictionary.name = name := by
    obtain ⟨-, table, -, rfl⟩ := ofTexts_result_eq_ok_iff.1 h
    rfl
  have hgrammar : (AffixTable.parse grammar (name ++ ".aff".toList)).log.filter
      Event.isFlagsUnknown = [] :=
    List.filter_eq_nil_iff.2 fun event hmem =>
      (AffixTable.isAboutGrammar_of_mem_log hmem).isFlagsUnknown_ne_true
  have hcharset : (charsetNotices name dictionary.affixes).filter Event.isFlagsUnknown = [] := by
    unfold charsetNotices
    split
    · rfl
    · split_ifs <;> rfl
  have hwords : (dictionary.wordNotices declared).filter Event.isFlagsUnknown =
      if dictionary.countUnknown = 0 then []
      else [.flagsUnknown name dictionary.countUnknown] := by
    simp only [wordNotices, hname]
    split_ifs <;> rfl
  rw [hlog, List.filter_append, List.filter_append, hgrammar, hcharset, hwords, List.nil_append,
    List.nil_append]

/-- **The record tells of flags that lead nowhere as expansion does.** It does so if and only if the
expansion of some entry reports a flag, and then once, with the number of these entries. The
expansion of an entry reports nothing if each of its flags names a group of either kind or is the
compound flag. -/
theorem flagsUnknown_agrees (h : (ofTexts grammar words name).result = .ok dictionary) :
    ((∃ event ∈ (ofTexts grammar words name).log, event.isFlagsUnknown = true) ↔
        ∃ entry, dictionary.lookup entry.word = some entry ∧
          (dictionary.expand entry).unknown ≠ []) ∧
      dictionary.entriesWithUnknown.Finite ∧
      (dictionary.entriesWithUnknown.Nonempty →
        (ofTexts grammar words name).log.filter Event.isFlagsUnknown =
          [.flagsUnknown name dictionary.entriesWithUnknown.ncard]) ∧
      ∀ entry, dictionary.lookup entry.word = some entry →
        ((dictionary.expand entry).unknown = [] ↔
          ∀ flag ∈ entry.flags, dictionary.affixes.compoundFlag = some flag ∨
            ∃ kind g, dictionary.affixes.group? kind flag = some g) := by
  have hdictionary := wellFormed_of_ofTexts h
  have hfinite := hdictionary.finite_entriesWithUnknown
  have hlog := filter_isFlagsUnknown_log h
  rw [hdictionary.countUnknown_eq_ncard] at hlog
  have hzero : dictionary.entriesWithUnknown.ncard = 0 ↔
      ¬dictionary.entriesWithUnknown.Nonempty := by
    rw [Set.ncard_eq_zero hfinite, Set.not_nonempty_iff_eq_empty]
  refine ⟨?_, hfinite, fun hsome => ?_, fun entry _ => ?_⟩
  · have hevent : (∃ event ∈ (ofTexts grammar words name).log, event.isFlagsUnknown = true) ↔
        (ofTexts grammar words name).log.filter Event.isFlagsUnknown ≠ [] := by
      simp [List.filter_eq_nil_iff]
    have hsome : (ofTexts grammar words name).log.filter Event.isFlagsUnknown ≠ [] ↔
        dictionary.entriesWithUnknown.Nonempty := by
      rw [hlog, ← not_iff_not, ← hzero]
      split_ifs with hnone <;> simp [hnone]
    exact hevent.trans hsome
  · rw [hlog, if_neg fun hnone => hzero.1 hnone hsome]
  · simp only [expand, AffixTable.unknown_expand_eq_nil_iff, AffixTable.isUnknownFlag_eq_false_iff]

/-- Two of five words have a flag that leads nowhere, `walk` on two lines; the compound flag and a
flag that names a prefix group only are none. -/
theorem flagsUnknown_agrees_two_of_five :
    let grammar : Text :=
      "COMPOUNDFLAG Z\nPFX P Y 1\nPFX P 0 re .\nSFX S Y 1\nSFX S 0 s .\n".toList
    let words : Text := "5\nwalk/SQ\nread/PZ\nwalk/QZ\nsea/Z\nsky/PR\nice\n".toList
    ∃ dictionary, (ofTexts grammar words "en".toList).result = .ok dictionary ∧
      (ofTexts grammar words "en".toList).log.filter Event.isFlagsUnknown =
        [.flagsUnknown "en".toList 2] ∧
      dictionary.entriesWithUnknown.ncard = 2 ∧
      ∀ entry, dictionary.lookup "read".toList = some entry →
        (dictionary.expand entry).unknown = [] := by
  intro grammar words
  obtain ⟨dictionary, hbuilt, htest⟩ := Logged.exists_result_eq_ok
    (p := fun d : Dictionary => d.affixes.compoundFlag == some "Z".toList &&
      (d.affixes.group? .leading "P".toList).isSome &&
      (d.lookup "read".toList).any (·.flags == ["P".toList, "Z".toList]))
    (show (ofTexts grammar words "en".toList).result.toOption.any _ = true by decide +kernel)
  have hlog : (ofTexts grammar words "en".toList).log.filter Event.isFlagsUnknown =
      [.flagsUnknown "en".toList 2] := by decide +kernel
  obtain ⟨hevent, -, hcount, hentries⟩ := flagsUnknown_agrees hbuilt
  simp only [Bool.and_eq_true, beq_iff_eq, Option.any_eq_true] at htest
  obtain ⟨⟨hcompound, hgroup⟩, read, hread, hflags⟩ := htest
  refine ⟨dictionary, hbuilt, hlog, ?_, fun entry hentry => ?_⟩
  · have hsome : dictionary.entriesWithUnknown.Nonempty := by
      refine hevent.1 ⟨.flagsUnknown "en".toList 2, ?_, rfl⟩
      exact List.mem_of_mem_filter (hlog ▸ List.mem_singleton_self _)
    have hsame := (hcount hsome).symm.trans hlog
    simpa using hsame
  · obtain rfl : read = entry := Option.some.inj (hread.symm.trans hentry)
    have hword : read.word = "read".toList := word_of_lookup hread
    obtain ⟨g, hg⟩ := Option.isSome_iff_exists.1 hgroup
    rw [hentries read (hword ▸ hread), hflags]
    simp only [List.mem_cons, List.not_mem_nil, or_false]
    rintro flag (rfl | rfl)
    · exact .inr ⟨.leading, g, hg⟩
    · exact .inl hcompound

end Dictionary

end AffixSpeller
