import AffixSpeller.Proofs.Affix.RuleOrder
import AffixSpeller.Proofs.Lexicon.WordList
import AffixSpeller.Proofs.Spelling.Search

/-!
# The order of lines

The order of the rule lines within groups and the order of the lines of a word list have a bearing
on the order of rules, flags and forms inside a dictionary, but on no answer: an answer depends on
which words there are, on which texts their flags license, and on the order of the replacement
table and of the characters to try, which reordered lines leave as they are.

## Main definitions

* `WordList.BodyReordered`: word lists with the same count and the same later lines in some order.
* `Entry.SameFlags`, `Dictionary.Alike`: equality up to the order of flags and rules.

## Main results

* `AffixTable.SameRules.mem_forms_expand_iff`: the same flags license the same forms.
* `Dictionary.suggest_congr`: what an answer depends on.
* `Dictionary.alike_of_ofTexts`: dictionaries of reordered texts are alike.
* `Dictionary.ofTexts_of_reordered`: so their answers are the same.
-/

namespace AffixSpeller

/-! ### Forms -/

namespace AffixTable.SameRules

variable {table other : AffixTable} {word form : Text} {flags flags' : List Flag}

private theorem mem_forms_expand_of_sameRules (h : table.SameRules other)
    (hflags : ∀ flag ∈ flags, flag ∈ flags') (hform : form ∈ (table.expand word flags).forms) :
    form ∈ (other.expand word flags').forms := by
  obtain ⟨flag, hflag, kind, g, hg, rule, hrule, happly⟩ := mem_forms_expand.1 hform
  have hgroup := h.group? kind flag
  rw [hg] at hgroup
  cases hother : other.group? kind flag with
  | none => simp [hother] at hgroup
  | some k =>
    rw [hother, Option.rel_some_some] at hgroup
    exact mem_forms_expand.2
      ⟨flag, hflags flag hflag, kind, k, hother, rule, hgroup.rules.mem_iff.1 hrule, happly⟩

/-- The same flags license the same forms, whatever the order of flags and rules. -/
theorem mem_forms_expand_iff (h : table.SameRules other)
    (hflags : ∀ flag, flag ∈ flags ↔ flag ∈ flags') :
    form ∈ (table.expand word flags).forms ↔ form ∈ (other.expand word flags').forms :=
  ⟨mem_forms_expand_of_sameRules h fun flag => (hflags flag).1,
    mem_forms_expand_of_sameRules h.symm fun flag => (hflags flag).2⟩

end AffixTable.SameRules

/-! ### Word lists -/

namespace WordList

/-- The word lists begin with the same line that is not blank, and the later ones are the same in
some order. -/
structure BodyReordered (words words' : Text) : Prop where
  head?_eq : (contentLines words).head? = (contentLines words').head?
  body : (body words).Perm (body words')

variable {lines lines' : List Text}

theorem items_perm (h : lines.Perm lines') : (items lines).Perm (items lines') :=
  h.filterMap _

theorem mem_wordsOf_iff_of_perm (h : lines.Perm lines') {word : Text} :
    word ∈ wordsOf lines ↔ word ∈ wordsOf lines' :=
  ((items_perm h).map itemWord).mem_iff

theorem mem_flagsOf_iff_of_perm (h : lines.Perm lines') {encoding : FlagEncoding} {word : Text}
    {flag : Flag} : flag ∈ flagsOf encoding lines word ↔ flag ∈ flagsOf encoding lines' word := by
  simp only [mem_flagsOf, (items_perm h).mem_iff]

theorem length_eraseDups_wordsOf (h : lines.Perm lines') :
    (wordsOf lines).eraseDups.length = (wordsOf lines').eraseDups.length := by
  refine List.Perm.length_eq ?_
  rw [List.perm_ext_iff_of_nodup (nodup_eraseDups _) (nodup_eraseDups _)]
  simp only [List.mem_eraseDups, mem_wordsOf_iff_of_perm h, implies_true]

theorem BodyReordered.count?_eq {words words' : Text} (h : BodyReordered words words') :
    count? words = count? words' := by
  rw [count?, h.head?_eq, count?]

end WordList

/-! ### Dictionaries -/

/-- The entries are of one word and have the same flags in some order. -/
structure Entry.SameFlags (entry entry' : Entry) : Prop where
  word_eq : entry.word = entry'.word
  mem_flags_iff : ∀ flag, flag ∈ entry.flags ↔ flag ∈ entry'.flags

namespace Dictionary

variable {dictionary other : Dictionary} {word text form : Text}

/-- The dictionaries differ in the order of rules and flags only. -/
structure Alike (dictionary other : Dictionary) : Prop where
  affixes : dictionary.affixes.SameRules other.affixes
  lookup : ∀ word, Option.Rel Entry.SameFlags (dictionary.lookup word) (other.lookup word)
  size_eq : dictionary.size = other.size

namespace Alike

theorem contains_eq (h : dictionary.Alike other) (word : Text) :
    dictionary.contains word = other.contains word := by
  rw [contains_eq_isSome_lookup, contains_eq_isSome_lookup, isSome_eq_of_rel (h.lookup word)]

theorem mem_forms_iff (h : dictionary.Alike other) {entry entry' : Entry}
    (hentry : entry.SameFlags entry') :
    form ∈ (dictionary.expand entry).forms ↔ form ∈ (other.expand entry').forms := by
  rw [expand, expand, hentry.word_eq]
  exact h.affixes.mem_forms_expand_iff hentry.mem_flags_iff

theorem licenses_eq (h : dictionary.Alike other) (text word : Text) :
    dictionary.licenses text word = other.licenses text word := by
  have hlookup := h.lookup text
  unfold licenses
  generalize dictionary.lookup text = x at *
  generalize other.lookup text = y at *
  cases hlookup with
  | none => rfl
  | some hentry => simp [Expansion.contains, h.mem_forms_iff hentry]

end Alike

end Dictionary

/-! ### What an answer depends on -/

namespace Search

variable {dictionary other : Dictionary} {word : Text}

/-- What a step does with a word. -/
theorem step_word (search : Search) (text : Text) :
    search.step dictionary word (.word text) =
      if search.isSettled text then some search
      else if dictionary.licenses text word then none
      else if dictionary.contains text then some (search.add text)
      else some (search.refuse text) := by
  simp only [step, Dictionary.licenses, Dictionary.contains_eq_isSome_lookup]
  cases dictionary.lookup text <;> simp

/-- A search depends on the words of the dictionary and on what their flags license. -/
theorem run_congr (hcontains : ∀ text, dictionary.contains text = other.contains text)
    (hlicenses : ∀ text, dictionary.licenses text word = other.licenses text word)
    (search : Search) (candidates : List Candidate) :
    run dictionary word search candidates = run other word search candidates := by
  induction candidates generalizing search with
  | nil => rfl
  | cons candidate candidates ih =>
    have hstep : search.step dictionary word candidate = search.step other word candidate := by
      cases candidate with
      | word text => rw [step_word, step_word, hcontains, hlicenses]
      | phrase text => rfl
    rw [run, run, hstep]
    cases search.step other word candidate with
    | none => rfl
    | some next => exact ih next

end Search

namespace Dictionary

variable {dictionary other : Dictionary} {word : Text}

theorem isKnown_congr (hcontains : ∀ text, dictionary.contains text = other.contains text)
    (word : Text) : dictionary.isKnown word = other.isKnown word := by
  rw [isKnown, isKnown, hcontains, hcontains]

/-- The candidates depend on the words of the dictionary, the replacement table and the characters
to try. -/
theorem candidates_congr (hcontains : ∀ text, dictionary.contains text = other.contains text)
    (htry : dictionary.affixes.tryCharacters = other.affixes.tryCharacters)
    (hreplacements : dictionary.affixes.replacements = other.affixes.replacements)
    (word : Text) : dictionary.candidates word = other.candidates word := by
  have hwords : dictionary.contains = other.contains := funext hcontains
  have hparts : dictionary.containsParts = other.containsParts := by
    funext text
    rw [containsParts, containsParts, hwords]
  have hreplaced : dictionary.ofReplaced = other.ofReplaced := by
    funext text
    rw [ofReplaced, ofReplaced, hparts]
  have hpair : dictionary.pair? = other.pair? := by
    funext left right
    rw [pair?, pair?, hwords]
  simp only [candidates, replacementCandidates, splitCandidates, htry, hreplacements, hreplaced,
    hpair]

/-- **What an answer depends on**: the words of the dictionary, what their flags license, the
replacement table and the characters to try. -/
theorem suggest_congr (hcontains : ∀ text, dictionary.contains text = other.contains text)
    (hlicenses : ∀ text, dictionary.licenses text word = other.licenses text word)
    (htry : dictionary.affixes.tryCharacters = other.affixes.tryCharacters)
    (hreplacements : dictionary.affixes.replacements = other.affixes.replacements) :
    dictionary.suggest word = other.suggest word := by
  rw [suggest, suggest, isKnown_congr hcontains, candidates_congr hcontains htry hreplacements,
    Search.run_congr hcontains hlicenses]
  simp only [hlicenses]

theorem Alike.suggest_eq (h : dictionary.Alike other) (word : Text) :
    dictionary.suggest word = other.suggest word := by
  refine suggest_congr h.contains_eq (fun text => h.licenses_eq text word) ?_ ?_
  · rw [h.affixes.settings]
  · rw [h.affixes.settings]

/-! ### Reordered texts -/

variable {grammar grammar' words words' name : Text}

/-- Tables with the same rules and the same later lines make dictionaries that are alike. -/
private theorem alike_of_sameRules {table table' : AffixTable} (htable : table.SameRules table')
    (hwords : WordList.BodyReordered words words') (name : Text) :
    Alike (ofWords name table (WordList.readWords table.flagEncoding (WordList.body words)))
      (ofWords name table' (WordList.readWords table'.flagEncoding (WordList.body words'))) where
  affixes := htable
  lookup word := by
    have hencoding : table'.flagEncoding = table.flagEncoding := by rw [htable.settings]
    simp only [lookup_ofWords, WordList.get?_readWords, hencoding,
      WordList.mem_wordsOf_iff_of_perm hwords.body]
    split_ifs
    · exact .some ⟨rfl, fun flag => WordList.mem_flagsOf_iff_of_perm hwords.body⟩
    · exact .none
  size_eq := by
    simp only [size, ofWords, WordTrie.size_mapWithWord, WordList.size_readWords,
      WordList.length_eraseDups_wordsOf hwords.body]

/-- **Dictionaries of reordered texts are alike.** There is one for both texts or for neither. -/
theorem alike_of_ofTexts
    (hgrammar : GrammarLine.RulesReordered (GrammarLine.fieldsOf grammar)
      (GrammarLine.fieldsOf grammar'))
    (hwords : WordList.BodyReordered words words') (name : Text) :
    Option.Rel Alike (ofTexts grammar words name).result.toOption
      (ofTexts grammar' words' name).result.toOption := by
  have hparse := AffixTable.sameRules_of_parse hgrammar (name ++ ".aff".toList)
  rw [ofTexts_result_toOption, ofTexts_result_toOption, ← hwords.count?_eq]
  generalize (AffixTable.parse grammar (name ++ ".aff".toList)).result.toOption = x at *
  generalize (AffixTable.parse grammar' (name ++ ".aff".toList)).result.toOption = y at *
  cases hparse with
  | none => exact .none
  | some htable =>
    cases WordList.count? words with
    | none => exact .none
    | some declared => exact .some (alike_of_sameRules htable hwords name)

/-- **The order of lines does not matter.** There is a dictionary for both pairs of texts or for
neither. They have the same words, as many as each other; a word has the same flags in both, and
the same forms; and the answers for all words are the same. -/
theorem ofTexts_of_reordered
    (hgrammar : GrammarLine.RulesReordered (GrammarLine.fieldsOf grammar)
      (GrammarLine.fieldsOf grammar'))
    (hwords : WordList.BodyReordered words words') (name : Text) :
    ((∃ dictionary, (ofTexts grammar words name).result = .ok dictionary) ↔
        ∃ other, (ofTexts grammar' words' name).result = .ok other) ∧
      ∀ dictionary other, (ofTexts grammar words name).result = .ok dictionary →
        (ofTexts grammar' words' name).result = .ok other →
        dictionary.size = other.size ∧
        (∀ word, dictionary.contains word = other.contains word) ∧
        (∀ word entry entry', dictionary.lookup word = some entry →
          other.lookup word = some entry' →
          (∀ flag, flag ∈ entry.flags ↔ flag ∈ entry'.flags) ∧
            ∀ form, form ∈ (dictionary.expand entry).forms ↔ form ∈ (other.expand entry').forms) ∧
        ∀ word, dictionary.isKnown word = other.isKnown word ∧
          dictionary.suggest word = other.suggest word := by
  have halike := alike_of_ofTexts hgrammar hwords name
  constructor
  · simp only [← toOption_eq_some_iff, ← Option.isSome_iff_exists, isSome_eq_of_rel halike]
  · intro dictionary other hdictionary hother
    have halike : dictionary.Alike other := by
      simpa [hdictionary, hother, Except.toOption] using halike
    refine ⟨halike.size_eq, halike.contains_eq, fun word entry entry' hentry hentry' => ?_,
      fun word => ⟨isKnown_congr halike.contains_eq word, halike.suggest_eq word⟩⟩
    have hsame : entry.SameFlags entry' := by
      simpa [hentry, hentry'] using halike.lookup word
    exact ⟨hsame.mem_flags_iff, fun form => halike.mem_forms_iff hsame⟩

/-- Two rules of one group in either order, and two lines of `cat`: the flags of the word come in
another order, but all answers are the same. -/
theorem suggest_eq_of_cats_reordered :
    ∃ dictionary other : Dictionary,
      (ofTexts "SFX S Y 2\nSFX S 0 s [^y]\nTRY s\nSFX S y ies y\n".toList
          "3\ncity/S\ncat/A\ncat/S\n".toList "en".toList).result = .ok dictionary ∧
        (ofTexts "SFX S Y 2\nSFX S y ies y # later\nTRY s\nSFX S 0 s [^y]\n".toList
          "3\ncat/S\ncity/S\ncat/A\n".toList "en".toList).result = .ok other ∧
        dictionary.lookup "cat".toList = some ⟨"cat".toList, ["A".toList, "S".toList]⟩ ∧
        other.lookup "cat".toList = some ⟨"cat".toList, ["S".toList, "A".toList]⟩ ∧
        ∀ word, dictionary.suggest word = other.suggest word := by
  have hgrammar : GrammarLine.RulesReordered
      (GrammarLine.fieldsOf "SFX S Y 2\nSFX S 0 s [^y]\nTRY s\nSFX S y ies y\n".toList)
      (GrammarLine.fieldsOf
        "SFX S Y 2\nSFX S y ies y # later\nTRY s\nSFX S 0 s [^y]\n".toList) := by
    have hlines : GrammarLine.fieldsOf "SFX S Y 2\nSFX S 0 s [^y]\nTRY s\nSFX S y ies y\n".toList =
        ["SFX S Y 2".toList.splitOn ' '] ++ "SFX S 0 s [^y]".toList.splitOn ' ' ::
          ["TRY s".toList.splitOn ' '] ++ ["SFX S y ies y".toList.splitOn ' '] := by
      decide +kernel
    have hlines' : GrammarLine.fieldsOf
        "SFX S Y 2\nSFX S y ies y # later\nTRY s\nSFX S 0 s [^y]\n".toList =
        ["SFX S Y 2".toList.splitOn ' '] ++ "SFX S y ies y".toList.splitOn ' ' ::
          ["TRY s".toList.splitOn ' '] ++ ["SFX S 0 s [^y]".toList.splitOn ' '] := by
      decide +kernel
    have hgroup (fields : List Text)
        (h : fields.take 2 = ["SFX".toList, "S".toList]) :
        GrammarLine.IsOfGroup .trailing "S".toList fields :=
      ⟨fields.drop 2, by rw [← List.take_append_drop 2 fields, h]; rfl⟩
    rw [hlines, hlines']
    exact .swap _ _ [] List.mem_cons_self (hgroup _ (by decide)) (hgroup _ (by decide))
      (hgroup _ (by decide))
  have hwords : WordList.BodyReordered "3\ncity/S\ncat/A\ncat/S\n".toList
      "3\ncat/S\ncity/S\ncat/A\n".toList := ⟨by decide, by decide⟩
  obtain ⟨dictionary, hdictionary, hlookup⟩ := Logged.exists_result_eq_ok
    (p := fun dictionary : Dictionary => decide (dictionary.lookup "cat".toList =
      some ⟨"cat".toList, ["A".toList, "S".toList]⟩))
    (show (ofTexts "SFX S Y 2\nSFX S 0 s [^y]\nTRY s\nSFX S y ies y\n".toList
      "3\ncity/S\ncat/A\ncat/S\n".toList "en".toList).result.toOption.any _ = true by
        decide +kernel)
  obtain ⟨other, hother, hlookup'⟩ := Logged.exists_result_eq_ok
    (p := fun other : Dictionary => decide (other.lookup "cat".toList =
      some ⟨"cat".toList, ["S".toList, "A".toList]⟩))
    (show (ofTexts "SFX S Y 2\nSFX S y ies y # later\nTRY s\nSFX S 0 s [^y]\n".toList
      "3\ncat/S\ncity/S\ncat/A\n".toList "en".toList).result.toOption.any _ = true by
        decide +kernel)
  obtain ⟨-, -, -, hanswers⟩ :=
    (ofTexts_of_reordered hgrammar hwords "en".toList).2 dictionary other hdictionary hother
  exact ⟨dictionary, other, hdictionary, hother, by simpa using hlookup, by simpa using hlookup',
    fun word => (hanswers word).2⟩

end Dictionary

end AffixSpeller
