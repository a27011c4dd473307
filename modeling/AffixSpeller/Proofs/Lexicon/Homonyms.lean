import AffixSpeller.Proofs.Lexicon.WordList

/-!
# Words on several lines

What flags license is the union of what each of them licenses, so it depends on which flags there
are and not on their order or number. A word list keeps, for a word that comes on several lines,
every flag of these lines once. Nothing is lost by that: the entry licenses what one of the lines
alone would license, and nothing else.

## Main definitions

* `WordList.HasLine`: some line is one of a word with given flags.

## Main results

* `AffixTable.mem_forms_expand_iff_of_parts`, `AffixTable.mem_unknown_expand_iff_of_parts`: what
  flags that are gathered from several lists license, and which of them lead nowhere.
* `WordList.mem_flagsOf_iff_exists_hasLine`: the flags of a word are those that it has on some
  line.
* `AffixTable.expand_eq_union`: the expansion of flags from several lists, or several lines.
-/

namespace AffixSpeller

namespace AffixTable

variable {table : AffixTable} {word form : Text} {flags : List Flag}

theorem mem_unknown_expand {unknown : UnknownFlag} :
    unknown ∈ (table.expand word flags).unknown ↔
      unknown.word = word ∧ unknown.flag ∈ flags ∧ table.isUnknownFlag unknown.flag = true := by
  simp only [unknown_expand, List.mem_map, List.mem_filter]
  constructor
  · rintro ⟨flag, ⟨hflag, hunknown⟩, rfl⟩
    exact ⟨rfl, hflag, hunknown⟩
  · rintro ⟨rfl, hflag, hunknown⟩
    exact ⟨unknown.flag, ⟨hflag, hunknown⟩, rfl⟩

/-- No form comes twice. -/
theorem nodup_forms_expand : (table.expand word flags).forms.Nodup := by
  rw [forms_expand]
  exact nodup_eraseDups _

section Parts

variable {ι : Type} {part : ι → List Flag} {p : ι → Prop}

/-- Flags that are gathered from several lists license what one of the lists does. -/
theorem mem_forms_expand_iff_of_parts (h : ∀ flag, flag ∈ flags ↔ ∃ i, p i ∧ flag ∈ part i) :
    form ∈ (table.expand word flags).forms ↔
      ∃ i, p i ∧ form ∈ (table.expand word (part i)).forms := by
  simp only [mem_forms_expand, h]
  constructor
  · rintro ⟨flag, ⟨i, hi, hflag⟩, hforms⟩
    exact ⟨i, hi, flag, hflag, hforms⟩
  · rintro ⟨i, hi, flag, hflag, hforms⟩
    exact ⟨flag, ⟨i, hi, hflag⟩, hforms⟩

/-- A flag that leads nowhere does so in each of the lists that it comes from. -/
theorem mem_unknown_expand_iff_of_parts {unknown : UnknownFlag}
    (h : ∀ flag, flag ∈ flags ↔ ∃ i, p i ∧ flag ∈ part i) :
    unknown ∈ (table.expand word flags).unknown ↔
      ∃ i, p i ∧ unknown ∈ (table.expand word (part i)).unknown := by
  simp only [mem_unknown_expand, h]
  constructor
  · rintro ⟨hword, ⟨i, hi, hflag⟩, hunknown⟩
    exact ⟨i, hi, hword, hflag, hunknown⟩
  · rintro ⟨i, hi, hword, hflag, hunknown⟩
    exact ⟨hword, ⟨i, hi, hflag⟩, hunknown⟩

end Parts

theorem mem_forms_expand_append {flags' : List Flag} :
    form ∈ (table.expand word (flags ++ flags')).forms ↔
      form ∈ (table.expand word flags).forms ∨ form ∈ (table.expand word flags').forms := by
  simp only [mem_forms_expand, List.mem_append, or_and_right, exists_or]

theorem forms_expand_subset {flags' : List Flag} (h : flags ⊆ flags') :
    (table.expand word flags).forms ⊆ (table.expand word flags').forms := by
  intro form hform
  obtain ⟨flag, hflag, hforms⟩ := mem_forms_expand.1 hform
  exact mem_forms_expand.2 ⟨flag, h hflag, hforms⟩

end AffixTable

/-! ### Lines of a word -/

namespace WordList

/-- Some line is one of the word, with these flags. -/
def HasLine (encoding : FlagEncoding) (lines : List Text) (word : Text) (flags : List Flag) :
    Prop :=
  ∃ line ∈ lines, readLine encoding line = some (word, flags)

variable {encoding : FlagEncoding} {lines : List Text} {word : Text}

theorem readLine_eq_some_iff {line : Text} {occurrence : Text × List Flag} :
    readLine encoding line = some occurrence ↔
      ∃ item, (Text.fields line).head? = some item ∧
        occurrence = (itemWord item, itemFlags encoding item) := by
  rw [readLine, Option.map_eq_some_iff]
  simp only [readItem_eq, eq_comm]

/-- **The flags of a word** are those that it has on some line. -/
theorem mem_flagsOf_iff_exists_hasLine {flag : Flag} :
    flag ∈ flagsOf encoding lines word ↔
      ∃ flags, HasLine encoding lines word flags ∧ flag ∈ flags := by
  simp only [mem_flagsOf, items, List.mem_filterMap, HasLine, readLine_eq_some_iff,
    Prod.mk.injEq]
  constructor
  · rintro ⟨item, ⟨line, hline, hitem⟩, rfl, hflag⟩
    exact ⟨_, ⟨line, hline, item, hitem, rfl, rfl⟩, hflag⟩
  · rintro ⟨_, ⟨line, hline, item, hitem, rfl, rfl⟩, hflag⟩
    exact ⟨item, ⟨line, hline, hitem⟩, rfl, hflag⟩

end WordList

namespace AffixTable

/-- **What flags license is the union of what each of them licenses.** Two lists of flags license,
one behind the other, what one of them licenses, and what leads nowhere follows in their order: the
flags, with repetitions, that name no group of either kind and are not the compound flag. A form is
licensed by a flag that names a group with a rule that makes the form. So forms depend on which
flags there are, more flags license no less, and the entry of a word on several lines licenses what
the flags of one of the lines do. -/
theorem expand_eq_union (table : AffixTable) (word : Text) (a b : List Flag) :
    ((∀ form, form ∈ (table.expand word (a ++ b)).forms ↔
        form ∈ (table.expand word a).forms ∨ form ∈ (table.expand word b).forms) ∧
      (table.expand word (a ++ b)).unknown =
        (table.expand word a).unknown ++ (table.expand word b).unknown ∧
      (table.expand word a).forms.Nodup) ∧
    (∀ form, form ∈ (table.expand word a).forms ↔
      ∃ flag ∈ a, ∃ kind g, table.group? kind flag = some g ∧
        ∃ rule ∈ g.rules, rule.apply word = some form) ∧
    (table.expand word a).unknown =
      (a.filter fun flag =>
        (table.group? .leading flag = none ∧ table.group? .trailing flag = none) ∧
          table.compoundFlag ≠ some flag).map (fun flag => ⟨flag, word⟩) ∧
    ((∀ flag, flag ∈ a ↔ flag ∈ b) →
      ∀ form, form ∈ (table.expand word a).forms ↔ form ∈ (table.expand word b).forms) ∧
    (a ⊆ b → (table.expand word a).forms ⊆ (table.expand word b).forms) ∧
    ∀ (grammar words name : Text) (dictionary : Dictionary) (entry : Entry),
      (Dictionary.ofTexts grammar words name).result = .ok dictionary →
      dictionary.lookup word = some entry →
      (∀ form, form ∈ (dictionary.expand entry).forms ↔
        ∃ flags, WordList.HasLine dictionary.affixes.flagEncoding (WordList.body words) word flags ∧
          form ∈ (dictionary.affixes.expand word flags).forms) ∧
      ∀ unknown, unknown ∈ (dictionary.expand entry).unknown ↔
        ∃ flags, WordList.HasLine dictionary.affixes.flagEncoding (WordList.body words) word flags ∧
          unknown ∈ (dictionary.affixes.expand word flags).unknown := by
  refine ⟨⟨fun form => mem_forms_expand_append, ?_, nodup_forms_expand⟩,
    fun form => mem_forms_expand, ?_, fun hsame form => ?_, forms_expand_subset,
    fun grammar words name dictionary entry hbuilt hlookup => ?_⟩
  · simp only [unknown_expand, List.filter_append, List.map_append]
  · rw [unknown_expand]
    refine congrArg (List.map _) (List.filter_congr fun flag _ => ?_)
    exact Bool.eq_iff_iff.2 (by simpa using isUnknownFlag_iff)
  · exact ⟨fun h => forms_expand_subset (fun flag => (hsame flag).1) h,
      fun h => forms_expand_subset (fun flag => (hsame flag).2) h⟩
  · rw [Dictionary.lookup_of_ofTexts hbuilt] at hlookup
    split_ifs at hlookup
    cases hlookup
    exact ⟨fun form =>
        mem_forms_expand_iff_of_parts fun flag => WordList.mem_flagsOf_iff_exists_hasLine,
      fun unknown =>
        mem_unknown_expand_iff_of_parts fun flag => WordList.mem_flagsOf_iff_exists_hasLine⟩

/-- A word on two lines, with a flag of both kinds, an unknown one on both lines, and the compound
flag. -/
theorem expand_eq_union_walk :
    ∃ dictionary entry,
      (Dictionary.ofTexts
          ("COMPOUNDFLAG Z\nPFX S Y 1\nPFX S 0 re .\nSFX S Y 1\nSFX S 0 s .\n" ++
            "SFX D Y 1\nSFX D 0 ed .\n").toList
          "2\nwalk/SQ\ntalk/D\nwalk/DZQ\n".toList "en".toList).result = .ok dictionary ∧
        dictionary.lookup "walk".toList = some entry ∧
        (["rewalk".toList, "walks".toList, "walked".toList] ⊆ (dictionary.expand entry).forms) ∧
        (dictionary.expand entry).unknown = [⟨"Q".toList, "walk".toList⟩] ∧
        (∀ form, form ∈ (dictionary.affixes.expand "walk".toList ["S".toList, "D".toList]).forms ↔
          form ∈ (dictionary.affixes.expand "walk".toList ["D".toList, "S".toList]).forms) ∧
        (dictionary.affixes.expand "walk".toList ["D".toList]).forms ⊆
          (dictionary.affixes.expand "walk".toList ["S".toList, "D".toList]).forms := by
  obtain ⟨dictionary, hbuilt, htest⟩ := Logged.exists_result_eq_ok
    (p := fun d : Dictionary => d.affixes.flagEncoding == .ascii &&
      (d.affixes.expand "walk".toList ["S".toList, "Q".toList]).forms ==
        ["rewalk".toList, "walks".toList] &&
      (d.affixes.expand "walk".toList ["D".toList, "Z".toList, "Q".toList]).forms ==
        ["walked".toList] &&
      (d.lookup "walk".toList).any fun e => (d.expand e).unknown == [⟨"Q".toList, "walk".toList⟩])
    (show (Dictionary.ofTexts
      ("COMPOUNDFLAG Z\nPFX S Y 1\nPFX S 0 re .\nSFX S Y 1\nSFX S 0 s .\n" ++
        "SFX D Y 1\nSFX D 0 ed .\n").toList
      "2\nwalk/SQ\ntalk/D\nwalk/DZQ\n".toList "en".toList).result.toOption.any _ = true by
        decide +kernel)
  simp only [Bool.and_eq_true, beq_iff_eq, Option.any_eq_true] at htest
  obtain ⟨⟨⟨hencoding, hfirst⟩, hsecond⟩, entry, hlookup, hunknown⟩ := htest
  have hunion := expand_eq_union dictionary.affixes "walk".toList
  obtain ⟨hforms, -⟩ := (hunion [] []).2.2.2.2.2 _ _ _ dictionary entry hbuilt hlookup
  rw [hencoding] at hforms
  refine ⟨dictionary, entry, hbuilt, hlookup, ?_, hunknown, ?_, ?_⟩
  · have hlines : WordList.HasLine .ascii (WordList.body "2\nwalk/SQ\ntalk/D\nwalk/DZQ\n".toList)
          "walk".toList ["S".toList, "Q".toList] ∧
        WordList.HasLine .ascii (WordList.body "2\nwalk/SQ\ntalk/D\nwalk/DZQ\n".toList)
          "walk".toList ["D".toList, "Z".toList, "Q".toList] :=
      ⟨⟨"walk/SQ".toList, by decide +kernel, by decide +kernel⟩,
        ⟨"walk/DZQ".toList, by decide +kernel, by decide +kernel⟩⟩
    intro form hform
    rw [hforms]
    simp only [List.mem_cons, List.not_mem_nil, or_false] at hform
    obtain rfl | rfl | rfl := hform
    · exact ⟨_, hlines.1, by rw [hfirst]; decide⟩
    · exact ⟨_, hlines.1, by rw [hfirst]; decide⟩
    · exact ⟨_, hlines.2, by rw [hsecond]; decide⟩
  · exact (hunion _ _).2.2.2.1 (by simp [or_comm])
  · exact (hunion _ _).2.2.2.2.1 (by simp)

end AffixTable

end AffixSpeller
