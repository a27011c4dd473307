import AffixSpeller.Proofs.Lexicon.Notices
import AffixSpeller.Proofs.Text.Decimal
import AffixSpeller.Proofs.Text.Joining

/-!
# Word lists that are written are read back

A word list is written as the number of its words and one line for each word, with the flags of the
word run together behind a slash. The words may come in any order. Each flag encoding undoes its
own way of running flags together; where flags are two characters each, a character may be left
over at the end. Since no white space breaks a line, and the first slash in it is the one behind
the word, every line gives its word and its flags back.

## Main definitions

* `FlagEncoding.IsFlag`, `FlagEncoding.encode`: the flags of an encoding, and how they are run
  together.
* `FlaggedWord`: a word with its flags, all of which can be written.
* `WordListOutline`: words that a word list is meant to have, and `WordListOutline.text`, the list
  that is written.

## Main results

* `FlagEncoding.decode_encode`: flags that are run together are told apart again.
* `FlaggedWord.readItem_line`: a line gives its word and flags back.
* `Dictionary.lookup_of_written`: a dictionary has exactly the words that were written.
-/

namespace AffixSpeller

/-! ### Flags -/

namespace FlagEncoding

variable {encoding : FlagEncoding} {flags : List Flag}

/-- The text can be a flag in the encoding. -/
def IsFlag (encoding : FlagEncoding) (flag : Flag) : Prop :=
  Text.Solid flag ∧
    match encoding with
    | ascii | utf8 => flag.length = 1
    | long => flag.length = 2
    | num => flag ≠ [] ∧ ',' ∉ flag

instance : (encoding : FlagEncoding) → (flag : Flag) → Decidable (encoding.IsFlag flag)
  | ascii, flag | utf8, flag => inferInstanceAs (Decidable (Text.Solid flag ∧ flag.length = 1))
  | long, flag => inferInstanceAs (Decidable (Text.Solid flag ∧ flag.length = 2))
  | num, flag => inferInstanceAs (Decidable (Text.Solid flag ∧ flag ≠ [] ∧ ',' ∉ flag))

/-- The flags as they stand behind a word. -/
def encode : FlagEncoding → List Flag → Text
  | num, flags => [','].intercalate flags
  | _, flags => flags.flatten

/-- What may be left over behind the flags: one character if flags are two characters each. -/
def IsRest (encoding : FlagEncoding) (rest : Text) : Prop :=
  rest = [] ∨ encoding = long ∧ rest.length = 1

instance (rest : Text) : Decidable (encoding.IsRest rest) :=
  inferInstanceAs (Decidable (rest = [] ∨ encoding = long ∧ rest.length = 1))

theorem map_singleton_flatten (h : ∀ flag ∈ flags, flag.length = 1) :
    flags.flatten.map ([·]) = flags := by
  induction flags with
  | nil => rfl
  | cons flag flags ih =>
    obtain ⟨c, rfl⟩ := List.length_eq_one_iff.1 (h flag List.mem_cons_self)
    have ih := ih fun f hf => h f (List.mem_cons_of_mem _ hf)
    rw [List.flatten_cons, List.map_append, ih]
    rfl

theorem pairs_flatten (h : ∀ flag ∈ flags, flag.length = 2) {rest : Text}
    (hrest : rest.length ≤ 1) : pairs (flags.flatten ++ rest) = flags := by
  induction flags with
  | nil =>
    match rest, hrest with
    | [], _ => rfl
    | [c], _ => rfl
  | cons flag flags ih =>
    obtain ⟨c, d, rfl⟩ := List.length_eq_two.1 (h flag List.mem_cons_self)
    have ih := ih fun f hf => h f (List.mem_cons_of_mem _ hf)
    rw [List.flatten_cons, List.append_assoc, List.cons_append, List.cons_append, pairs,
      List.nil_append, ih]

theorem splitOn_intercalate_comma (h : ∀ flag ∈ flags, Text.Solid flag ∧ flag ≠ [] ∧ ',' ∉ flag) :
    ((([','].intercalate flags).splitOn ',').map Text.trim).filter (!·.isEmpty) = flags := by
  by_cases hnil : flags = []
  · subst hnil
    decide
  · rw [List.splitOn_intercalate ',' (fun flag hflag => (h flag hflag).2.2) hnil]
    have htrim : ∀ flag ∈ flags, Text.trim flag = flag := fun flag hflag =>
      Text.trim_eq_self (fun c hc => (h flag hflag).1 c (List.mem_of_mem_head? hc))
        fun c hc => (h flag hflag).1 c (List.mem_of_mem_getLast? hc)
    rw [List.map_congr_left htrim, List.map_id', List.filter_eq_self]
    intro flag hflag
    simpa using (h flag hflag).2.1

/-- **Flags that are run together are told apart again**, and what is left over is dropped. -/
theorem decode_encode (h : ∀ flag ∈ flags, encoding.IsFlag flag) {rest : Text}
    (hrest : encoding.IsRest rest) : encoding.decode (encoding.encode flags ++ rest) = flags := by
  have hlast (hother : encoding ≠ long) : rest = [] :=
    hrest.resolve_right fun hlong => hother hlong.1
  cases encoding with
  | ascii =>
    rw [hlast (by decide), List.append_nil]
    exact map_singleton_flatten fun flag hflag => (h flag hflag).2
  | utf8 =>
    rw [hlast (by decide), List.append_nil]
    exact map_singleton_flatten fun flag hflag => (h flag hflag).2
  | long =>
    refine pairs_flatten (fun flag hflag => (h flag hflag).2) ?_
    obtain rfl | ⟨-, hone⟩ := hrest
    · exact Nat.zero_le 1
    · exact hone.le
  | num =>
    rw [hlast (by decide), List.append_nil]
    exact splitOn_intercalate_comma h

theorem solid_encode (h : ∀ flag ∈ flags, encoding.IsFlag flag) :
    Text.Solid (encoding.encode flags) := by
  have hflatten : Text.Solid flags.flatten := by
    intro c hc
    obtain ⟨flag, hflag, hc⟩ := List.mem_flatten.1 hc
    exact (h flag hflag).1 c hc
  have hcommas : Text.Solid ([','].intercalate flags) := by
    clear hflatten
    induction flags with
    | nil => simp
    | cons flag flags ih =>
      have hflag := (h flag List.mem_cons_self).1
      have ih := ih fun f hf => h f (List.mem_cons_of_mem _ hf)
      cases flags with
      | nil => simpa using hflag
      | cons next flags =>
        have hcomma : Unicode.isWhiteSpace ',' = false := by decide
        simp only [List.intercalate_cons_cons, Text.solid_append, Text.solid_cons, Text.solid_nil]
        exact ⟨⟨hflag, hcomma, trivial⟩, ih⟩
  cases encoding with
  | ascii => exact hflatten
  | utf8 => exact hflatten
  | long => exact hflatten
  | num => exact hcommas

end FlagEncoding

/-! ### Lines -/

/-- A word with its flags, all of which can be written. -/
structure FlaggedWord (encoding : FlagEncoding) where
  word : Text
  flags : List Flag
  /-- What is left over behind the flags. -/
  rest : Text := []
  word_ne_nil : word ≠ []
  solid_word : word.Solid
  slash_notMem_word : '/' ∉ word
  head?_word_ne : word.head? ≠ some '\ufeff'
  isFlag_of_mem : ∀ flag ∈ flags, encoding.IsFlag flag
  nodup_flags : flags.Nodup
  isRest_rest : encoding.IsRest rest
  solid_rest : rest.Solid

namespace FlaggedWord

variable {encoding : FlagEncoding}

/-- The line of the word. Without flags it is the word alone. -/
def line (w : FlaggedWord encoding) : Text :=
  if w.flags = [] ∧ w.rest = [] then w.word
  else w.word ++ '/' :: (encoding.encode w.flags ++ w.rest)

theorem line_ne_nil (w : FlaggedWord encoding) : w.line ≠ [] := by
  unfold line
  split_ifs <;> simp [w.word_ne_nil]

theorem solid_line (w : FlaggedWord encoding) : Text.Solid w.line := by
  have hslash : Unicode.isWhiteSpace '/' = false := by decide
  unfold line
  split_ifs
  · exact w.solid_word
  · simp [w.solid_word, hslash, FlagEncoding.solid_encode w.isFlag_of_mem, w.solid_rest]

theorem head?_line (w : FlaggedWord encoding) : w.line.head? = w.word.head? := by
  obtain ⟨c, cs, hword⟩ := List.exists_cons_of_ne_nil w.word_ne_nil
  unfold line
  split_ifs <;> simp [hword]

/-- **A line gives its word and flags back.** -/
theorem readItem_line (w : FlaggedWord encoding) :
    WordList.readItem encoding w.line = (w.word, w.flags) := by
  unfold line WordList.readItem
  split_ifs with hbare
  · rw [Text.cutAt_eq, if_neg w.slash_notMem_word, hbare.1]
  · obtain ⟨c, cs, hword⟩ := List.exists_cons_of_ne_nil w.word_ne_nil
    rw [Text.cutAt_eq_some_iff.2 ⟨rfl, w.slash_notMem_word⟩, hword]
    exact congrArg _ (FlagEncoding.decode_encode w.isFlag_of_mem w.isRest_rest)

theorem itemWord_line (w : FlaggedWord encoding) : WordList.itemWord w.line = w.word :=
  congrArg Prod.fst ((WordList.readItem_eq encoding w.line).symm.trans w.readItem_line)

theorem itemFlags_line (w : FlaggedWord encoding) :
    WordList.itemFlags encoding w.line = w.flags :=
  congrArg Prod.snd ((WordList.readItem_eq encoding w.line).symm.trans w.readItem_line)

end FlaggedWord

/-! ### Lists -/

/-- The words that a word list is meant to have, each once and in any order. -/
structure WordListOutline (encoding : FlagEncoding) where
  entries : List (FlaggedWord encoding)
  nodup_words : (entries.map FlaggedWord.word).Nodup
  /-- There are no more words than a count can say. -/
  length_entries_le : entries.length ≤ 18446744073709551615

namespace WordListOutline

variable {encoding : FlagEncoding} (list : WordListOutline encoding)

/-- The lines of the list. -/
def lines : List Text :=
  Nat.toDigits 10 list.entries.length :: list.entries.map FlaggedWord.line

/-- The text of the list. -/
def text : Text :=
  Text.ofLines list.lines

/-- Every line is one field, and none begins with a byte order mark. -/
theorem solid_of_mem_lines {line : Text} (h : line ∈ list.lines) :
    line ≠ [] ∧ Text.Solid line ∧ line.head? ≠ some '\ufeff' := by
  obtain rfl | h := List.mem_cons.1 h
  · refine ⟨Nat.toDigits_ne_nil, Text.solid_toDigits _, fun hmark => ?_⟩
    have hdigit := Text.isDigit_of_mem_toDigits (List.mem_of_head? hmark)
    revert hdigit
    decide
  · obtain ⟨w, -, rfl⟩ := List.mem_map.1 h
    exact ⟨w.line_ne_nil, w.solid_line, w.head?_line ▸ w.head?_word_ne⟩

/-- The lines of the text are those that were written. -/
theorem contentLines_text : WordList.contentLines list.text = list.lines := by
  have hcontent : list.lines.map Text.content = list.lines := by
    refine (List.map_congr_left fun line hline => ?_).trans (List.map_id _)
    obtain ⟨hne, hsolid, hmark⟩ := list.solid_of_mem_lines hline
    exact Text.content_of_solid hne hsolid hmark
  have hfilter : list.lines.filter (!·.isEmpty) = list.lines :=
    List.filter_eq_self.2 fun line hline => by simpa using (list.solid_of_mem_lines hline).1
  have hcut : Text.lines list.text = list.lines ++ [[]] :=
    Text.lines_ofLines fun line hline => (list.solid_of_mem_lines hline).2.1.newline_notMem
  have hend : Text.content [] = [] := rfl
  rw [WordList.contentLines, hcut, List.map_append, List.filter_append, hcontent, hfilter]
  simp [hend]

/-- The number of the words is read back. -/
theorem count?_text : WordList.count? list.text = some list.entries.length := by
  have hfields : Text.fields (Nat.toDigits 10 list.entries.length) = _ :=
    Text.fields_of_solid Nat.toDigits_ne_nil (Text.solid_toDigits _)
  rw [WordList.count?, list.contentLines_text]
  simp only [lines, List.head?_cons, Option.bind_some, WordList.readCount, hfields]
  exact Text.count?_toDigits list.length_entries_le

theorem items_body_text :
    WordList.items (WordList.body list.text) = list.entries.map FlaggedWord.line := by
  rw [WordList.body, list.contentLines_text, lines, List.tail_cons, WordList.items,
    List.filterMap_map]
  have hline (w : FlaggedWord encoding) :
      (Text.fields w.line).head? = some w.line := by
    rw [Text.fields_of_solid w.line_ne_nil w.solid_line, List.head?_cons]
  simp only [Function.comp_def, hline, List.filterMap_eq_map']

/-- **The words are read back.** -/
theorem wordsOf_body_text :
    WordList.wordsOf (WordList.body list.text) = list.entries.map FlaggedWord.word := by
  rw [WordList.wordsOf, items_body_text, List.map_map]
  exact List.map_congr_left fun w _ => w.itemWord_line

/-- No other entry has the word of an entry. -/
theorem filter_word_eq {w : FlaggedWord encoding} (h : w ∈ list.entries) :
    list.entries.filter (·.word == w.word) = [w] := by
  obtain ⟨before, after, hentries⟩ := List.append_of_mem h
  have hnodup := list.nodup_words
  rw [hentries, List.map_append, List.map_cons, List.nodup_append, List.nodup_cons] at hnodup
  obtain ⟨-, ⟨hafter, -⟩, hapart⟩ := hnodup
  have hbefore : before.filter (·.word == w.word) = [] := by
    refine List.filter_eq_nil_iff.2 fun v hv heq => ?_
    exact hapart _ (List.mem_map_of_mem hv) _ List.mem_cons_self (eq_of_beq heq)
  have hlater : after.filter (·.word == w.word) = [] := by
    refine List.filter_eq_nil_iff.2 fun v hv heq => hafter ?_
    exact eq_of_beq heq ▸ List.mem_map_of_mem hv
  rw [hentries, List.filter_append, hbefore, List.filter_cons_of_pos (by simp), hlater,
    List.nil_append]

/-- **The flags of every word are read back**, in their order. -/
theorem flagsOf_body_text {w : FlaggedWord encoding} (h : w ∈ list.entries) :
    WordList.flagsOf encoding (WordList.body list.text) w.word = w.flags := by
  rw [WordList.flagsOf, items_body_text, List.filter_map, List.flatMap_map]
  simp only [Function.comp_def, FlaggedWord.itemWord_line, FlaggedWord.itemFlags_line,
    list.filter_word_eq h, List.flatMap_singleton, eraseDups_of_nodup w.nodup_flags]

end WordListOutline

/-! ### Dictionaries -/

namespace Dictionary

/-- **Word lists that are written are read back.** A grammar that is read and declares the flag
encoding makes a dictionary with the text of a written list. A look-up finds every word that was
written, with its flags in their order, and no other text; no wrong number of words is recorded. -/
theorem lookup_of_written {encoding : FlagEncoding} (list : WordListOutline encoding)
    {grammar name : Text} {table : AffixTable}
    (hgrammar : (AffixTable.parse grammar (name ++ ".aff".toList)).result = .ok table)
    (hencoding : (GrammarLine.flagEncodings grammar).getLast?.getD .ascii = encoding) :
    ∃ dictionary, (ofTexts grammar list.text name).result = .ok dictionary ∧
      (∀ w ∈ list.entries, dictionary.lookup w.word = some ⟨w.word, w.flags⟩) ∧
      (∀ word, (∀ w ∈ list.entries, w.word ≠ word) → dictionary.lookup word = none) ∧
      dictionary.size = list.entries.length ∧
      ∀ other declared read,
        Event.countDiffers other declared read ∉ (ofTexts grammar list.text name).log := by
  obtain ⟨dictionary, hbuilt⟩ : ∃ dictionary,
      (ofTexts grammar list.text name).result = .ok dictionary :=
    ⟨_, ofTexts_result_eq_ok_iff.2 ⟨⟨_, list.count?_text⟩, table, hgrammar, rfl⟩⟩
  have hlookup (word : Text) := lookup_of_ofTexts hbuilt word
  rw [flagEncoding_of_ofTexts hbuilt, hencoding] at hlookup
  have hsize : dictionary.size = list.entries.length := by
    rw [size_of_ofTexts hbuilt, list.wordsOf_body_text, eraseDups_of_nodup list.nodup_words,
      List.length_map]
  refine ⟨dictionary, hbuilt, fun w hw => ?_, fun word hword => ?_, hsize, ?_⟩
  · rw [hlookup, list.wordsOf_body_text, if_pos (List.mem_map_of_mem hw), list.flagsOf_body_text hw]
  · rw [hlookup, list.wordsOf_body_text, if_neg]
    rintro hmem
    obtain ⟨w, hw, hequal⟩ := List.mem_map.1 hmem
    exact hword w hw hequal
  · intro other declared read hmem
    obtain ⟨-, hcount, -, hne⟩ := (countDiffers_mem_log_iff hbuilt).1 hmem
    rw [list.count?_text] at hcount
    exact hne (hsize ▸ (Option.some.inj hcount).symm)

end Dictionary

/-- Two flags of two characters each, one of them with a slash, and a character left over; and a
word without flags that looks like a comment. -/
def WordListOutline.twoWords : WordListOutline .long where
  entries :=
    [{  word := "straße".toList
        flags := ["é/".toList, "Ab".toList]
        rest := [',']
        word_ne_nil := by decide
        solid_word := by decide
        slash_notMem_word := by decide
        head?_word_ne := by decide
        isFlag_of_mem := by decide
        nodup_flags := by decide
        isRest_rest := by decide
        solid_rest := by decide },
      { word := "#x".toList
        flags := []
        word_ne_nil := by decide
        solid_word := by decide
        slash_notMem_word := by decide
        head?_word_ne := by decide
        isFlag_of_mem := by decide
        nodup_flags := by decide
        isRest_rest := by decide
        solid_rest := by decide }]
  nodup_words := by decide
  length_entries_le := by decide

/-- A list of two words under flags of two characters. -/
theorem Dictionary.lookup_of_written_twoWords :
    WordListOutline.twoWords.text = "2\nstraße/é/Ab,\n#x\n".toList ∧
      ∃ dictionary, (Dictionary.ofTexts "FLAG long\n".toList WordListOutline.twoWords.text
          "de".toList).result = .ok dictionary ∧
        dictionary.lookup "straße".toList =
          some ⟨"straße".toList, ["é/".toList, "Ab".toList]⟩ ∧
        dictionary.lookup "#x".toList = some ⟨"#x".toList, []⟩ ∧
        dictionary.lookup "Ab".toList = none := by
  obtain ⟨table, htable, -⟩ := Logged.exists_result_eq_ok (p := fun _ : AffixTable => true)
    (show (AffixTable.parse "FLAG long\n".toList
      ("de".toList ++ ".aff".toList)).result.toOption.any _ = true by decide +kernel)
  obtain ⟨dictionary, hbuilt, hwords, hothers, -⟩ :=
    Dictionary.lookup_of_written WordListOutline.twoWords htable (by decide +kernel)
  exact ⟨by decide +kernel, dictionary, hbuilt, hwords _ List.mem_cons_self,
    hwords _ (List.mem_cons_of_mem _ List.mem_cons_self), hothers _ (by decide)⟩

end AffixSpeller
