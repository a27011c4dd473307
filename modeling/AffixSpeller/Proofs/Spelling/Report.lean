import AffixSpeller.Proofs.Pattern.Spans
import AffixSpeller.Proofs.Spelling.SecondLook
import AffixSpeller.Proofs.Spelling.TokenPlaces
import AffixSpeller.Spelling.Report

/-!
# What a report says

A report goes over the words of a text twice: it leaves out the words that are not to be checked,
by where they stand and by what they are, and then those that are right. All this comes down to one
condition on a word and its place, and a report is the list of the words that meet it. Since a
place tells a word from all the others, a word that comes several times in a text can be reported
here and left out there.

## Main definitions

* `Checker.Reports`: the condition under which a word of a text is reported.
* `Checker.advice`: what there is to write instead of a wrong word.

## Main results

* `Checker.check_eq`: the wrong words of a text are those that meet the condition.
* `Checker.reports_iff_exists_mem_check`: a word is reported at its place or nowhere.
* `Checker.report_errors_spec`: what a report says.
-/

namespace AffixSpeller

/-- The report on a word of a text, with what to write instead. -/
def Token.misspelling (token : Token) (suggestions : List Text) : Misspelling where
  word := token.text
  line := token.line
  column := token.column
  suggestions

namespace Checker

variable {checker : Checker} {text : Text} {token : Token}

/-- The condition under which a word of a text is reported: it does not begin inside a match of an
ignore pattern, it is neither a single letter nor a number, no pattern matches in it, and it is
wrong. -/
structure Reports (checker : Checker) (text : Text) (token : Token) : Prop where
  unmasked : ∀ pattern ∈ checker.patterns, ∀ span ∈ pattern.spans text,
    ¬(span.start ≤ token.offset ∧ token.offset < span.stop)
  two_le_length : 2 ≤ token.text.length
  exists_not_numeric : ∃ c ∈ token.text, Unicode.isNumeric c = false
  unmatched : ∀ pattern ∈ checker.patterns, pattern.isMatch token.text = false
  wrong : checker.isCorrect token.text = false

/-- What there is to write instead of a wrong word. An answer that only echoes the word is no
advice. -/
def advice (checker : Checker) (word : Text) : List Text :=
  if checker.suggest word = [word] then [] else checker.suggest word

/-! ### The two looks at a word -/

theorem masks_any_eq_false : (checker.masks text).any (·.contains token.offset) = false ↔
    ∀ pattern ∈ checker.patterns, ∀ span ∈ pattern.spans text,
      ¬(span.start ≤ token.offset ∧ token.offset < span.stop) := by
  simp only [masks, List.any_eq_false, List.mem_flatMap, forall_exists_index, and_imp,
    Span.contains, Bool.and_eq_true, decide_eq_true_eq]
  exact ⟨fun h pattern hp span hs => h span pattern hp hs,
    fun h span pattern hp hs => h pattern hp span hs⟩

theorem skips_eq_false {word : Text} : checker.skips word = false ↔
    2 ≤ word.length ∧ (∃ c ∈ word, Unicode.isNumeric c = false) ∧
      ∀ pattern ∈ checker.patterns, pattern.isMatch word = false := by
  simp [skips, and_assoc, Nat.lt_iff_add_one_le]

theorem reports_iff : checker.Reports text token ↔
    (!(checker.masks text).any (·.contains token.offset) && !checker.skips token.text) = true ∧
      checker.isCorrect token.text = false := by
  rw [Bool.and_eq_true, Bool.not_eq_true', Bool.not_eq_true', masks_any_eq_false, skips_eq_false]
  exact ⟨fun ⟨h1, h2, h3, h4, h5⟩ => ⟨⟨h1, h2, h3, h4⟩, h5⟩,
    fun ⟨⟨h1, h2, h3, h4⟩, h5⟩ => ⟨h1, h2, h3, h4, h5⟩⟩

instance : Decidable (checker.Reports text token) :=
  decidable_of_iff _ reports_iff.symm

theorem misspelling?_of_isCorrect (h : checker.isCorrect token.text = true) :
    checker.misspelling? token = none := by
  simp [misspelling?, isCorrect_iff.1 h]

theorem misspelling?_of_wrong (h : checker.isCorrect token.text = false) :
    checker.misspelling? token =
      some (token.misspelling ((checker.advice token.text).take checker.maxSuggestions)) := by
  have hanswer : checker.suggest token.text ≠ [] := fun hnil => by
    simp [isCorrect_iff.2 hnil] at h
  unfold misspelling? advice
  split
  · contradiction
  · rfl

/-- **The wrong words of a text** are those that meet the condition for being reported. -/
theorem check_eq (checker : Checker) (text : Text) : checker.check text =
    ((Token.ofText text).filter fun token => checker.Reports text token).map fun token =>
      token.misspelling ((checker.advice token.text).take checker.maxSuggestions) := by
  rw [check, tokens, ← List.filterMap_eq_map, List.filterMap_filter, List.filterMap_filter]
  refine List.filterMap_congr fun token _ => ?_
  simp only [decide_eq_true_eq, reports_iff]
  cases hcorrect : checker.isCorrect token.text with
  | true => simp [misspelling?_of_isCorrect hcorrect]
  | false => simp [misspelling?_of_wrong hcorrect]

/-! ### Reported words and their places -/

theorem mem_check {error : Misspelling} : error ∈ checker.check text ↔
    ∃ token ∈ Token.ofText text, checker.Reports text token ∧
      token.misspelling ((checker.advice token.text).take checker.maxSuggestions) = error := by
  simp [check_eq, and_assoc]

/-- A word is reported at its place or nowhere. -/
theorem reports_iff_exists_mem_check (h : token ∈ Token.ofText text) :
    checker.Reports text token ↔
      ∃ error ∈ checker.check text, error.line = token.line ∧ error.column = token.column := by
  constructor
  · intro hreports
    exact ⟨_, mem_check.2 ⟨token, h, hreports, rfl⟩, rfl, rfl⟩
  · rintro ⟨_, herror, hline, hcolumn⟩
    obtain ⟨other, hother, hreports, rfl⟩ := mem_check.1 herror
    obtain rfl := Token.eq_of_place hother h hline hcolumn
    exact hreports

/-- A word that lies in a match of an ignore pattern is not reported. -/
theorem not_reports_of_mem_span (h : token ∈ Token.ofText text) {pattern : Regex} {span : Span}
    (hpattern : pattern ∈ checker.patterns) (hspan : span ∈ pattern.spans text)
    (hstart : span.start ≤ token.offset)
    (hstop : token.offset + token.text.utf8Encode.size ≤ span.stop) :
    ¬checker.Reports text token := by
  intro hreports
  refine hreports.unmasked pattern hpattern span hspan ⟨hstart, ?_⟩
  have hsize : 0 < token.text.utf8Encode.size := by
    rw [← Text.utf8Length_eq_size_utf8Encode, Nat.pos_iff_ne_zero, ne_eq,
      Text.utf8Length_eq_zero]
    exact Token.ne_nil_of_mem_ofText h
  omega

/-- The words of a report follow each other as in the text. -/
theorem pairwise_place_check (checker : Checker) (text : Text) :
    (checker.check text).Pairwise fun a b =>
      a.line < b.line ∨ (a.line = b.line ∧ a.column < b.column) := by
  rw [check_eq, List.pairwise_map]
  exact (Token.pairwise_place_ofText text).filter _

/-! ### The limit on suggestions -/

theorem reports_withLimit (limit : Nat) :
    { checker with maxSuggestions := limit }.Reports text token ↔ checker.Reports text token := by
  rw [reports_iff, reports_iff]
  rfl

/-- Another limit changes how much of the advice is kept, and nothing else. -/
theorem check_withLimit (checker : Checker) (limit : Nat) (text : Text) :
    { checker with maxSuggestions := limit }.check text =
      ((Token.ofText text).filter fun token => checker.Reports text token).map fun token =>
        token.misspelling ((checker.advice token.text).take limit) := by
  rw [check_eq]
  simp only [reports_withLimit]
  rfl

/-! ### The report -/

/-- **What a report says.** Its errors are the words that meet the condition for being reported, in
the order of the text and with their places, each one with as much of its advice as the limit on
suggestions lets through; another limit changes nothing else. A word that meets the condition is
found in the report at its place, and no other word is, so none that lies in a match of an ignore
pattern and none that is right. What a pattern matches are stretches of the text, none of which
reaches into the next one. -/
theorem report_errors_spec (checker : Checker) (text : Text) :
    (checker.report text).errorCount = (checker.report text).errors.length ∧
    (checker.report text).errors =
      (((Token.ofText text).filter fun token => checker.Reports text token).map fun token =>
        token.misspelling ((checker.advice token.text).take checker.maxSuggestions)) ∧
    (∀ limit, ({ checker with maxSuggestions := limit }.report text).errors =
      ((Token.ofText text).filter fun token => checker.Reports text token).map fun token =>
        token.misspelling ((checker.advice token.text).take limit)) ∧
    (checker.report text).errors.Pairwise (fun a b =>
      a.line < b.line ∨ (a.line = b.line ∧ a.column < b.column)) ∧
    (∀ token ∈ Token.ofText text, checker.Reports text token ↔
      ∃ error ∈ (checker.report text).errors,
        error.line = token.line ∧ error.column = token.column) ∧
    (∀ token ∈ Token.ofText text, ∀ pattern ∈ checker.patterns, ∀ span ∈ pattern.spans text,
      span.start ≤ token.offset ∧ token.offset + token.text.utf8Encode.size ≤ span.stop →
      ∀ error ∈ (checker.report text).errors,
        ¬(error.line = token.line ∧ error.column = token.column)) ∧
    (∀ error ∈ (checker.report text).errors, checker.isCorrect error.word = false) ∧
    ∀ pattern ∈ checker.patterns,
      (∀ span ∈ pattern.spans text, ∃ before piece after,
        text = before ++ piece ++ after ∧ span = .behind before piece) ∧
      (pattern.spans text).Pairwise fun a b => a.stop ≤ b.start := by
  refine ⟨rfl, check_eq checker text, fun limit => check_withLimit checker limit text,
    pairwise_place_check checker text, fun token h => reports_iff_exists_mem_check h, ?_, ?_,
    fun pattern _ => ⟨fun span => Regex.exists_of_mem_spans, pattern.pairwise_spans text⟩⟩
  · rintro token h pattern hpattern span hspan ⟨hstart, hstop⟩ error herror hplace
    exact not_reports_of_mem_span h hpattern hspan hstart hstop
      ((reports_iff_exists_mem_check h).2 ⟨error, herror, hplace⟩)
  · intro error herror
    obtain ⟨token, -, hreports, rfl⟩ := mem_check.1 herror
    exact hreports.wrong

end Checker

end AffixSpeller
