import AffixSpeller.Proofs.Spelling.SecondLook
import AffixSpeller.Proofs.Text.AppendNew
import AffixSpeller.Spelling.Report

/-!
# Sessions

In a session a checker is told to learn words and to ignore words. Whatever it is told, in any
order and however often, all that comes of it is a set of words that it says nothing about any
more. For every other word it goes on to answer as it did; although the second look at a word asks
about words that may have been learned, it asks the dictionary about them and not the checker.

## Main definitions

* `SessionCall`: what a checker can be told.
* `Checker.after`: a checker that was told one thing after the other.
* `Checker.Told`: what calls change in a checker, and what they leave.
* `SessionCall.Silences`: the words that the calls of a session silence.

## Main results

* `Checker.told_after`: what a session does to a checker.
* `Checker.accepts_after`: which words are accepted in the end.
* `Checker.session_only_silences`: what a session does to answers and reports.
-/

namespace AffixSpeller

/-- What a checker can be told in a session. -/
inductive SessionCall where
  /-- To accept a word, and its case forms. -/
  | learn (word : Text)
  /-- To accept exactly a word. -/
  | ignore (word : Text)
  deriving DecidableEq, Repr

/-- The calls silence a word: it was ignored, or it was learned, or it is the upper-case or the
capitalized form of a word that was learned. -/
def SessionCall.Silences (calls : List SessionCall) (word : Text) : Prop :=
  .ignore word ∈ calls ∨ .learn word ∈ calls ∨
    ((Text.isUpper word = true ∨ Text.isCapitalized word = true) ∧
      .learn (Text.toLower word) ∈ calls)

instance (calls : List SessionCall) (word : Text) : Decidable (SessionCall.Silences calls word) :=
  inferInstanceAs (Decidable (_ ∨ _))

namespace Checker

open SessionCall (Silences)

variable {checker : Checker} {calls : List SessionCall} {word text : Text}

/-- A checker that was told one thing. -/
def call (checker : Checker) : SessionCall → Checker
  | .learn word => checker.learn word
  | .ignore word => checker.ignore word

/-- A checker that was told one thing after the other. -/
def after (checker : Checker) (calls : List SessionCall) : Checker :=
  calls.foldl call checker

/-- What calls do to a checker: `later` has been told them. They change the lists of words and
nothing else, and to these they add what was told. -/
structure Told (checker : Checker) (calls : List SessionCall) (later : Checker) : Prop where
  dictionary : later.dictionary = checker.dictionary
  patterns : later.patterns = checker.patterns
  maxSuggestions : later.maxSuggestions = checker.maxSuggestions
  refines : later.refines = checker.refines
  mem_learned : ∀ word, word ∈ later.learned ↔ word ∈ checker.learned ∨ .learn word ∈ calls
  mem_ignored : ∀ word, word ∈ later.ignored ↔ word ∈ checker.ignored ∨ .ignore word ∈ calls

theorem Told.refl (checker : Checker) : checker.Told [] checker :=
  ⟨rfl, rfl, rfl, rfl, by simp, by simp⟩

theorem Told.trans {middle last : Checker} {later : List SessionCall}
    (h : checker.Told calls middle) (hlater : middle.Told later last) :
    checker.Told (calls ++ later) last where
  dictionary := hlater.dictionary.trans h.dictionary
  patterns := hlater.patterns.trans h.patterns
  maxSuggestions := hlater.maxSuggestions.trans h.maxSuggestions
  refines := hlater.refines.trans h.refines
  mem_learned word := by rw [hlater.mem_learned, h.mem_learned, List.mem_append, or_assoc]
  mem_ignored word := by rw [hlater.mem_ignored, h.mem_ignored, List.mem_append, or_assoc]

/-- What one call does. -/
theorem told_call (checker : Checker) (first : SessionCall) :
    checker.Told [first] (checker.call first) := by
  cases first with
  | learn word =>
    exact ⟨rfl, rfl, rfl, rfl, by simp [call, learn, mem_appendNew], by simp [call, learn]⟩
  | ignore word =>
    exact ⟨rfl, rfl, rfl, rfl, by simp [call, ignore], by simp [call, ignore, mem_appendNew]⟩

/-- What a session does. -/
theorem told_after (checker : Checker) (calls : List SessionCall) :
    checker.Told calls (checker.after calls) := by
  induction calls generalizing checker with
  | nil => exact Told.refl checker
  | cons first calls ih => exact (told_call checker first).trans (ih (checker.call first))

/-! ### Answers after a session -/

theorem accepts_iff : checker.accepts word = true ↔
    word ∈ checker.ignored ∨ word ∈ checker.learned ∨
      ((Text.isUpper word = true ∨ Text.isCapitalized word = true) ∧
        Text.toLower word ∈ checker.learned) := by
  simp [accepts, or_assoc]

/-- **Accepted words.** A session accepts what it silences, besides what was accepted before. -/
theorem accepts_after : (checker.after calls).accepts word = true ↔
    checker.accepts word = true ∨ Silences calls word := by
  have h := told_after checker calls
  rw [accepts_iff, accepts_iff, h.mem_learned, h.mem_learned, h.mem_ignored, Silences]
  tauto

/-- A word that is not accepted after a session has the answer that it had before. -/
theorem suggest_after_of_not_accepts (h : (checker.after calls).accepts word = false) :
    (checker.after calls).suggest word = checker.suggest word := by
  have hbefore : checker.accepts word = false := by
    rw [Bool.eq_false_iff] at h ⊢
    exact fun haccepts => h (accepts_after.2 (Or.inl haccepts))
  have htold := told_after checker calls
  simp only [suggest, h, hbefore, htold.dictionary, htold.refines]

/-- **Answers after a session** are empty for the silenced words and unchanged for the others. -/
theorem suggest_after (checker : Checker) (calls : List SessionCall) (word : Text) :
    (checker.after calls).suggest word =
      if Silences calls word then [] else checker.suggest word := by
  cases haccepts : (checker.after calls).accepts word with
  | true =>
    rw [suggest_of_accepts haccepts]
    split_ifs with hsilences
    · rfl
    · have hbefore := (accepts_after.1 haccepts).resolve_right hsilences
      exact (suggest_of_accepts hbefore).symm
  | false =>
    have hsilences : ¬Silences calls word := fun h => by
      simp [accepts_after.2 (Or.inr h)] at haccepts
    rw [if_neg hsilences, suggest_after_of_not_accepts haccepts]

/-! ### Reports after a session -/

theorem word_of_misspelling? {token : Token} {error : Misspelling}
    (h : checker.misspelling? token = some error) : error.word = token.text := by
  unfold misspelling? at h
  split at h
  · cases h
  · cases h
    rfl

theorem misspelling?_after (token : Token) : (checker.after calls).misspelling? token =
    (checker.misspelling? token).filter fun error =>
      !(checker.after calls).accepts error.word := by
  cases haccepts : (checker.after calls).accepts token.text with
  | true =>
    have hnone : (checker.after calls).misspelling? token = none := by
      simp [misspelling?, suggest_of_accepts haccepts]
    rw [hnone, eq_comm, Option.filter_eq_none_iff]
    intro error herror
    simp [word_of_misspelling? herror, haccepts]
  | false =>
    have hsame : (checker.after calls).misspelling? token = checker.misspelling? token := by
      simp only [misspelling?, suggest_after_of_not_accepts haccepts,
        (told_after checker calls).maxSuggestions]
    rw [hsame]
    cases herror : checker.misspelling? token with
    | none => rfl
    | some error => simp [Option.filter_some, word_of_misspelling? herror, haccepts]

/-- **Reports after a session** are the reports before, less the words that are accepted now. -/
theorem check_after (checker : Checker) (calls : List SessionCall) (text : Text) :
    (checker.after calls).check text =
      (checker.check text).filter fun error => !(checker.after calls).accepts error.word := by
  have htokens : (checker.after calls).tokens text = checker.tokens text := by
    simp only [tokens, masks, skips, (told_after checker calls).patterns]
  rw [check, check, htokens, List.filter_filterMap]
  exact List.filterMap_congr fun token _ => misspelling?_after token

/-! ### The order of calls -/

/-- Words are silenced by what was told, not by when or how often. -/
theorem silences_congr {others : List SessionCall} (h : ∀ call, call ∈ calls ↔ call ∈ others) :
    Silences calls word ↔ Silences others word := by
  rw [Silences, Silences, h, h, h]

theorem accepts_after_congr {others : List SessionCall}
    (h : ∀ call, call ∈ calls ↔ call ∈ others) (word : Text) :
    (checker.after calls).accepts word = (checker.after others).accepts word := by
  rw [Bool.eq_iff_iff, accepts_after, accepts_after, silences_congr h]

theorem suggest_after_congr {others : List SessionCall}
    (h : ∀ call, call ∈ calls ↔ call ∈ others) (word : Text) :
    (checker.after calls).suggest word = (checker.after others).suggest word := by
  rw [suggest_after, suggest_after]
  exact if_congr (silences_congr h) rfl rfl

theorem check_after_congr {others : List SessionCall}
    (h : ∀ call, call ∈ calls ↔ call ∈ others) (text : Text) :
    (checker.after calls).check text = (checker.after others).check text := by
  simp only [check_after, accepts_after_congr h]

/-! ### Longer sessions -/

theorem after_append (checker : Checker) (calls later : List SessionCall) :
    checker.after (calls ++ later) = (checker.after calls).after later :=
  List.foldl_append

/-- Once a word is accepted, it stays accepted. -/
theorem accepts_after_append (later : List SessionCall)
    (h : (checker.after calls).accepts word = true) :
    (checker.after (calls ++ later)).accepts word = true := by
  rw [after_append]
  exact accepts_after.2 (Or.inl h)

/-- Once a word is right, it stays right. -/
theorem isCorrect_after_append (later : List SessionCall)
    (h : (checker.after calls).isCorrect word = true) :
    (checker.after (calls ++ later)).isCorrect word = true := by
  rw [isCorrect_iff] at h ⊢
  rw [after_append, suggest_after, h, ite_self]

/-- **A session only silences words.** Its calls silence the words that they name, and the case
forms of those to be learned: for these the answer is empty, and for all others it is what it was.
Neither the order of the calls counts nor how often they come; what is right or accepted stays so;
and a report is the report before, less the words that are accepted now. -/
theorem session_only_silences (checker : Checker) (calls : List SessionCall) :
    (∀ word, (checker.after calls).suggest word =
      if Silences calls word then [] else checker.suggest word) ∧
    (∀ others : List SessionCall, (∀ call, call ∈ calls ↔ call ∈ others) →
      (∀ word, (checker.after calls).suggest word = (checker.after others).suggest word) ∧
      ∀ text, (checker.after calls).report text = (checker.after others).report text) ∧
    (∀ later word,
      ((checker.after calls).accepts word = true →
        (checker.after (calls ++ later)).accepts word = true) ∧
      ((checker.after calls).isCorrect word = true →
        (checker.after (calls ++ later)).isCorrect word = true)) ∧
    (∀ word, (checker.after calls).accepts word = true ↔
      checker.accepts word = true ∨ Silences calls word) ∧
    ∀ text, ((checker.after calls).report text).errors =
      (checker.report text).errors.filter fun error =>
        !(checker.after calls).accepts error.word := by
  refine ⟨suggest_after checker calls, fun others h => ⟨suggest_after_congr h, fun text => ?_⟩,
    fun later word => ⟨accepts_after_append later, isCorrect_after_append later⟩,
    fun word => accepts_after, check_after checker calls⟩
  simp only [report, check_after_congr h]

end Checker

end AffixSpeller
