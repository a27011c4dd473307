import AffixSpeller.Proofs.Affix.Failures
import AffixSpeller.Proofs.Text.Fields
import Mathlib.Logic.Relation

/-!
# The layout of grammars

What a line of a grammar says is a list of fields: those behind its byte order marks, up to the
first one that begins with a number sign. Blank lines and comments say no field. So a line says the
same with more white space around its fields, with a byte order mark in front, or with a comment
behind, and lines that say nothing may stand anywhere. A grammar that is laid out in another way has
the same table or the same failure; only the number of the line that is rejected goes up by that of
the lines inserted before it.

## Main definitions

* `GrammarLine.saidFields`: the fields that a line says, none for a blank line or a comment.
* `Text.Respaced`: an edit of a line that changes nothing but its layout.
* `Relayout`: the lines of a grammar edited in this way, and lines inserted between them.
* `Relayout.insertedBefore`: how many lines are inserted before one of the old lines.

## Main results

* `GrammarLine.says?_eq`: blank lines and comments are the lines without a field.
* `Text.Respaced.saidFields_eq`: an edit of the layout leaves what a line says.
* `Relayout.filterMap_says?_eq`, `Relayout.failsAt`: what a grammar says, and the line that is rejected.
* `AffixTable.parse_of_relayout`: the outcome for a grammar that is laid out in another way.
-/

namespace AffixSpeller

/-! ### What a line says -/

namespace GrammarLine

/-- The fields that a line says: those behind its byte order marks, up to the first one that begins
with a number sign. -/
def saidFields (raw : Text) : List Text :=
  (Text.fields (raw.dropWhile (· == '\ufeff'))).takeWhile fun field => field.head? != some '#'

/-- **Blank lines and comments** are the lines that say no field. -/
theorem says?_eq (raw : Text) :
    says? raw = if saidFields raw = [] then none else some (saidFields raw) := by
  have hfields : saidFields raw =
      (Text.fields (Text.content raw)).takeWhile fun field => field.head? != some '#' := by
    rw [saidFields, Text.content, Text.fields_trim]
  rw [hfields, says?]
  obtain hnil | ⟨c, rest, hcontent, hc⟩ :=
    Text.trim_eq_nil_or_cons (raw.dropWhile (· == '\ufeff'))
  · rw [Text.content, hnil]
    rfl
  · rw [Text.content, hcontent]
    obtain ⟨f, fs, hsplit⟩ := Text.fields_cons_of_not_white hc rest
    by_cases hcomment : c = '#'
    · subst hcomment
      rw [hsplit, List.takeWhile_cons_of_neg (by simp)]
      rfl
    · rw [hsplit, List.takeWhile_cons_of_pos (by simpa using hcomment)]
      simp [hcomment, fields, hsplit]

end GrammarLine

/-! ### Edits of the layout -/

namespace Text

/-- An edit of a line that changes nothing but its layout. -/
inductive Respaced : Text → Text → Prop
  /-- A byte order mark at the very beginning. -/
  | mark (line : Text) : Respaced line ('\ufeff' :: line)
  /-- White space at the end, such as the carriage return of a line end of two characters. -/
  | atEnd (line : Text) {gap : Text} (hgap : Blank gap) : Respaced line (line ++ gap)
  /-- White space at the beginning, behind all byte order marks there. -/
  | atStart {marks line gap : Text} (hmarks : ∀ c ∈ marks, c = '\ufeff')
      (hline : line.head? ≠ some '\ufeff') (hgap : Blank gap) :
      Respaced (marks ++ line) (marks ++ (gap ++ line))
  /-- Other white space between two fields, wider or not. -/
  | between (left right : Text) {gap gap' : Text} (hgap : Blank gap) (hne : gap ≠ [])
      (hgap' : Blank gap') (hne' : gap' ≠ []) :
      Respaced (left ++ (gap ++ right)) (left ++ (gap' ++ right))
  /-- White space and a field that begins with a number sign, with any text after it. -/
  | comment (line said : Text) {gap : Text} (hgap : Blank gap) (hne : gap ≠ []) :
      Respaced line (line ++ (gap ++ '#' :: said))

open GrammarLine (saidFields)

/-- White space in a line parts the fields of both sides, wherever the byte order marks end. -/
private theorem fields_dropWhile_mark_append {gap : Text} (hgap : Blank gap) (hne : gap ≠ [])
    (left right : Text) :
    fields ((left ++ (gap ++ right)).dropWhile (· == '\ufeff')) =
      fields (left.dropWhile (· == '\ufeff')) ++ fields right := by
  rw [dropWhile_mark_append left (hgap.head?_append_ne hne right),
    fields_append_blank_append hgap hne]

/-- **An edit of the layout** leaves what a line says. -/
theorem Respaced.saidFields_eq {line line' : Text} (h : Respaced line line') :
    saidFields line' = saidFields line := by
  unfold saidFields
  cases h with
  | mark => rw [List.dropWhile_cons_of_pos (by simp)]
  | @atEnd _ gap hgap =>
    by_cases hne : gap = []
    · rw [hne, List.append_nil]
    · have hfields := fields_dropWhile_mark_append hgap hne line []
      rw [List.append_nil] at hfields
      rw [hfields]
      exact congrArg _ (List.append_nil _)
  | @atStart marks line gap hmarks hline hgap =>
    by_cases hne : gap = []
    · rw [hne, List.nil_append]
    · have hdrop : marks.dropWhile (· == '\ufeff') = [] :=
        List.dropWhile_eq_nil_iff.2 fun c hc => by simpa using hmarks c hc
      rw [fields_dropWhile_mark_append hgap hne, dropWhile_mark_append marks hline, hdrop,
        List.nil_append]
      rfl
  | between left right hgap hne hgap' hne' =>
    rw [fields_dropWhile_mark_append hgap hne, fields_dropWhile_mark_append hgap' hne']
  | comment _ said hgap hne =>
    -- the fields of the comment come last, and none of them is said
    obtain ⟨f, fs, hcomment⟩ := fields_cons_of_not_white (c := '#') (by decide) said
    rw [fields_dropWhile_mark_append hgap hne, hcomment, List.takeWhile_append]
    split_ifs with hall
    · rw [List.takeWhile_cons_of_neg (by simp), List.append_nil,
        (List.takeWhile_prefix _).eq_of_length hall]
    · rfl

/-- The line comes from the other one by edits of the layout. -/
abbrev Relaid : Text → Text → Prop :=
  Relation.ReflTransGen Respaced

theorem Relaid.saidFields_eq {line line' : Text} (h : Relaid line line') :
    saidFields line' = saidFields line := by
  induction h with
  | refl => rfl
  | tail _ hstep ih => rw [hstep.saidFields_eq, ih]

/-- The line says nothing: it is blank or begins with a number sign, and may be laid out in another
way then. -/
def IsPassedOver (line : Text) : Prop :=
  ∃ plain, (Blank plain ∨ plain.head? = some '#') ∧ Relaid plain line

theorem IsPassedOver.saidFields_eq {line : Text} (h : IsPassedOver line) :
    saidFields line = [] := by
  obtain ⟨plain, hplain, hrelaid⟩ := h
  rw [hrelaid.saidFields_eq]
  obtain hblank | hhead := hplain
  · exact (Respaced.atEnd [] hblank).saidFields_eq
  · obtain ⟨rest, rfl⟩ := List.head?_eq_some_iff.1 hhead
    obtain ⟨f, fs, hfields⟩ := fields_cons_of_not_white (c := '#') (by decide) rest
    rw [saidFields, List.dropWhile_cons_of_neg (by simp), hfields, List.takeWhile_cons_of_neg (by simp)]

end Text

/-! ### Grammars in another layout -/

/-- The new lines are the old ones, each in another layout perhaps, with lines that say nothing
inserted between them. -/
inductive Relayout : List Text → List Text → Type
  | nil : Relayout [] []
  | kept {old new : Text} {olds news : List Text} (h : Text.Relaid old new)
      (rest : Relayout olds news) : Relayout (old :: olds) (new :: news)
  | inserted {new : Text} {olds news : List Text} (h : Text.IsPassedOver new)
      (rest : Relayout olds news) : Relayout olds (new :: news)

namespace Relayout

open GrammarLine (says? fieldsOf)

variable {olds news : List Text}

/-- The number of lines inserted before the old line of the given index. -/
def insertedBefore {olds news : List Text} : Relayout olds news → Nat → Nat
  | nil, _ => 0
  | kept _ _, 0 => 0
  | kept _ rest, index + 1 => rest.insertedBefore index
  | inserted _ rest, index => rest.insertedBefore index + 1

theorem says?_of_relaid {old new : Text} (h : Text.Relaid old new) : says? new = says? old := by
  rw [GrammarLine.says?_eq, GrammarLine.says?_eq, h.saidFields_eq]

theorem says?_of_isPassedOver {new : Text} (h : Text.IsPassedOver new) : says? new = none := by
  rw [GrammarLine.says?_eq, h.saidFields_eq, if_pos rfl]

/-- **Lines in another layout say the same.** -/
theorem filterMap_says?_eq (change : Relayout olds news) :
    news.filterMap says? = olds.filterMap says? := by
  induction change with
  | nil => rfl
  | kept h rest ih => rw [List.filterMap_cons, List.filterMap_cons, says?_of_relaid h, ih]
  | inserted h rest ih => rw [List.filterMap_cons_none (says?_of_isPassedOver h), ih]

/-- **The line that is rejected** is the same one, further down by the inserted lines before it. -/
theorem failsAt (change : Relayout olds news) {draft : Draft} {index : Nat} {fault : Fault}
    (h : draft.FailsAt olds index fault) :
    draft.FailsAt news (index + change.insertedBefore index) fault := by
  induction change generalizing draft index with
  | nil =>
    obtain ⟨_, _, _, hget, -⟩ := h
    cases hget
  | @kept old new olds news hline rest ih =>
    cases index with
    | zero =>
      rw [Draft.failsAt_zero, ← says?_of_relaid hline, ← Draft.failsAt_zero] at h
      exact h
    | succ index =>
      rw [Draft.failsAt_succ, ← says?_of_relaid hline] at h
      obtain ⟨next, hread, h⟩ := h
      rw [Nat.add_right_comm]
      exact Draft.failsAt_succ.2 ⟨next, hread, ih h⟩
  | @inserted new olds news hline rest ih =>
    refine Draft.failsAt_succ.2 ⟨draft, ?_, ih h⟩
    rw [says?_of_isPassedOver hline]
    rfl

end Relayout

namespace AffixTable

variable {grammar grammar' : Text}

/-- **Layout is irrelevant.** A grammar whose lines are laid out in another way, with lines that say
nothing inserted between them, has the same table, or the same wrong number at its end, or the same
fault in the same line, which is further down by the lines inserted before it. -/
theorem parse_of_relayout (change : Relayout (Text.lines grammar) (Text.lines grammar'))
    (file : Text) :
    (∀ table, (AffixTable.parse grammar' file).result = .ok table ↔
      (AffixTable.parse grammar file).result = .ok table) ∧
    (∀ place subject declared found,
      (AffixTable.parse grammar' file).result =
          .error (.countMismatch place subject declared found) ↔
        (AffixTable.parse grammar file).result =
          .error (.countMismatch place subject declared found)) ∧
    ∀ place number fault said,
      (AffixTable.parse grammar file).result = .error (.malformed place number fault said) →
        ∃ said', (AffixTable.parse grammar' file).result =
          .error (.malformed place (number + change.insertedBefore (number - 1)) fault said') := by
  have hfields : GrammarLine.fieldsOf grammar' = GrammarLine.fieldsOf grammar :=
    change.filterMap_says?_eq
  refine ⟨fun table => ?_, fun place subject declared found => ?_,
    fun place number fault said h => ?_⟩
  · rw [parse_result_eq_ok_iff, parse_result_eq_ok_iff, hfields]
  · simp only [parse_result_eq_error_iff, GrammarError.Explains, ← isSome_readAll_fieldsOf_iff,
      hfields]
  · obtain ⟨rfl, ⟨index, rfl, hfails⟩, -⟩ := parse_result_eq_error_iff.1 h
    rw [Nat.add_sub_cancel, Nat.add_right_comm]
    exact exists_malformed_of_failsAt place (change.failsAt hfails)

/-- A grammar with a rule that lacks its condition, and the same one with a byte order mark, a line
end of two characters, an empty line, comments and wider white space. -/
theorem parse_of_relayout_missing_condition :
    ∃ said, (AffixTable.parse
        "\ufeffTRY ab\r\n\n# rules\nSFX\t S Y 1 # one\nSFX S 0 s #.\n".toList
        "en.aff".toList).result =
      .error (.malformed "en.aff".toList 5 .missingCondition said) := by
  have hparse : ∀ {olds news : List Text},
      Text.lines "TRY ab\nSFX S Y 1\nSFX S 0 s\n".toList = olds →
      Text.lines "\ufeffTRY ab\r\n\n# rules\nSFX\t S Y 1 # one\nSFX S 0 s #.\n".toList = news →
      ∀ change : Relayout olds news, ∃ said, (AffixTable.parse
          "\ufeffTRY ab\r\n\n# rules\nSFX\t S Y 1 # one\nSFX S 0 s #.\n".toList
          "en.aff".toList).result =
        .error (.malformed "en.aff".toList (3 + change.insertedBefore 2) .missingCondition said) := by
    rintro _ _ rfl rfl change
    exact (parse_of_relayout change "en.aff".toList).2.2 _ 3 .missingCondition "SFX S 0 s".toList
      (by decide +kernel)
  have hfirst : Text.Relaid "TRY ab".toList (('\ufeff' :: "TRY ab".toList) ++ ['\r']) :=
    .tail (.single (.mark _)) (.atEnd _ (by decide))
  have hheader : Text.Relaid ("SFX".toList ++ ([' '] ++ "S Y 1".toList))
      ("SFX".toList ++ (['\t', ' '] ++ "S Y 1".toList) ++ ([' '] ++ '#' :: " one".toList)) :=
    .tail (.single (.between _ _ (by decide) (by decide) (by decide) (by decide)))
      (.comment _ _ (by decide) (by decide))
  have hrule : Text.Relaid "SFX S 0 s".toList ("SFX S 0 s".toList ++ ([' '] ++ '#' :: ".".toList)) :=
    .single (.comment _ _ (by decide) (by decide))
  have hlast : Text.Relaid [] [] := .refl
  exact hparse (by decide +kernel) (by decide +kernel)
    (.kept hfirst (.inserted ⟨[], .inl (by decide), .refl⟩
      (.inserted ⟨"# rules".toList, .inr (by decide), .refl⟩
        (.kept hheader (.kept hrule (.kept hlast .nil))))))

end AffixTable

end AffixSpeller
