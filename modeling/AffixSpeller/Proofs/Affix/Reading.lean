import AffixSpeller.Proofs.Affix.WellFormed

/-!
# Lines and their fields

What a grammar says depends on the fields of its lines only, which one line after the other turn
into a draft. The numbers of the lines and the texts around the fields come up in errors and in the
record alone.

## Main definitions

* `GrammarLine.says?`, `GrammarLine.fieldsOf`: the fields of a line, and of the lines of a grammar.
* `GrammarLine.numberedFrom`: the lines that say something, with numbers.
* `Draft.readAll`: the effect of the fields of lines, one after the other.
* `GrammarLine.flagEncodings`: the flag encodings that lines ask for.

## Main results

* `Directive.ofTag_eq_setting_iff`, `Directive.ofTag_eq_replacement_iff`,
  `Directive.ofTag_eq_affix_iff`: the tags that the lines of settings, of the replacement table and
  of groups begin with.
* `AffixTable.parse_result_eq_ok_iff`: when a grammar is read, and to which table.
* `AffixTable.flagEncoding_of_parse`: the flag encoding is the one that was asked for last.
-/

namespace AffixSpeller

/-! ### Directives -/

namespace Directive

variable {tag : Text}

/-- A directive that is acted upon has the tag that it is listed with. -/
private theorem mem_actedUpon_of_ofTag {directive : Directive} (h : ofTag tag = directive)
    (hignored : directive ≠ .ignored) (hunknown : directive ≠ .unknown) :
    (tag, directive) ∈ actedUpon := by
  unfold ofTag at h
  split at h
  · rename_i found hfound
    obtain ⟨l₁, l₂, hl, -⟩ := List.lookup_eq_some_iff.1 hfound
    simp [hl, h]
  · split_ifs at h
    · exact absurd h.symm hignored
    · exact absurd h.symm hunknown

theorem ofTag_eq_setting_iff {setting : Setting} :
    ofTag tag = .setting setting ↔ tag = setting.tag := by
  constructor
  · intro h
    have hmem := mem_actedUpon_of_ofTag h (by simp) (by simp)
    cases setting <;> simpa [actedUpon] using hmem
  · rintro rfl
    cases setting <;> decide

theorem ofTag_eq_replacement_iff : ofTag tag = .replacement ↔ tag = "REP".toList := by
  constructor
  · intro h
    have hmem := mem_actedUpon_of_ofTag h (by simp) (by simp)
    simpa [actedUpon] using hmem
  · rintro rfl
    decide

theorem ofTag_eq_affix_iff {kind : AffixKind} : ofTag tag = .affix kind ↔ tag = kind.tag := by
  constructor
  · intro h
    have hmem := mem_actedUpon_of_ofTag h (by simp) (by simp)
    cases kind <;> simpa [actedUpon] using hmem
  · rintro rfl
    cases kind <;> decide

end Directive

/-! ### Fields -/

namespace GrammarLine

/-- The fields of a line as it stands in a text; blank lines and comments have none. -/
def says? (raw : Text) : Option (List Text) :=
  if (Text.content raw).isEmpty || (Text.content raw).head? == some '#' then none
  else some (fields ⟨0, Text.content raw⟩)

/-- The fields of the lines of a grammar other than blank lines and comments. -/
def fieldsOf (text : Text) : List (List Text) :=
  (Text.lines text).filterMap says?

/-- The lines that say something, numbered from the given number on. -/
def numberedFrom (n : Nat) (raws : List Text) : List GrammarLine :=
  ((raws.zipIdx n).map fun numbered => (⟨numbered.2, Text.content numbered.1⟩ : GrammarLine)).filter
    fun line => !line.text.isEmpty && line.text.head? != some '#'

theorem ofText_eq_numberedFrom (text : Text) : ofText text = numberedFrom 1 (Text.lines text) := rfl

theorem numberedFrom_cons_of_none {n : Nat} {raw : Text} {raws : List Text}
    (hraw : says? raw = none) : numberedFrom n (raw :: raws) = numberedFrom (n + 1) raws := by
  rw [numberedFrom, List.zipIdx_cons, List.map_cons, List.filter_cons_of_neg]
  · rfl
  · simpa [says?, imp_iff_not_or] using hraw

theorem numberedFrom_cons_of_some {raw : Text} {said : List Text} (hraw : says? raw = some said)
    (n : Nat) (raws : List Text) :
    numberedFrom n (raw :: raws) = ⟨n, Text.content raw⟩ :: numberedFrom (n + 1) raws ∧
      fields ⟨n, Text.content raw⟩ = said := by
  unfold says? at hraw
  split_ifs at hraw with hnothing
  refine ⟨?_, Option.some.inj hraw⟩
  rw [numberedFrom, List.zipIdx_cons, List.map_cons, List.filter_cons_of_pos]
  · rfl
  · simpa using hnothing

theorem map_fields_numberedFrom (n : Nat) (raws : List Text) :
    (numberedFrom n raws).map fields = raws.filterMap says? := by
  induction raws generalizing n with
  | nil => rfl
  | cons raw raws ih =>
    cases hraw : says? raw with
    | none => rw [numberedFrom_cons_of_none hraw, List.filterMap_cons_none hraw, ih]
    | some said =>
      obtain ⟨hcons, hfields⟩ := numberedFrom_cons_of_some hraw n raws
      rw [hcons, List.map_cons, List.filterMap_cons_some hraw, hfields, ih]

theorem map_fields_ofText (text : Text) : (ofText text).map fields = fieldsOf text :=
  map_fields_numberedFrom 1 (Text.lines text)

end GrammarLine

namespace Draft

variable {draft next : Draft} {file : Text}

/-- The effect of lines with the given fields, if all of them can be read. -/
def readAll (draft : Draft) (lines : List (List Text)) : Option Draft :=
  lines.foldlM (fun draft fields => (draft.read fields).toOption) draft

@[simp] theorem readAll_nil (draft : Draft) : draft.readAll [] = some draft := rfl

theorem readAll_cons (draft : Draft) (fields : List Text) (lines : List (List Text)) :
    draft.readAll (fields :: lines) = (draft.read fields).toOption.bind (readAll · lines) :=
  List.foldlM_cons

theorem readAll_cons_eq_some_iff {fields : List Text} {lines : List (List Text)} :
    draft.readAll (fields :: lines) = some next ↔
      ∃ mid, draft.read fields = .ok mid ∧ mid.readAll lines = some next := by
  simp only [readAll_cons, Option.bind_eq_some_iff, toOption_eq_some_iff]

theorem readAll_append (draft : Draft) (lines lines' : List (List Text)) :
    draft.readAll (lines ++ lines') = (draft.readAll lines).bind (readAll · lines') :=
  List.foldlM_append

/-- Reading lines succeeds or fails by their fields. -/
theorem readLines_result_eq_ok_iff {lines : List GrammarLine} :
    (readLines file draft lines).result = .ok next ↔
      draft.readAll (lines.map GrammarLine.fields) = some next := by
  induction lines generalizing draft with
  | nil => simp [readLines]
  | cons line lines ih =>
    rw [readLines, List.map_cons, readAll_cons_eq_some_iff]
    cases draft.read line.fields with
    | error fault => simp
    | ok mid => simp [ih]

/-- A draft is finished if every declared number is the number read. -/
theorem finish_eq_ok_iff {table : AffixTable} :
    draft.finish file = .ok table ↔
      draft.table = table ∧
        (∀ declared, draft.replacementsDeclared = some declared →
          declared = draft.table.replacements.length) ∧
        ∀ g ∈ draft.table.groups, g.rules.length = g.declared := by
  unfold finish
  dsimp only
  cases hcount : draft.replacementsDeclared.filter (· != draft.table.replacements.length) with
  | some declared =>
    obtain ⟨hdeclared, hne⟩ := Option.filter_eq_some_iff.1 hcount
    simp only [reduceCtorEq, false_iff, not_and]
    exact fun _ hright => absurd (hright declared hdeclared) (by simpa using hne)
  | none =>
    have hright : ∀ declared, draft.replacementsDeclared = some declared →
        declared = draft.table.replacements.length := by
      simpa [Option.filter_eq_none_iff] using hcount
    cases hgroups : draft.table.groups.find? fun g => g.rules.length != g.declared with
    | some g =>
      have hne := List.find?_some hgroups
      simp only [reduceCtorEq, false_iff, not_and]
      exact fun _ _ hall => absurd (hall g (List.mem_of_find?_eq_some hgroups)) (by simpa using hne)
    | none =>
      have hall : ∀ g ∈ draft.table.groups, g.rules.length = g.declared := by
        simpa using hgroups
      simp only [Except.ok.injEq]
      exact ⟨fun htable => ⟨htable, hright, hall⟩, And.left⟩

end Draft

/-- **When a grammar is read.** All of its lines can be read, and the numbers that they declare are
right. -/
theorem AffixTable.parse_result_eq_ok_iff {text file : Text} {table : AffixTable} :
    (AffixTable.parse text file).result = .ok table ↔
      ∃ draft, Draft.readAll {} (GrammarLine.fieldsOf text) = some draft ∧
        draft.finish file = .ok table := by
  rw [AffixTable.parse, Logged.result_andThen_eq_ok_iff]
  rw [← GrammarLine.map_fields_ofText]
  refine exists_congr fun draft => and_congr Draft.readLines_result_eq_ok_iff ?_
  cases draft.finish file <;> simp

theorem AffixTable.parse_result_toOption (text file : Text) :
    (AffixTable.parse text file).result.toOption =
      (Draft.readAll {} (GrammarLine.fieldsOf text)).bind fun draft =>
        (draft.finish file).toOption := by
  ext table
  simp only [toOption_eq_some_iff, AffixTable.parse_result_eq_ok_iff, Option.bind_eq_some_iff]

/-! ### The flag encoding -/

/-- The flag encoding that a line with the given fields asks for. -/
def GrammarLine.flagEncoding? (fields : List Text) : Option FlagEncoding :=
  match fields with
  | [tag, name] => if tag = Setting.flagEncoding.tag then FlagEncoding.ofName? name else none
  | _ => none

/-- The flag encodings that the lines of a grammar ask for. -/
def GrammarLine.flagEncodings (text : Text) : List FlagEncoding :=
  (GrammarLine.fieldsOf text).filterMap GrammarLine.flagEncoding?

namespace Draft

variable {draft next : Draft}

/-- A setting other than the flag encoding leaves that as it is. -/
private theorem flagEncoding_readSetting {setting : Setting} (h : setting ≠ .flagEncoding)
    {argument : Text} (hread : draft.readSetting setting argument = .ok next) :
    next.table.flagEncoding = draft.table.flagEncoding := by
  cases setting with
  | tryCharacters =>
    simp only [readSetting] at hread
    split_ifs at hread
    cases hread
    rfl
  | compoundFlag =>
    simp only [readSetting] at hread
    split_ifs at hread
    cases hread
    rfl
  | compoundMin =>
    simp only [readSetting] at hread
    split_ifs at hread
    split at hread
    · cases hread
    · cases hread
      rfl
  | flagEncoding => exact absurd rfl h
  | charset =>
    cases hread
    rfl

private theorem flagEncoding_readReplacement {arguments : List Text}
    (hread : draft.readReplacement arguments = .ok next) :
    next.table.flagEncoding = draft.table.flagEncoding := by
  unfold readReplacement at hread
  split at hread
  · split at hread
    · cases hread
    · cases hread
      rfl
  · cases hread
  · cases hread
    rfl
  · cases hread

private theorem flagEncoding_readAffix {kind : AffixKind} {arguments : List Text}
    (hread : draft.readAffix kind arguments = .ok next) :
    next.table.flagEncoding = draft.table.flagEncoding := by
  unfold readAffix at hread
  split at hread
  · cases hread
  · split at hread
    · split at hread
      · cases hread
      · cases hread
        rfl
    · split at hread
      · cases hread
      · cases hread
        rfl

/-- After a line the flag encoding is the one that the line asks for, or else the old one. -/
theorem flagEncoding_read {fields : List Text} (hread : draft.read fields = .ok next) :
    next.table.flagEncoding =
      (GrammarLine.flagEncoding? fields).getD draft.table.flagEncoding := by
  unfold read at hread
  split at hread
  · cases hread
    rfl
  · rename_i tag arguments
    have hother (h : Directive.ofTag tag ≠ .setting .flagEncoding) :
        GrammarLine.flagEncoding? (tag :: arguments) = none := by
      rw [Ne, Directive.ofTag_eq_setting_iff] at h
      unfold GrammarLine.flagEncoding?
      split <;> simp_all
    split at hread
    · rename_i setting hsetting
      split at hread
      · rename_i argument
        by_cases hencoding : setting = .flagEncoding
        · subst hencoding
          rw [Directive.ofTag_eq_setting_iff] at hsetting
          simp only [readSetting, FlagEncoding.ofName] at hread
          cases hname : FlagEncoding.ofName? argument with
          | none => simp [hname] at hread
          | some encoding =>
            simp only [hname, Except.ok.injEq] at hread
            simp [GrammarLine.flagEncoding?, hsetting, hname, ← hread]
        · rw [flagEncoding_readSetting hencoding hread, hother (by simp [hsetting, hencoding])]
          rfl
      · cases hread
    · rename_i hreplacement
      rw [flagEncoding_readReplacement hread, hother (by simp [hreplacement])]
      rfl
    · rename_i kind haffix
      rw [flagEncoding_readAffix hread, hother (by simp [haffix])]
      rfl
    all_goals
      rename_i hpassed
      cases hread
      rw [hother (by simp [hpassed])]
      rfl

/-- After lines the flag encoding is the last one that they ask for, or else the old one. -/
theorem flagEncoding_readAll {lines : List (List Text)} (hread : draft.readAll lines = some next) :
    next.table.flagEncoding =
      (lines.filterMap GrammarLine.flagEncoding?).getLast?.getD draft.table.flagEncoding := by
  induction lines generalizing draft with
  | nil =>
    cases hread
    rfl
  | cons fields lines ih =>
    obtain ⟨mid, hline, hlines⟩ := readAll_cons_eq_some_iff.1 hread
    rw [ih hlines, flagEncoding_read hline, List.filterMap_cons]
    cases GrammarLine.flagEncoding? fields <;> simp [List.getLast?_cons]

end Draft

/-- **The flag encoding of a table** is the one that the grammar asks for last. -/
theorem AffixTable.flagEncoding_of_parse {text file : Text} {table : AffixTable}
    (h : (AffixTable.parse text file).result = .ok table) :
    table.flagEncoding = (GrammarLine.flagEncodings text).getLast?.getD .ascii := by
  obtain ⟨draft, hread, hfinish⟩ := AffixTable.parse_result_eq_ok_iff.1 h
  rw [← Draft.table_eq_of_finish hfinish]
  exact Draft.flagEncoding_readAll hread

end AffixSpeller
