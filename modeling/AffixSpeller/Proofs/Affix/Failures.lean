import AffixSpeller.Proofs.Affix.Blocks
import AffixSpeller.Proofs.Affix.GroupOrder
import AffixSpeller.Proofs.Text.Joining

/-!
# Why grammars are unusable

A grammar fails at the first line that the lines before it leave no reading for; nothing behind
that line matters. If there is no such line, it fails where a header declares another number than
that of its entries: at the replacement table if that one is wrong, or else at the first wrong
group. All other grammars have a table.

## Main definitions

* `Draft.FailsAt`, `GrammarLine.Rejected`: a line cannot be read after those before it.
* `Subject.Miscounted`, `Subject.FirstMiscounted`: a header declares a wrong number, and is the
  first one that does.
* `GrammarError.Explains`: the failure is what is wrong with a text.

## Main results

* `Draft.readLines_result_eq_error_iff`, `Draft.finish_eq_error_iff`: the failures of lines, and
  those at the end of a grammar.
* `Draft.FailsAt.congr`: whether a line can be read depends on what it and those before it say.
* `AffixTable.parse_result_eq_error_iff`: the failure of a grammar.
* `AffixTable.parse_result_of_readAll`, `AffixTable.exists_malformed_of_readAll`: the outcome where
  all lines can be read, and where some cannot.
* `AffixTable.parse_reports`: which failure is reported, and that there is no other.
-/

namespace AffixSpeller

open GrammarLine (says? fieldsOf)

/-! ### Lines that are rejected -/

/-- What a line says depends on its content. -/
theorem GrammarLine.says?_congr {raw raw' : Text} (h : Text.content raw = Text.content raw') :
    says? raw = says? raw' := by
  simp only [says?, h]

theorem GrammarLine.filterMap_says?_congr {raws raws' : List Text}
    (h : raws'.map Text.content = raws.map Text.content) :
    raws'.filterMap says? = raws.filterMap says? := by
  induction raws generalizing raws' with
  | nil => rw [List.map_eq_nil_iff.1 h]
  | cons raw raws ih =>
    obtain ⟨raw', raws', rfl, hraw, hraws⟩ := List.map_eq_cons_iff.1 h
    rw [List.filterMap_cons, List.filterMap_cons, says?_congr hraw, ih hraws]

/-- A text of lines says what the lines say. -/
theorem GrammarLine.fieldsOf_ofLines {raws : List Text} (h : ∀ raw ∈ raws, '\n' ∉ raw) :
    fieldsOf (Text.ofLines raws) = raws.filterMap says? := by
  have hblank : [([] : Text)].filterMap says? = [] := by decide
  rw [fieldsOf, Text.lines_ofLines h, List.filterMap_append, hblank, List.append_nil]

namespace Draft

variable {draft : Draft} {file raw : Text} {raws : List Text} {index : Nat} {fault : Fault}

/-- After the lines before it, the line at the given index cannot be read. -/
def FailsAt (draft : Draft) (raws : List Text) (index : Nat) (fault : Fault) : Prop :=
  ∃ raw fields mid, raws[index]? = some raw ∧ says? raw = some fields ∧
    draft.readAll ((raws.take index).filterMap says?) = some mid ∧ mid.read fields = .error fault

theorem failsAt_zero :
    draft.FailsAt (raw :: raws) 0 fault ↔
      ∃ fields, says? raw = some fields ∧ draft.read fields = .error fault := by
  simp [FailsAt]

theorem failsAt_succ :
    draft.FailsAt (raw :: raws) (index + 1) fault ↔
      ∃ next, draft.readAll (says? raw).toList = some next ∧ next.FailsAt raws index fault := by
  simp only [FailsAt, List.getElem?_cons_succ, List.take_succ_cons]
  cases hraw : says? raw with
  | none => simp [List.filterMap_cons_none hraw]
  | some said =>
    cases hline : draft.read said <;>
      simp [List.filterMap_cons_some hraw, readAll_cons, hline, Except.toOption]

/-- Reading lines fails at the first one that cannot be read after those before it. -/
theorem readLines_result_eq_error_iff {n : Nat} {e : GrammarError} :
    (readLines file draft (GrammarLine.numberedFrom n raws)).result = .error e ↔
      ∃ index fault raw, draft.FailsAt raws index fault ∧ raws[index]? = some raw ∧
        e = .malformed file (n + index) fault (Text.content raw) := by
  induction raws generalizing draft n with
  | nil => simp [GrammarLine.numberedFrom, readLines]
  | cons raw raws ih =>
    -- the failure is at the first line, or else it is one of the others after what that line does
    rw [← Nat.or_exists_add_one]
    simp only [failsAt_zero, failsAt_succ, List.getElem?_cons_zero, List.getElem?_cons_succ]
    cases hraw : says? raw with
    | none =>
      rw [GrammarLine.numberedFrom_cons_of_none hraw, ih]
      simp [Nat.add_right_comm, Nat.add_assoc]
    | some said =>
      obtain ⟨hcons, hfields⟩ := GrammarLine.numberedFrom_cons_of_some hraw n raws
      rw [hcons, readLines, hfields]
      cases hline : draft.read said with
      | error fault => simp [readAll_cons, hline, Except.toOption, eq_comm]
      | ok next =>
        rw [Logged.result_after, ih]
        simp [readAll_cons, hline, Except.toOption, Nat.add_right_comm, Nat.add_assoc]

/-- Lines can be read if there is none that cannot be read after those before it. -/
theorem isSome_readAll_iff_forall_not_failsAt :
    (draft.readAll (raws.filterMap says?)).isSome = true ↔
      ∀ index fault, ¬draft.FailsAt raws index fault := by
  induction raws generalizing draft with
  | nil => simp [FailsAt]
  | cons raw raws ih =>
    rw [← Nat.and_forall_add_one]
    simp only [failsAt_zero, failsAt_succ]
    cases hraw : says? raw with
    | none => simp [List.filterMap_cons_none hraw, ih]
    | some said =>
      rw [List.filterMap_cons_some hraw]
      cases hline : draft.read said <;> simp [readAll_cons, hline, Except.toOption, ih]

/-- Whether a line can be read depends on what it and the lines before it say. -/
theorem FailsAt.congr {raws' : List Text} (h : draft.FailsAt raws index fault)
    (hsame : (raws'.take (index + 1)).map Text.content =
      (raws.take (index + 1)).map Text.content) :
    draft.FailsAt raws' index fault := by
  obtain ⟨raw, fields, mid, hget, hraw, hmid, hread⟩ := h
  have hline := congrArg (·[index]?) hsame
  have hbefore := congrArg (List.take index) hsame
  obtain ⟨raw', hget', hcontent⟩ :
      ∃ raw', raws'[index]? = some raw' ∧ Text.content raw' = Text.content raw := by
    simpa [hget] using hline
  have hsaid : (raws'.take index).filterMap says? = (raws.take index).filterMap says? :=
    GrammarLine.filterMap_says?_congr (by simpa [← List.map_take, List.take_take] using hbefore)
  exact ⟨raw', fields, mid, hget', (GrammarLine.says?_congr hcontent).trans hraw, hsaid ▸ hmid,
    hread⟩

end Draft

/-! ### Numbers that are wrong -/

namespace Subject

variable {subject other : Subject} {lines : List (List Text)}

/-- The header of the subject declares another number than that of the lines after it. -/
def Miscounted (subject : Subject) (lines : List (List Text)) : Prop :=
  ∃ declared, subject.declared? lines = some declared ∧ declared ≠ subject.found lines

/-- The subject is the one to report: its number is wrong, and so is none that comes before it. The
replacement table comes first, then the groups by their tags and flags. -/
def FirstMiscounted (subject : Subject) (lines : List (List Text)) : Prop :=
  subject.Miscounted lines ∧
    match subject with
    | .replacements => True
    | .group kind flag => ¬replacements.Miscounted lines ∧
        ∀ kind' flag', (group kind' flag').Miscounted lines → kind.rank flag ≤ kind'.rank flag'

theorem FirstMiscounted.unique (h : subject.FirstMiscounted lines)
    (h' : other.FirstMiscounted lines) : subject = other := by
  cases subject with
  | replacements =>
    cases other with
    | replacements => rfl
    | group kind flag => exact absurd h.1 h'.2.1
  | group kind flag =>
    cases other with
    | replacements => exact absurd h'.1 h.2.1
    | group kind' flag' =>
      obtain ⟨rfl, rfl⟩ := AffixKind.rank_inj.1 ((h.2.2 _ _ h'.1).antisymm (h'.2.2 _ _ h.1))
      rfl

end Subject

namespace Draft

variable {draft : Draft} {file : Text} {lines : List (List Text)} {kind : AffixKind} {flag : Flag}

theorem miscounted_replacements_iff (hread : readAll {} lines = some draft) :
    Subject.replacements.Miscounted lines ↔
      ∃ declared, draft.replacementsDeclared = some declared ∧
        declared ≠ draft.table.replacements.length := by
  rw [Subject.Miscounted, declared?_replacements hread, found_replacements hread]

theorem miscounted_group_iff (hread : readAll {} lines = some draft) :
    (Subject.group kind flag).Miscounted lines ↔
      ∃ g, draft.table.group? kind flag = some g ∧ g.rules.length ≠ g.declared := by
  constructor
  · rintro ⟨declared, hdeclared, hwrong⟩
    have hlines : GrammarLine.about (.group kind flag) lines ≠ [] := by
      intro hnil
      simp [Subject.declared?, Subject.target, hnil] at hdeclared
    obtain ⟨g, hgroup⟩ := Option.isSome_iff_exists.1 ((isSome_group?_iff hread).2 hlines)
    obtain ⟨hnumber, hfound⟩ := declared?_and_found_group hread hgroup
    obtain rfl : declared = g.declared := Option.some.inj (hdeclared.symm.trans hnumber)
    exact ⟨g, hgroup, fun heq => hwrong (heq.symm.trans hfound)⟩
  · rintro ⟨g, hgroup, hwrong⟩
    obtain ⟨hnumber, hfound⟩ := declared?_and_found_group hread hgroup
    exact ⟨g.declared, hnumber, fun heq => hwrong (hfound.trans heq.symm)⟩

/-- The numbers of a draft are right if no number that its lines declare is wrong. -/
theorem exists_finish_eq_ok_iff (hread : readAll {} lines = some draft) :
    (∃ table, draft.finish file = .ok table) ↔ ∀ subject : Subject, ¬subject.Miscounted lines := by
  have hkeyed := keyed_readAll AffixTable.keyed_empty hread
  constructor
  · rintro ⟨table, hfinish⟩ subject hwrong
    obtain ⟨-, hnumber, hnumbers⟩ := finish_eq_ok_iff.1 hfinish
    cases subject with
    | replacements =>
      obtain ⟨declared, hdeclared, hne⟩ := (miscounted_replacements_iff hread).1 hwrong
      exact hne (hnumber declared hdeclared)
    | group kind flag =>
      obtain ⟨g, hgroup, hne⟩ := (miscounted_group_iff hread).1 hwrong
      exact hne (hnumbers g (List.mem_of_find?_eq_some hgroup))
  · intro hright
    refine ⟨draft.table, finish_eq_ok_iff.2 ⟨rfl, fun declared hdeclared => ?_, fun g hg => ?_⟩⟩
    · by_contra hne
      exact hright _ ((miscounted_replacements_iff hread).2 ⟨declared, hdeclared, hne⟩)
    · by_contra hne
      exact hright _ ((miscounted_group_iff hread).2 ⟨g, hkeyed g hg, hne⟩)

/-- The first of the ordered groups with a wrong number is the smallest one. -/
private theorem rank_le_of_find? {table : AffixTable} (hordered : table.Ordered)
    {p : AffixGroup → Bool} {g k : AffixGroup} (hfind : table.groups.find? p = some g)
    (hk : k ∈ table.groups) (hpk : p k = true) : g.rank ≤ k.rank := by
  obtain ⟨-, before, after, hgroups, hbefore⟩ := List.find?_eq_some_iff_append.1 hfind
  rw [hgroups, List.mem_append, List.mem_cons] at hk
  rw [AffixTable.Ordered, hgroups, List.pairwise_append, List.pairwise_cons] at hordered
  obtain hk | rfl | hk := hk
  · exact absurd (hbefore k hk) (by simp [hpk])
  · exact le_rfl
  · exact (hordered.2.1.1 k hk).le

/-- The failure at the end of a grammar is about the first subject with a wrong number. -/
private theorem firstMiscounted_of_finish {e : GrammarError} (hread : readAll {} lines = some draft)
    (hfinish : draft.finish file = .error e) :
    ∃ subject declared, subject.FirstMiscounted lines ∧ subject.declared? lines = some declared ∧
      e = .countMismatch file subject declared (subject.found lines) := by
  have hkeyed := keyed_readAll AffixTable.keyed_empty hread
  have hordered := ordered_readAll AffixTable.ordered_empty AffixTable.keyed_empty hread
  unfold finish at hfinish
  dsimp only at hfinish
  split at hfinish
  · rename_i declared hwrong
    obtain ⟨hdeclared, hne⟩ := Option.filter_eq_some_iff.1 hwrong
    cases hfinish
    refine ⟨.replacements, declared, ⟨?_, trivial⟩, ?_, ?_⟩
    · exact (miscounted_replacements_iff hread).2 ⟨declared, hdeclared, by simpa using hne⟩
    · rw [← declared?_replacements hread, hdeclared]
    · rw [found_replacements hread]
  · rename_i hright
    have hreplacements : ¬Subject.replacements.Miscounted lines := by
      rw [miscounted_replacements_iff hread]
      simpa [Option.filter_eq_none_iff] using hright
    split at hfinish
    · rename_i g hfind
      cases hfinish
      have hgroup := hkeyed g (List.mem_of_find?_eq_some hfind)
      obtain ⟨hdeclared, hfound⟩ := declared?_and_found_group hread hgroup
      have hwrong := List.find?_some hfind
      refine ⟨.group g.kind g.flag, g.declared, ⟨?_, hreplacements, ?_⟩, hdeclared, by rw [hfound]⟩
      · exact (miscounted_group_iff hread).2 ⟨g, hgroup, by simpa using hwrong⟩
      · intro kind flag hother
        obtain ⟨k, hk, hne⟩ := (miscounted_group_iff hread).1 hother
        obtain ⟨rfl, rfl⟩ := AffixTable.kind_and_flag_of_group? hk
        exact rank_le_of_find? hordered hfind (List.mem_of_find?_eq_some hk) (by simpa using hne)
    · cases hfinish

/-- **The failure at the end of a grammar** is about the first subject with a wrong number. -/
theorem finish_eq_error_iff {e : GrammarError} (hread : readAll {} lines = some draft) :
    draft.finish file = .error e ↔
      ∃ subject declared, subject.FirstMiscounted lines ∧
        subject.declared? lines = some declared ∧
        e = .countMismatch file subject declared (subject.found lines) := by
  refine ⟨firstMiscounted_of_finish hread, ?_⟩
  rintro ⟨subject, declared, hfirst, hdeclared, rfl⟩
  cases hfinish : draft.finish file with
  | ok table => exact absurd hfirst.1 ((exists_finish_eq_ok_iff hread).1 ⟨table, hfinish⟩ subject)
  | error e =>
    obtain ⟨other, number, hother, hnumber, rfl⟩ := firstMiscounted_of_finish hread hfinish
    obtain rfl := hfirst.unique hother
    rw [Option.some.inj (hnumber.symm.trans hdeclared)]

end Draft

/-! ### Failures of grammars -/

/-- The line of the given number cannot be read after those before it, which can. -/
def GrammarLine.Rejected (text : Text) (number : Nat) (fault : Fault) : Prop :=
  ∃ index, number = index + 1 ∧ Draft.FailsAt {} (Text.lines text) index fault

/-- The failure is what is wrong with the text. -/
def GrammarError.Explains (e : GrammarError) (text file : Text) : Prop :=
  match e with
  | .malformed place number fault said =>
    place = file ∧ GrammarLine.Rejected text number fault ∧
      (Text.lines text)[number - 1]?.map Text.content = some said
  | .countMismatch place subject declared found =>
    place = file ∧ (∀ number fault, ¬GrammarLine.Rejected text number fault) ∧
      subject.FirstMiscounted (fieldsOf text) ∧
      subject.declared? (fieldsOf text) = some declared ∧ subject.found (fieldsOf text) = found

namespace AffixTable

variable {text file : Text}

/-- The lines of a grammar can be read if none is rejected. -/
theorem isSome_readAll_fieldsOf_iff :
    (Draft.readAll {} (fieldsOf text)).isSome = true ↔
      ∀ number fault, ¬GrammarLine.Rejected text number fault := by
  rw [fieldsOf, Draft.isSome_readAll_iff_forall_not_failsAt]
  constructor
  · rintro h _ fault ⟨index, rfl, hfails⟩
    exact h index fault hfails
  · exact fun h index fault hfails => h (index + 1) fault ⟨index, rfl, hfails⟩

/-- Failures come from a line that is rejected, or else from the end. -/
theorem parse_result_eq_bind :
    (AffixTable.parse text file).result =
      (Draft.readLines file {} (GrammarLine.ofText text)).result.bind (·.finish file) := by
  unfold AffixTable.parse Logged.andThen
  cases (Draft.readLines file {} (GrammarLine.ofText text)).result with
  | error e => rfl
  | ok draft =>
    simp only [Except.bind, Logged.result_after]
    cases draft.finish file <;> rfl

/-- **A grammar fails with what is wrong with it.** -/
theorem parse_result_eq_error_iff {e : GrammarError} :
    (AffixTable.parse text file).result = .error e ↔ e.Explains text file := by
  rw [parse_result_eq_bind, GrammarLine.ofText_eq_numberedFrom]
  cases hlines :
    (Draft.readLines file {} (GrammarLine.numberedFrom 1 (Text.lines text))).result with
  | error first =>
    simp only [Except.bind, Except.error.injEq]
    constructor
    · rintro rfl
      obtain ⟨index, fault, raw, hfails, hget, rfl⟩ := Draft.readLines_result_eq_error_iff.1 hlines
      exact ⟨rfl, ⟨index, Nat.add_comm 1 index, hfails⟩, by simp [hget]⟩
    · intro h
      cases e with
      | malformed place number fault said =>
        obtain ⟨rfl, ⟨index, rfl, hfails⟩, hsaid⟩ := h
        obtain ⟨raw, hget, rfl⟩ := Option.map_eq_some_iff.1 hsaid
        refine Except.error.inj (hlines.symm.trans
          (Draft.readLines_result_eq_error_iff.2 ⟨index, fault, raw, hfails, hget, ?_⟩))
        rw [Nat.add_comm]
      | countMismatch place subject declared found =>
        obtain ⟨index, fault, _, hfails, -⟩ := Draft.readLines_result_eq_error_iff.1 hlines
        exact absurd ⟨index, rfl, hfails⟩ (h.2.1 (index + 1) fault)
  | ok draft =>
    have hread := Draft.readLines_result_eq_ok_iff.1 hlines
    rw [GrammarLine.map_fields_numberedFrom] at hread
    have hnone := isSome_readAll_fieldsOf_iff.1 (Option.isSome_of_eq_some hread)
    simp only [Except.bind]
    rw [Draft.finish_eq_error_iff hread]
    constructor
    · rintro ⟨subject, declared, hfirst, hdeclared, rfl⟩
      exact ⟨rfl, hnone, hfirst, hdeclared, rfl⟩
    · intro h
      cases e with
      | malformed place number fault said => exact absurd h.2.1 (hnone number fault)
      | countMismatch place subject declared found =>
        obtain ⟨rfl, -, hfirst, hdeclared, rfl⟩ := h
        exact ⟨subject, declared, hfirst, hdeclared, rfl⟩

/-- Where all lines can be read, the outcome is that of the draft they make. -/
theorem parse_result_of_readAll {draft : Draft} (file : Text)
    (hread : Draft.readAll {} (fieldsOf text) = some draft) :
    (AffixTable.parse text file).result = draft.finish file := by
  have hlines : (Draft.readLines file {} (GrammarLine.ofText text)).result = .ok draft :=
    Draft.readLines_result_eq_ok_iff.2 (by rwa [GrammarLine.map_fields_ofText])
  rw [parse_result_eq_bind, hlines]
  rfl

/-- Where a line cannot be read after those before it, the outcome is that line. -/
theorem exists_malformed_of_failsAt {index : Nat} {fault : Fault} (file : Text)
    (h : Draft.FailsAt {} (Text.lines text) index fault) :
    ∃ said, (AffixTable.parse text file).result =
      .error (.malformed file (index + 1) fault said) := by
  obtain ⟨raw, _, _, hget, -⟩ := id h
  exact ⟨Text.content raw,
    parse_result_eq_error_iff.2 ⟨rfl, ⟨index, rfl, h⟩, by simp [hget]⟩⟩

/-- Where some line cannot be read, the outcome is the first such line. -/
theorem exists_malformed_of_readAll (file : Text)
    (hread : Draft.readAll {} (fieldsOf text) = none) :
    ∃ number fault said,
      (AffixTable.parse text file).result = .error (.malformed file number fault said) := by
  have hsome : ¬(Draft.readAll {} (fieldsOf text)).isSome = true := by simp [hread]
  rw [isSome_readAll_fieldsOf_iff] at hsome
  push Not at hsome
  obtain ⟨number, fault, index, rfl, hfails⟩ := hsome
  exact ⟨index + 1, fault, exists_malformed_of_failsAt file hfails⟩

/-- Whether a line is rejected, and what it says, depends on the lines up to it. -/
theorem explains_of_shared_lines {other place said : Text} {number : Nat} {fault : Fault}
    (h : (GrammarError.malformed place number fault said).Explains text file)
    (hshared : ((Text.lines other).take number).map Text.content =
      ((Text.lines text).take number).map Text.content) :
    (GrammarError.malformed place number fault said).Explains other file := by
  obtain ⟨rfl, ⟨index, rfl, hfails⟩, hsaid⟩ := h
  refine ⟨rfl, ⟨index, rfl, hfails.congr hshared⟩, ?_⟩
  have hget := congrArg (·[index]?) hshared
  simpa [← hsaid] using hget

/-- The lines before one that is rejected can be read. -/
theorem not_rejected_of_rejected {number other : Nat} {fault fault' : Fault}
    (h : GrammarLine.Rejected text number fault) :
    ¬GrammarLine.Rejected (Text.ofLines ((Text.lines text).take (number - 1))) other fault' := by
  obtain ⟨index, rfl, _, _, draft, -, -, hread, -⟩ := h
  refine isSome_readAll_fieldsOf_iff.1 ?_ other fault'
  have hlines : ∀ line ∈ (Text.lines text).take index, '\n' ∉ line :=
    fun line hmem => Text.newline_notMem_of_mem_lines (List.mem_of_mem_take hmem)
  rw [Nat.add_sub_cancel, GrammarLine.fieldsOf_ofLines hlines, hread]
  rfl

/-- **Which failure is reported.** A line is rejected for what it says after the lines before it,
which alone are not rejected, and whatever stands behind it. A number is wrong where no line is
rejected, and it is the first one that is wrong. Where no line is rejected and all numbers are
right there is a table. -/
theorem parse_reports (text file : Text) :
    (∀ place number fault said,
      (AffixTable.parse text file).result = .error (.malformed place number fault said) →
        place = file ∧ GrammarLine.Rejected text number fault ∧
        (Text.lines text)[number - 1]?.map Text.content = some said ∧
        (∀ place' number' fault' said',
          (AffixTable.parse (Text.ofLines ((Text.lines text).take (number - 1))) file).result ≠
            .error (.malformed place' number' fault' said')) ∧
        ∀ other, ((Text.lines other).take number).map Text.content =
            ((Text.lines text).take number).map Text.content →
          (AffixTable.parse other file).result =
            .error (.malformed place number fault said)) ∧
    (∀ place subject declared found,
      (AffixTable.parse text file).result = .error (.countMismatch place subject declared found) →
        place = file ∧ (∀ number fault, ¬GrammarLine.Rejected text number fault) ∧
        subject.FirstMiscounted (fieldsOf text) ∧
        subject.declared? (fieldsOf text) = some declared ∧
        subject.found (fieldsOf text) = found) ∧
    ((∀ number fault, ¬GrammarLine.Rejected text number fault) →
      (∀ subject : Subject, ¬subject.Miscounted (fieldsOf text)) →
        ∃ table, (AffixTable.parse text file).result = .ok table) := by
  refine ⟨fun place number fault said h => ?_, fun place subject declared found h => ?_,
    fun hlines hnumbers => ?_⟩
  · have hexplains := parse_result_eq_error_iff.1 h
    obtain ⟨hplace, hrejected, hsaid⟩ := id hexplains
    refine ⟨hplace, hrejected, hsaid, fun place' number' fault' said' hprefix => ?_,
      fun other hshared => parse_result_eq_error_iff.2 (explains_of_shared_lines hexplains hshared)⟩
    exact not_rejected_of_rejected hrejected (parse_result_eq_error_iff.1 hprefix).2.1
  · exact parse_result_eq_error_iff.1 h
  · obtain ⟨draft, hread⟩ := Option.isSome_iff_exists.1 (isSome_readAll_fieldsOf_iff.2 hlines)
    obtain ⟨table, hfinish⟩ := (Draft.exists_finish_eq_ok_iff hread).2 hnumbers
    exact ⟨table, AffixTable.parse_result_eq_ok_iff.2 ⟨draft, hread, hfinish⟩⟩

/-- A second line that repeats a setting, two groups with wrong numbers, and a grammar without
groups. -/
theorem parse_reports_second_line_and_first_group :
    (∀ other, ((Text.lines other).take 2).map Text.content = ["TRY a".toList, "TRY b".toList] →
      (AffixTable.parse other "en.aff".toList).result = .error
        (.malformed "en.aff".toList 2 (.duplicate .tryCharacters) "TRY b".toList)) ∧
    (Subject.group .leading "Z".toList).FirstMiscounted
      (fieldsOf "SFX A Y 1\nPFX Z N 2\nPFX Z 0 re .\n".toList) ∧
    ∃ table, (AffixTable.parse "SET UTF-8\n".toList "en.aff".toList).result = .ok table := by
  refine ⟨fun other hshared => ?_, ?_, ?_⟩
  · have hreport := (parse_reports "TRY a\n\ufeffTRY b \nSFX\n".toList "en.aff".toList).1
      "en.aff".toList 2 (.duplicate .tryCharacters) "TRY b".toList (by decide +kernel)
    refine hreport.2.2.2.2 other (hshared.trans ?_)
    decide +kernel
  · have hreport := (parse_reports "SFX A Y 1\nPFX Z N 2\nPFX Z 0 re .\n".toList
      "en.aff".toList).2.1 "en.aff".toList (.group .leading "Z".toList) 2 1 (by decide +kernel)
    exact hreport.2.2.1
  · refine (parse_reports "SET UTF-8\n".toList "en.aff".toList).2.2
      (isSome_readAll_fieldsOf_iff.1 (by decide +kernel)) ?_
    rintro subject ⟨declared, hdeclared, -⟩
    have hlines : fieldsOf "SET UTF-8\n".toList = [["SET".toList, "UTF-8".toList]] := by
      decide +kernel
    have htarget : Target.of? ["SET".toList, "UTF-8".toList] ≠ some subject.target := by
      rw [show Target.of? ["SET".toList, "UTF-8".toList] = some (.setting .charset) by decide]
      cases subject <;> simp [Subject.target]
    rw [Subject.declared?, hlines, GrammarLine.about_cons_neg htarget] at hdeclared
    cases hdeclared

end AffixTable

end AffixSpeller
