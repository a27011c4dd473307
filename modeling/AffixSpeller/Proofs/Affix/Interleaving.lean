import AffixSpeller.Proofs.Affix.Room

/-!
# Blocks in any order

The lines of one setting, of the replacement table and of one group must keep their order, but
where the lines of other targets stand between them does not matter. Grammars that say the same
about every target have the same table, or the same wrong number, or both cannot be read; only
which line of such a grammar is the first that cannot be read depends on the order. That line tells
whether there is a syntax error or the run is broken off. So where a header asks for too much room
the order does matter: the run is broken off if that header comes first, and there may be a syntax
error if another line does.

## Main definitions

* `GrammarLine.SameAbout`: the lines about every target are the same.
* `GrammarLine.Apart`: no target has lines in both blocks.

## Main results

* `GrammarLine.sameAbout_flatten_of_perm`: blocks of different targets in another order.
* `GrammarLine.exists_sameAbout_of_about_eq_cons`: the first line of a target may come first of all.
* `Draft.eq_of_part_eq`: drafts are determined by their groups and their parts.
* `Draft.readAll_eq_of_sameAbout`: the same lines about every target make the same draft.
* `AffixTable.parse_of_sameAbout`: grammars with the same lines about every target have the same
  outcome, and when none of them breaks off the run.
-/

namespace AffixSpeller

open GrammarLine (about fieldsOf says?)

namespace GrammarLine

variable {lines lines' : List (List Text)}

/-- The lines about every target are the same ones in the same order. -/
def SameAbout (lines lines' : List (List Text)) : Prop :=
  ∀ target, about target lines = about target lines'

theorem about_eq_nil_iff {target : Target} :
    about target lines = [] ↔ target ∉ lines.filterMap Target.of? := by
  simp [about]

/-- Only the targets of the lines themselves matter. -/
theorem sameAbout_iff_forall_mem :
    SameAbout lines lines' ↔
      ∀ target ∈ (lines ++ lines').filterMap Target.of?,
        about target lines = about target lines' := by
  refine ⟨fun h target _ => h target, fun h target => ?_⟩
  by_cases hmem : target ∈ (lines ++ lines').filterMap Target.of?
  · exact h target hmem
  · rw [List.filterMap_append, List.mem_append, not_or] at hmem
    rw [about_eq_nil_iff.2 hmem.1, about_eq_nil_iff.2 hmem.2]

instance : Decidable (SameAbout lines lines') :=
  decidable_of_iff _ sameAbout_iff_forall_mem.symm

/-! ### Blocks -/

/-- No target has lines in both blocks. -/
def Apart (block block' : List (List Text)) : Prop :=
  ∀ target, about target block = [] ∨ about target block' = []

theorem IsBlock.about_eq_nil {target other : Target} {block : List (List Text)}
    (h : IsBlock target block) (hne : other ≠ target) : about other block = [] :=
  List.filter_eq_nil_iff.2 fun fields hmem => by simpa [h fields hmem] using hne.symm

theorem IsBlock.apart {target target' : Target} {block block' : List (List Text)}
    (h : IsBlock target block) (h' : IsBlock target' block') (hne : target ≠ target') :
    Apart block block' := by
  intro other
  by_cases hother : other = target
  · exact Or.inr (h'.about_eq_nil (hother ▸ hne))
  · exact Or.inl (h.about_eq_nil hother)

/-- **Blocks may come in any order** if no target has lines in two of them. -/
theorem sameAbout_flatten_of_perm {blocks blocks' : List (List (List Text))}
    (hperm : blocks.Perm blocks') (hapart : blocks.Pairwise Apart) :
    SameAbout blocks.flatten blocks'.flatten := by
  induction hperm with
  | nil => exact fun target => rfl
  | cons block _ ih =>
    intro target
    rw [List.flatten_cons, List.flatten_cons, about_append, about_append,
      ih (List.pairwise_cons.1 hapart).2]
  | swap block block' blocks =>
    intro target
    simp only [List.flatten_cons, about_append]
    obtain hnil | hnil := (List.pairwise_cons.1 hapart).1 block List.mem_cons_self target
    · simp [hnil]
    · simp [hnil]
  | trans hperm _ ih ih' =>
    intro target
    rw [ih hapart, ih' (hapart.perm hperm fun happart target => (happart target).symm)]

/-- Headers that ask for too much room are the same ones. -/
theorem Overdeclared.congr {kind : AffixKind} {flag : Flag} (h : Overdeclared kind flag lines')
    (hsame : SameAbout lines lines') : Overdeclared kind flag lines := by
  unfold Overdeclared
  rw [hsame]
  exact h

/-! ### Lines that come first -/

/-- The first line about a target may change places with the lines before it. -/
theorem sameAbout_cons_append {target : Target} {fields : List Text}
    {before after : List (List Text)} (hfields : Target.of? fields = some target)
    (hbefore : about target before = []) :
    SameAbout (before ++ fields :: after) (fields :: (before ++ after)) := by
  intro other
  by_cases hother : Target.of? fields = some other
  · obtain rfl : target = other := Option.some.inj (hfields.symm.trans hother)
    rw [about_append, about_cons_pos hother, about_cons_pos hother, about_append, hbefore]
    rfl
  · rw [about_append, about_cons_neg hother, about_cons_neg hother, about_append]

/-- **The first line about a target may come first of all**: there is a grammar that begins with it
and has the same lines about every target. -/
theorem exists_sameAbout_of_about_eq_cons {text : Text} {target : Target} {fields : List Text}
    {rest : List (List Text)} (habout : about target (fieldsOf text) = fields :: rest) :
    ∃ text' raw raws, Text.lines text' = raw :: raws ∧ says? raw = some fields ∧
      SameAbout (fieldsOf text) (fieldsOf text') := by
  obtain ⟨before, after, hlines, hbefore, hfields, -⟩ := List.filter_eq_cons_iff.1 habout
  obtain ⟨raws, raws', hraws, rfl, hsaid⟩ := List.filterMap_eq_append_iff.1 hlines
  obtain ⟨silent, raw, later, rfl, hsilent, hraw, rfl⟩ := List.filterMap_eq_cons_iff.1 hsaid
  have hmem : ∀ line ∈ raw :: (raws ++ later), '\n' ∉ line := by
    intro line hline
    refine Text.newline_notMem_of_mem_lines (t := text) ?_
    rw [hraws]
    simp only [List.mem_cons, List.mem_append] at hline ⊢
    tauto
  refine ⟨Text.ofLines (raw :: (raws ++ later)), raw, raws ++ later ++ [[]],
    by rw [Text.lines_ofLines hmem]; rfl, hraw, ?_⟩
  rw [hlines, fieldsOf_ofLines hmem, List.filterMap_cons_some hraw, List.filterMap_append]
  exact sameAbout_cons_append (by simpa using hfields)
    (List.filter_eq_nil_iff.2 fun line hline => by simpa using hbefore line hline)

end GrammarLine

namespace Draft

variable {draft draft' : Draft} {lines lines' : List (List Text)}

/-- Drafts with the same groups and the same parts are equal. -/
theorem eq_of_part_eq (hgroups : draft.table.groups = draft'.table.groups)
    (hpart : ∀ target, draft.part target = draft'.part target) : draft = draft' := by
  have htry := hpart (.setting .tryCharacters)
  have hflag := hpart (.setting .compoundFlag)
  have hmin := hpart (.setting .compoundMin)
  have hencoding := hpart (.setting .flagEncoding)
  have hcharset := hpart (.setting .charset)
  have hreplacements := hpart .replacements
  obtain ⟨⟨_, _, _, _, _, _, _⟩, _, _, _⟩ := draft
  obtain ⟨⟨_, _, _, _, _, _, _⟩, _, _, _⟩ := draft'
  simp only [part, mk.injEq, AffixTable.mk.injEq, true_and, and_true] at *
  exact ⟨⟨hgroups, htry.1, hreplacements.1, hencoding, hflag, hmin.1, hcharset⟩, htry.2, hmin.2,
    hreplacements.2⟩

/-- Groups that are made by reading lines are determined by what kinds and flags name. -/
theorem groups_eq_of_readAll (hread : readAll {} lines = some draft)
    (hread' : readAll {} lines' = some draft')
    (hgroup : ∀ kind flag, draft.table.group? kind flag = draft'.table.group? kind flag) :
    draft.table.groups = draft'.table.groups :=
  AffixTable.Ordered.groups_eq
    (ordered_readAll AffixTable.ordered_empty AffixTable.keyed_empty hread)
    (ordered_readAll AffixTable.ordered_empty AffixTable.keyed_empty hread')
    (keyed_readAll AffixTable.keyed_empty hread) (keyed_readAll AffixTable.keyed_empty hread')
    hgroup

/-- **The same lines about every target make the same draft**, or none. -/
theorem readAll_eq_of_sameAbout (h : GrammarLine.SameAbout lines lines') :
    readAll {} lines = readAll {} lines' := by
  have hsome : (readAll {} lines).isSome = true ↔ (readAll {} lines').isSome = true := by
    rw [isSome_readAll_iff, isSome_readAll_iff]
    exact forall_congr' fun target => by rw [h target]
  cases hread : readAll {} lines with
  | none =>
    cases hread' : readAll {} lines' with
    | none => rfl
    | some draft' => simp [hread, hread'] at hsome
  | some draft =>
    obtain ⟨draft', hread'⟩ := Option.isSome_iff_exists.1 (hsome.1 (by rw [hread]; rfl))
    have hpart (target : Target) : draft.part target = draft'.part target := by
      have hboth := readAll_part hread target
      rw [h target, readAll_part hread' target] at hboth
      exact (Option.some.inj hboth).symm
    have hgroups := groups_eq_of_readAll hread hread' fun kind flag => by
      rw [← group?_part draft, hpart, group?_part]
    rw [hread', eq_of_part_eq hgroups hpart]

end Draft

/-! ### Outcomes -/

namespace AffixTable

variable {text text' : Text}

/-- Grammars with the same lines about every target have the same table, or the same first wrong
number, or both have a line that cannot be read. -/
private theorem outcomes_of_sameAbout (h : GrammarLine.SameAbout (fieldsOf text) (fieldsOf text'))
    (file file' : Text) :
    (∃ table, (AffixTable.parse text file).result = .ok table ∧
      (AffixTable.parse text' file').result = .ok table) ∨
    (∃ subject declared found,
      (AffixTable.parse text file).result =
          .error (.countMismatch file subject declared found) ∧
        (AffixTable.parse text' file').result =
          .error (.countMismatch file' subject declared found)) ∨
    ((∃ number fault said,
      (AffixTable.parse text file).result = .error (.malformed file number fault said)) ∧
      ∃ number fault said,
        (AffixTable.parse text' file').result = .error (.malformed file' number fault said)) := by
  have hsame := Draft.readAll_eq_of_sameAbout h
  cases hread : Draft.readAll {} (fieldsOf text) with
  | none =>
    exact Or.inr (Or.inr ⟨exists_malformed_of_readAll file hread,
      exists_malformed_of_readAll file' (hsame ▸ hread)⟩)
  | some draft =>
    have hread' := hsame ▸ hread
    rw [parse_result_of_readAll file hread, parse_result_of_readAll file' hread']
    cases hfinish : draft.finish file with
    | ok table =>
      refine Or.inl ⟨table, rfl, ?_⟩
      rwa [Draft.finish_eq_ok_iff] at hfinish ⊢
    | error e =>
      obtain ⟨subject, declared, hfirst, hdeclared, rfl⟩ :=
        (Draft.finish_eq_error_iff hread).1 hfinish
      exact Or.inr (Or.inl ⟨subject, declared, subject.found (fieldsOf text), rfl,
        (Draft.finish_eq_error_iff hread).2 ⟨subject, declared, hfirst, hdeclared, rfl⟩⟩)

/-- Where a header asks for too much room, the grammar that begins with it breaks off the run. -/
private theorem exists_sameAbout_breaksOff {kind : AffixKind} {flag : Flag}
    (h : GrammarLine.Overdeclared kind flag (fieldsOf text)) (file : Text) :
    ∃ text' e, GrammarLine.SameAbout (fieldsOf text) (fieldsOf text') ∧
      (AffixTable.parse text' file).result = .error e ∧ e.breaksOff = true := by
  obtain ⟨cross, count, declared, rest, habout, hcross, hcount, hroom⟩ := h
  obtain ⟨text', raw, raws, hlines, hraw, hsame⟩ :=
    GrammarLine.exists_sameAbout_of_about_eq_cons habout
  obtain ⟨e, hresult, hbreaks⟩ := exists_breaksOff_of_head hlines hraw hcross hcount hroom file
  exact ⟨text', e, hsame, hresult, hbreaks⟩

/-- **Blocks may be interleaved freely where there is room.** Grammars with the same lines about
every target have the same table, or the same first wrong number, or both have a line that cannot be
read. All of them return their errors if and only if no header declares more rules than a group has
room for; where some header does, one of these grammars breaks off the run. -/
theorem parse_of_sameAbout (text : Text) :
    (∀ text' file file', GrammarLine.SameAbout (fieldsOf text) (fieldsOf text') →
      (∃ table, (AffixTable.parse text file).result = .ok table ∧
        (AffixTable.parse text' file').result = .ok table) ∨
      (∃ subject declared found,
        (AffixTable.parse text file).result =
            .error (.countMismatch file subject declared found) ∧
          (AffixTable.parse text' file').result =
            .error (.countMismatch file' subject declared found)) ∨
      ((∃ number fault said,
        (AffixTable.parse text file).result = .error (.malformed file number fault said)) ∧
        ∃ number fault said,
          (AffixTable.parse text' file').result = .error (.malformed file' number fault said))) ∧
    ((∀ text' file e, GrammarLine.SameAbout (fieldsOf text) (fieldsOf text') →
        (AffixTable.parse text' file).result = .error e → e.breaksOff = false) ↔
      ∀ kind flag, ¬GrammarLine.Overdeclared kind flag (fieldsOf text)) := by
  refine ⟨fun text' file file' h => outcomes_of_sameAbout h file file', ?_, ?_⟩
  · intro hreported kind flag hover
    obtain ⟨text', e, hsame, hresult, hbreaks⟩ := exists_sameAbout_breaksOff hover []
    exact absurd hbreaks (by simp [hreported text' [] e hsame hresult])
  · intro hroom text' file e hsame hresult
    by_contra hbreaks
    obtain ⟨kind, flag, hover⟩ :=
      exists_overdeclared_of_breaksOff hresult (eq_true_of_ne_false hbreaks)
    exact hroom kind flag (hover.congr hsame)

/-- The lines of a group and of the replacement table in turn, and one block after the other. -/
theorem parse_of_sameAbout_mixed_blocks :
    GrammarLine.SameAbout (fieldsOf "SFX A Y 2\nREP 1\nSFX A 0 s .\nREP a b\n".toList)
      (fieldsOf "# mixed\nREP 1\nREP a b\nSFX A Y 2\nKEY q\nSFX A 0 s .\n".toList) ∧
    (AffixTable.parse "# mixed\nREP 1\nREP a b\nSFX A Y 2\nKEY q\nSFX A 0 s .\n".toList
      "b.aff".toList).result =
        .error (.countMismatch "b.aff".toList (.group .trailing "A".toList) 2 1) := by
  have hsame : GrammarLine.SameAbout
      (fieldsOf "SFX A Y 2\nREP 1\nSFX A 0 s .\nREP a b\n".toList)
      (fieldsOf "# mixed\nREP 1\nREP a b\nSFX A Y 2\nKEY q\nSFX A 0 s .\n".toList) := by
    decide +kernel
  have hresult : (AffixTable.parse "SFX A Y 2\nREP 1\nSFX A 0 s .\nREP a b\n".toList
      "a.aff".toList).result =
        .error (.countMismatch "a.aff".toList (.group .trailing "A".toList) 2 1) := by
    decide +kernel
  refine ⟨hsame, ?_⟩
  obtain ⟨table, h, -⟩ | ⟨subject, declared, found, h, h'⟩ | ⟨⟨number, fault, said, h⟩, -⟩ :=
    (parse_of_sameAbout _).1 _ "a.aff".toList "b.aff".toList hsame
  · rw [hresult] at h
    cases h
  · rw [hresult] at h
    cases h
    exact h'
  · rw [hresult] at h
    cases h

/-- A header that declares more rules than there is room for, behind and before a line without its
argument: one order is a syntax error, and the other one breaks off the run. -/
theorem breaksOff_of_count_before_try :
    GrammarLine.SameAbout (fieldsOf "TRY\nSFX A Y 18446744073709551615\n".toList)
      (fieldsOf "SFX A Y 18446744073709551615\nTRY\n".toList) ∧
    (AffixTable.parse "TRY\nSFX A Y 18446744073709551615\n".toList "en.aff".toList).result =
      .error (.malformed "en.aff".toList 1 (.argumentCount .tryCharacters) "TRY".toList) ∧
    ∃ e, (AffixTable.parse "SFX A Y 18446744073709551615\nTRY\n".toList "en.aff".toList).result =
      .error e ∧ e.breaksOff = true :=
  ⟨by decide +kernel, by decide +kernel,
    .malformed "en.aff".toList 1 .capacityOverflow "SFX A Y 18446744073709551615".toList,
    by decide +kernel, rfl⟩

end AffixTable

end AffixSpeller
