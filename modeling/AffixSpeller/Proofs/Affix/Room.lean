import AffixSpeller.Proofs.Affix.Failures

/-!
# Headers without room

The header of a group asks for room for all the rules that it declares, before any of them is read.
A group has room for very many rules, but a number in a grammar can be larger still, and such a
header breaks off the run. No other line does. So whether a run is broken off is a matter of the
first line of some group, and the lines of that group are all that has to be known of the grammar.

## Main definitions

* `GrammarLine.Overdeclared`: the header of a group declares more rules than there is room for.

## Main results

* `Draft.read_eq_capacityOverflow_iff`: the lines that break off the run.
* `AffixTable.exists_overdeclared_of_breaksOff`: where the run is broken off there is such a header.
* `AffixTable.exists_breaksOff_of_head`: a grammar that begins with one breaks off the run.
-/

namespace AffixSpeller

open GrammarLine (says? fieldsOf about)

/-- The first line of the group is a header that declares more rules than a group has room for. -/
def GrammarLine.Overdeclared (kind : AffixKind) (flag : Flag) (lines : List (List Text)) : Prop :=
  ∃ cross count declared rest,
    about (.group kind flag) lines = [kind.tag, flag, cross, count] :: rest ∧
      (cross = ['Y'] ∨ cross = ['N']) ∧ Text.count? count = some declared ∧
      AffixGroup.maxRules < declared

namespace Draft

variable {draft : Draft} {kind : AffixKind} {fields arguments : List Text}

/-! ### Lines that break off the run -/

private theorem readSetting_ne_capacityOverflow (setting : Setting) (argument : Text) :
    draft.readSetting setting argument ≠ .error .capacityOverflow := by
  cases setting <;> simp only [readSetting] <;> repeat' split
  all_goals simp

private theorem readReplacement_ne_capacityOverflow :
    draft.readReplacement arguments ≠ .error .capacityOverflow := by
  unfold readReplacement
  repeat' split
  all_goals simp

private theorem readRule_ne_capacityOverflow :
    readRule kind arguments ≠ .error .capacityOverflow := by
  unfold readRule
  repeat' split
  all_goals simp

/-- A line that has nothing to do with groups does not break off the run. -/
private theorem read_ne_capacityOverflow (h : ∀ kind : AffixKind, fields.head? ≠ some kind.tag) :
    draft.read fields ≠ .error .capacityOverflow := by
  unfold read
  split
  · simp
  · rename_i tag arguments
    split
    · split
      · exact readSetting_ne_capacityOverflow _ _
      · simp
    · exact readReplacement_ne_capacityOverflow
    · rename_i kind hdirective
      exact absurd (by simpa using Directive.ofTag_eq_affix_iff.1 hdirective) (h kind)
    all_goals simp

/-- **The lines that break off the run** are headers of new groups that ask for too much room. -/
theorem read_eq_capacityOverflow_iff :
    draft.read fields = .error .capacityOverflow ↔
      ∃ kind flag cross count declared, fields = [kind.tag, flag, cross, count] ∧
        draft.table.group? kind flag = none ∧ (cross = ['Y'] ∨ cross = ['N']) ∧
        Text.count? count = some declared ∧ AffixGroup.maxRules < declared := by
  constructor
  · intro hread
    obtain hother | ⟨kind, rfl⟩ | ⟨kind, flag, arguments, rfl⟩ := fields_cases fields
    · exact absurd hread (read_ne_capacityOverflow hother)
    · simp [read_unnamed] at hread
    · cases hgroup : draft.table.group? kind flag with
      | none =>
        rw [read_header hgroup, map_eq_error_iff, readHeader_eq_capacityOverflow_iff] at hread
        obtain ⟨cross, count, declared, rfl, hcross, hcount, hroom⟩ := hread
        exact ⟨kind, flag, cross, count, declared, rfl, hgroup, hcross, hcount, hroom⟩
      | some g =>
        rw [read_rule (by simp [hgroup]), map_eq_error_iff] at hread
        exact absurd hread readRule_ne_capacityOverflow
  · rintro ⟨kind, flag, cross, count, declared, rfl, hgroup, hcross, hcount, hroom⟩
    rw [read_header hgroup, map_eq_error_iff, readHeader_eq_capacityOverflow_iff]
    exact ⟨cross, count, declared, rfl, hcross, hcount, hroom⟩

/-! ### Grammars that break off the run -/

variable {raws : List Text} {index : Nat}

/-- A line that breaks off the run is the first one of its group. -/
theorem exists_overdeclared_of_failsAt (h : FailsAt {} raws index .capacityOverflow) :
    ∃ kind flag, GrammarLine.Overdeclared kind flag (raws.filterMap says?) := by
  obtain ⟨raw, fields, mid, hget, hraw, hmid, hread⟩ := h
  obtain ⟨kind, flag, cross, count, declared, rfl, hgroup, hcross, hcount, hroom⟩ :=
    read_eq_capacityOverflow_iff.1 hread
  have hbefore : about (.group kind flag) ((raws.take index).filterMap says?) = [] := by
    by_contra hne
    have hsome := (isSome_group?_iff hmid).2 hne
    simp [hgroup] at hsome
  obtain ⟨hindex, rfl⟩ := List.getElem?_eq_some_iff.1 hget
  have hlines : raws.filterMap says? = (raws.take index).filterMap says? ++
      [kind.tag, flag, cross, count] :: (raws.drop (index + 1)).filterMap says? := by
    rw [← List.filterMap_cons_some hraw, ← List.drop_eq_getElem_cons hindex,
      ← List.filterMap_append, List.take_append_drop]
  have habout : about (.group kind flag) (raws.filterMap says?) =
      [kind.tag, flag, cross, count] ::
        about (.group kind flag) ((raws.drop (index + 1)).filterMap says?) := by
    rw [hlines, GrammarLine.about_append, hbefore, List.nil_append,
      GrammarLine.about_cons_pos (Target.of?_eq_group_iff.2 ⟨_, rfl⟩)]
  exact ⟨kind, flag, cross, count, declared, _, habout, hcross, hcount, hroom⟩

end Draft

namespace AffixTable

variable {text file : Text}

/-- **A grammar that breaks off the run** has a header that declares more rules than there is room
for. -/
theorem exists_overdeclared_of_breaksOff {e : GrammarError}
    (h : (AffixTable.parse text file).result = .error e) (hbreaks : e.breaksOff = true) :
    ∃ kind flag, GrammarLine.Overdeclared kind flag (fieldsOf text) := by
  cases e with
  | malformed place number fault said =>
    obtain ⟨-, ⟨index, -, hfails⟩, -⟩ := parse_result_eq_error_iff.1 h
    obtain rfl : fault = .capacityOverflow := by
      simpa [GrammarError.breaksOff, Fault.breaksOff] using hbreaks
    exact Draft.exists_overdeclared_of_failsAt hfails
  | countMismatch => cases hbreaks

/-- A grammar whose first line is such a header breaks off the run. -/
theorem exists_breaksOff_of_head {raw : Text} {raws : List Text} {kind : AffixKind} {flag : Flag}
    {cross count : Text} {declared : Nat} (htext : Text.lines text = raw :: raws)
    (hraw : says? raw = some [kind.tag, flag, cross, count])
    (hcross : cross = ['Y'] ∨ cross = ['N']) (hcount : Text.count? count = some declared)
    (hroom : AffixGroup.maxRules < declared) (file : Text) :
    ∃ e, (AffixTable.parse text file).result = .error e ∧ e.breaksOff = true := by
  have hfails : Draft.FailsAt {} (Text.lines text) 0 .capacityOverflow := by
    rw [htext, Draft.failsAt_zero]
    exact ⟨_, hraw, Draft.read_eq_capacityOverflow_iff.2
      ⟨kind, flag, cross, count, declared, rfl, rfl, hcross, hcount, hroom⟩⟩
  obtain ⟨said, hresult⟩ := exists_malformed_of_failsAt file hfails
  exact ⟨_, hresult, rfl⟩

end AffixTable

end AffixSpeller
