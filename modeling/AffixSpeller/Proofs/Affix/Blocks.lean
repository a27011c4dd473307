import AffixSpeller.Proofs.Affix.Targets
import Mathlib.Data.List.Forall2

/-!
# What blocks of lines say

The lines about a group, or about the replacement table, are a block: a header that declares a
number, and one line for each entry. What a table has of the block is what these lines say, entry
by entry and in the order of the lines, whatever stands between them.

## Main definitions

* `AffixRule.IsReadFrom`, `Replacement.IsReadFrom`: the entry is what a line with given fields says.
* `Subject.declared?`, `Subject.found`: the number that a header declares, and the number of lines
  after it.

## Main results

* `Draft.group?_of_about_eq_cons`: the group of a block.
* `Draft.replacements_of_about_eq_cons`: the replacement table of a block.
* `Draft.declared?_and_found_group`, `Draft.declared?_replacements`, `Draft.found_replacements`: the
  numbers of a draft are those that lines declare, and those of the lines behind.
-/

namespace AffixSpeller

/-! ### Entries and headers -/

/-- The rule is what a line of its group with the given fields says. -/
def AffixRule.IsReadFrom (rule : AffixRule) (fields : List Text) : Prop :=
  Draft.readRule rule.kind (fields.drop 2) = .ok (rule.strip, rule.append, rule.condition)

/-- The entry is what a line of the replacement table with the given fields says. -/
def Replacement.IsReadFrom (entry : Replacement) (fields : List Text) : Prop :=
  ∃ tag pattern replacement rest, fields = tag :: pattern :: replacement :: rest ∧
    entry = Replacement.ofFields pattern replacement

namespace Subject

/-- What the lines of the subject are about. -/
def target : Subject → Target
  | replacements => .replacements
  | group kind flag => .group kind flag

/-- The number that the first line of the subject declares, which is its last field. -/
def declared? (subject : Subject) (lines : List (List Text)) : Option Nat :=
  ((GrammarLine.about subject.target lines).head?.bind List.getLast?).bind Text.count?

/-- The number of lines of the subject after the first one. -/
def found (subject : Subject) (lines : List (List Text)) : Nat :=
  (GrammarLine.about subject.target lines).tail.length

end Subject

namespace Draft

variable {draft next : Draft} {kind : AffixKind} {flag : Flag} {g : AffixGroup}
  {lines rest : List (List Text)} {header : List Text}

/-! ### Groups -/

/-- Lines of a group that is there add the rules that they say, in their order. -/
theorem group?_of_readAll_rules
    (hlines : GrammarLine.IsBlock (.group kind flag) lines)
    (hgroup : draft.table.group? kind flag = some g) (hread : draft.readAll lines = some next) :
    ∃ rules, List.Forall₂ (fun fields rule => AffixRule.IsReadFrom rule fields ∧
        rule.kind = kind ∧ rule.crossProduct = g.crossProduct) lines rules ∧
      next.table.group? kind flag = some { g with rules := g.rules ++ rules } := by
  induction lines generalizing draft g with
  | nil =>
    cases hread
    exact ⟨[], .nil, by simpa using hgroup⟩
  | cons fields lines ih =>
    obtain ⟨mid, hline, hread⟩ := readAll_cons_eq_some_iff.1 hread
    obtain ⟨hfields, hrest⟩ := GrammarLine.isBlock_cons_iff.1 hlines
    obtain ⟨arguments, rfl⟩ := Target.of?_eq_group_iff.1 hfields
    rw [read_rule (by simp [hgroup]), map_eq_ok_iff] at hline
    obtain ⟨⟨strip, append, condition⟩, hrule, rfl⟩ := hline
    let rule : AffixRule := ⟨kind, strip, append, condition, g.crossProduct⟩
    have hmid : (draft.addRule kind flag (strip, append, condition)).table.group? kind flag =
        some (g.withRule rule) := by
      simp [addRule, AffixTable.group?_addRule, hgroup, rule]
    obtain ⟨rules, hrules, hnext⟩ :=
      ih hrest hmid hread
    exact ⟨rule :: rules, .cons ⟨hrule, rfl, rfl⟩ hrules,
      by simpa [AffixGroup.withRule] using hnext⟩

/-- A kind and flag that no line is about name no group. -/
theorem group?_of_about_eq_nil (hread : readAll {} lines = some draft)
    (habout : GrammarLine.about (.group kind flag) lines = []) :
    draft.table.group? kind flag = none := by
  have hpart := readAll_part hread (.group kind flag)
  rw [habout, part_empty, readAll_nil, Option.some.injEq] at hpart
  rw [← group?_part, ← hpart]
  rfl

/-- **The group of a block.** The first line about a kind and flag is its header, and every later
one gives one rule. -/
theorem group?_of_about_eq_cons (hread : readAll {} lines = some draft)
    (habout : GrammarLine.about (.group kind flag) lines = header :: rest) :
    ∃ arguments g rules, header = kind.tag :: flag :: arguments ∧
      readHeader kind flag arguments = .ok g ∧
      List.Forall₂ (fun fields rule => AffixRule.IsReadFrom rule fields ∧
        rule.kind = kind ∧ rule.crossProduct = g.crossProduct) rest rules ∧
      draft.table.group? kind flag = some { g with rules } := by
  have hblock : GrammarLine.IsBlock (.group kind flag) (header :: rest) :=
    habout ▸ GrammarLine.isBlock_about _ lines
  obtain ⟨hfields, hrules⟩ := GrammarLine.isBlock_cons_iff.1 hblock
  have hpart := readAll_part hread (.group kind flag)
  rw [habout, part_empty] at hpart
  obtain ⟨mid, hheader, hrest⟩ := readAll_cons_eq_some_iff.1 hpart
  obtain ⟨arguments, rfl⟩ := Target.of?_eq_group_iff.1 hfields
  rw [read_header rfl, map_eq_ok_iff] at hheader
  obtain ⟨g, hg, rfl⟩ := hheader
  obtain ⟨rfl, rfl⟩ := kind_and_flag_of_readHeader hg
  obtain ⟨rules, hrules, hgroup⟩ :=
    group?_of_readAll_rules (g := g) hrules
      (by rw [addGroup, AffixTable.group?_addGroup rfl, if_pos ⟨rfl, rfl⟩]) hrest
  rw [group?_part, rules_readHeader hg] at hgroup
  exact ⟨arguments, g, rules, rfl, hg, hrules, hgroup⟩

/-- A group is there if and only if some line is about it. -/
theorem isSome_group?_iff (hread : readAll {} lines = some draft) :
    (draft.table.group? kind flag).isSome = true ↔
      GrammarLine.about (.group kind flag) lines ≠ [] := by
  cases habout : GrammarLine.about (.group kind flag) lines with
  | nil => simp [group?_of_about_eq_nil hread habout]
  | cons header rest =>
    obtain ⟨_, g, rules, -, -, -, hgroup⟩ := group?_of_about_eq_cons hread habout
    simp [hgroup]

/-! ### The replacement table -/

/-- The header of the replacement table has one more field, a number. -/
theorem readReplacement_eq_ok_iff_of_none {arguments : List Text}
    (hnone : draft.replacementsDeclared = none) :
    draft.readReplacement arguments = .ok next ↔
      ∃ count declared, arguments = [count] ∧ Text.count? count = some declared ∧
        next = { draft with replacementsDeclared := some declared } := by
  simp only [readReplacement, hnone]
  rcases arguments with - | ⟨count, - | ⟨second, rest⟩⟩
  · simp
  · cases hcount : Text.count? count <;> simp [hcount, eq_comm]
  · simp

/-- An entry of the replacement table has at least two more fields. -/
theorem readReplacement_eq_ok_iff_of_isSome {arguments : List Text}
    (hheader : draft.replacementsDeclared.isSome = true) :
    draft.readReplacement arguments = .ok next ↔
      ∃ pattern replacement rest, arguments = pattern :: replacement :: rest ∧
        next = { draft with
          table := { draft.table with
            replacements :=
              draft.table.replacements ++ [Replacement.ofFields pattern replacement] } } := by
  obtain ⟨declared, hdeclared⟩ := Option.isSome_iff_exists.1 hheader
  simp only [readReplacement, hdeclared]
  rcases arguments with - | ⟨pattern, - | ⟨replacement, rest⟩⟩
  · simp
  · simp
  · simp [eq_comm]

/-- Lines of the replacement table after the first one add the entries that they say. -/
theorem replacements_of_readAll_entries
    (hlines : GrammarLine.IsBlock .replacements lines)
    (hheader : draft.replacementsDeclared.isSome = true) (hread : draft.readAll lines = some next) :
    ∃ entries,
      List.Forall₂ (fun fields entry => Replacement.IsReadFrom entry fields) lines entries ∧
      next.table.replacements = draft.table.replacements ++ entries ∧
      next.replacementsDeclared = draft.replacementsDeclared := by
  induction lines generalizing draft with
  | nil =>
    cases hread
    exact ⟨[], .nil, by simp, rfl⟩
  | cons fields lines ih =>
    obtain ⟨mid, hline, hread⟩ := readAll_cons_eq_some_iff.1 hread
    obtain ⟨hfields, hrest⟩ := GrammarLine.isBlock_cons_iff.1 hlines
    obtain ⟨arguments, rfl⟩ := Target.of?_eq_replacements_iff.1 hfields
    rw [read_replacement, readReplacement_eq_ok_iff_of_isSome hheader] at hline
    obtain ⟨pattern, replacement, rest, rfl, rfl⟩ := hline
    obtain ⟨entries, hentries, hnext, hnumber⟩ :=
      ih hrest (by exact hheader) hread
    exact ⟨_ :: entries, .cons ⟨_, _, _, _, rfl, rfl⟩ hentries, by simpa using hnext, hnumber⟩

/-- Without a line about it the replacement table is empty. -/
theorem replacements_of_about_eq_nil (hread : readAll {} lines = some draft)
    (habout : GrammarLine.about .replacements lines = []) :
    draft.replacementsDeclared = none ∧ draft.table.replacements = [] := by
  have hpart := readAll_part hread .replacements
  rw [habout, part_empty, readAll_nil, Option.some.injEq] at hpart
  exact ⟨congrArg (·.replacementsDeclared) hpart.symm, congrArg (·.table.replacements) hpart.symm⟩

/-- **The replacement table of a block.** The first line about the table declares a number, and
every later one gives one entry. -/
theorem replacements_of_about_eq_cons (hread : readAll {} lines = some draft)
    (habout : GrammarLine.about .replacements lines = header :: rest) :
    ∃ count declared, header = ["REP".toList, count] ∧ Text.count? count = some declared ∧
      draft.replacementsDeclared = some declared ∧
      List.Forall₂ (fun fields entry => Replacement.IsReadFrom entry fields) rest
        draft.table.replacements := by
  have hblock : GrammarLine.IsBlock .replacements (header :: rest) :=
    habout ▸ GrammarLine.isBlock_about _ lines
  obtain ⟨hfields, hentries⟩ := GrammarLine.isBlock_cons_iff.1 hblock
  have hpart := readAll_part hread .replacements
  rw [habout, part_empty] at hpart
  obtain ⟨mid, hheader, hrest⟩ := readAll_cons_eq_some_iff.1 hpart
  obtain ⟨arguments, rfl⟩ := Target.of?_eq_replacements_iff.1 hfields
  rw [read_replacement, readReplacement_eq_ok_iff_of_none rfl] at hheader
  obtain ⟨count, declared, rfl, hcount, rfl⟩ := hheader
  obtain ⟨entries, hentries, hnext, hnumber⟩ :=
    replacements_of_readAll_entries hentries rfl hrest
  have hentries' : draft.table.replacements = entries := hnext
  exact ⟨count, declared, rfl, hcount, hnumber, hentries' ▸ hentries⟩

/-- Where no number is declared there are no entries. -/
theorem replacements_eq_nil (hread : readAll {} lines = some draft)
    (hnone : draft.replacementsDeclared = none) : draft.table.replacements = [] := by
  cases habout : GrammarLine.about .replacements lines with
  | nil => exact (replacements_of_about_eq_nil hread habout).2
  | cons header rest =>
    obtain ⟨_, _, -, -, hdeclared, -⟩ := replacements_of_about_eq_cons hread habout
    simp [hdeclared] at hnone

/-! ### Numbers -/

/-- The number declared for the replacement table is the one in its first line, if there is one. -/
theorem declared?_replacements (hread : readAll {} lines = some draft) :
    draft.replacementsDeclared = Subject.replacements.declared? lines := by
  unfold Subject.declared?
  cases habout : GrammarLine.about Subject.replacements.target lines with
  | nil => exact (replacements_of_about_eq_nil hread habout).1
  | cons header rest =>
    obtain ⟨count, declared, rfl, hcount, hdeclared, -⟩ :=
      replacements_of_about_eq_cons hread habout
    simp [hdeclared, hcount]

/-- The replacement table has an entry for each of its lines after the first one. -/
theorem found_replacements (hread : readAll {} lines = some draft) :
    draft.table.replacements.length = Subject.replacements.found lines := by
  unfold Subject.found
  cases habout : GrammarLine.about Subject.replacements.target lines with
  | nil => simp [(replacements_of_about_eq_nil hread habout).2]
  | cons header rest =>
    obtain ⟨_, _, -, -, -, hentries⟩ := replacements_of_about_eq_cons hread habout
    exact hentries.length_eq.symm

/-- What a kind and flag name has the number that its header declares, and a rule for each of its
lines after that. -/
theorem declared?_and_found_group (hread : readAll {} lines = some draft)
    (hgroup : draft.table.group? kind flag = some g) :
    (Subject.group kind flag).declared? lines = some g.declared ∧
      g.rules.length = (Subject.group kind flag).found lines := by
  unfold Subject.declared? Subject.found
  cases habout : GrammarLine.about (Subject.group kind flag).target lines with
  | nil => simp [group?_of_about_eq_nil hread habout] at hgroup
  | cons header rest =>
    obtain ⟨arguments, opened, rules, rfl, hheader, hrules, hopened⟩ :=
      group?_of_about_eq_cons hread habout
    obtain rfl : { opened with rules } = g := Option.some.inj (hopened.symm.trans hgroup)
    obtain ⟨cross, count, declared, rfl, -, hcount, -, rfl⟩ := readHeader_eq_ok_iff.1 hheader
    exact ⟨by simpa using hcount, hrules.length_eq.symm⟩

end Draft

end AffixSpeller
