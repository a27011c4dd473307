import AffixSpeller.Proofs.Affix.Blocks

/-!
# What a table represents

A table that is read from a grammar holds what the lines of the grammar say and nothing else. Every
group is the one that its kind and flag name, and its rules are those of its lines, one for each and
in their order; so are the entries of the replacement table. There are as many as the headers
declare, and what they say is fit for expansion and search.

## Main definitions

* `AffixTable.Represents`: the table holds what the lines say.

## Main results

* `AffixTable.represents_of_parse`: a table that is read represents the lines of its grammar.
-/

namespace AffixSpeller

open GrammarLine (about)

/-- The table holds what the lines with the given fields say. -/
structure AffixTable.Represents (table : AffixTable) (lines : List (List Text)) : Prop where
  /-- Every group is the one that its own kind and flag name. -/
  keyed : table.Keyed
  /-- What a kind and flag name is a group of that kind and flag. -/
  kind_and_flag : ∀ kind flag g, table.group? kind flag = some g → g.kind = kind ∧ g.flag = flag
  /-- There are groups for the kinds and flags that lines are about. -/
  named : ∀ kind flag, (table.group? kind flag).isSome = true ↔ about (.group kind flag) lines ≠ []
  /-- The rules of a group are those of its lines after the header, one for each. -/
  rules : ∀ g ∈ table.groups, ∃ header rest, about (.group g.kind g.flag) lines = header :: rest ∧
    List.Forall₂ (fun fields rule => AffixRule.IsReadFrom rule fields) rest g.rules
  /-- The number that a group declares is that of its header, and it has as many rules. -/
  declared : ∀ g ∈ table.groups,
    (Subject.group g.kind g.flag).declared? lines = some g.declared ∧ g.rules.length = g.declared
  /-- Rules are of the kind of their group, take over its mark for cross products, and move solid
  texts; what they append has no slash. -/
  rule : ∀ g ∈ table.groups, ∀ rule ∈ g.rules, rule.WellFormed g.kind g.crossProduct
  /-- The replacement table has the declared number of entries, and none if no line is about it. -/
  length_replacements :
    table.replacements.length = (Subject.replacements.declared? lines).getD 0
  /-- The entries of the replacement table are those of its lines after the header. -/
  replacements : List.Forall₂ (fun fields entry => Replacement.IsReadFrom entry fields)
    (about .replacements lines).tail table.replacements
  replacement : ∀ entry ∈ table.replacements, entry.pattern ≠ [] ∧ entry.replacement ≠ []
  solid_tryCharacters : Text.Solid table.tryCharacters
  compoundMin : 1 ≤ table.compoundMin ∧ table.compoundMin ≤ 50

namespace AffixTable

variable {text file : Text} {table : AffixTable}

/-- The rules of a group of a draft are those of the lines about it. -/
private theorem rules_of_readAll {lines : List (List Text)} {draft : Draft} {g : AffixGroup}
    (hread : Draft.readAll {} lines = some draft)
    (hgroup : draft.table.group? g.kind g.flag = some g) :
    ∃ header rest, about (.group g.kind g.flag) lines = header :: rest ∧
      List.Forall₂ (fun fields rule => AffixRule.IsReadFrom rule fields) rest g.rules := by
  cases habout : about (.group g.kind g.flag) lines with
  | nil => simp [Draft.group?_of_about_eq_nil hread habout] at hgroup
  | cons header rest =>
    obtain ⟨_, opened, rules, -, -, hrules, hopened⟩ := Draft.group?_of_about_eq_cons hread habout
    have hg : { opened with rules } = g := Option.some.inj (hopened.symm.trans hgroup)
    have hrules' : g.rules = rules := congrArg AffixGroup.rules hg.symm
    exact ⟨header, rest, rfl, hrules' ▸ hrules.imp fun _ _ => And.left⟩

/-- The entries of the replacement table of a draft are those of the lines about it. -/
private theorem replacements_of_readAll {lines : List (List Text)} {draft : Draft}
    (hread : Draft.readAll {} lines = some draft) :
    List.Forall₂ (fun fields entry => Replacement.IsReadFrom entry fields)
      (about .replacements lines).tail draft.table.replacements := by
  cases habout : about .replacements lines with
  | nil =>
    rw [(Draft.replacements_of_about_eq_nil hread habout).2]
    exact .nil
  | cons header rest =>
    obtain ⟨_, _, -, -, -, hentries⟩ := Draft.replacements_of_about_eq_cons hread habout
    exact hentries

/-- **A table that is read represents the lines of its grammar.** -/
theorem represents_of_parse (h : (AffixTable.parse text file).result = .ok table) :
    table.Represents (GrammarLine.fieldsOf text) := by
  obtain ⟨draft, hread, hfinish⟩ := AffixTable.parse_result_eq_ok_iff.1 h
  obtain ⟨rfl, hnumber, hnumbers⟩ := Draft.finish_eq_ok_iff.1 hfinish
  have hkeyed := keyed_of_parse h
  have hwf := wellFormed_of_parse h
  exact {
    keyed := hkeyed
    kind_and_flag := fun kind flag g => kind_and_flag_of_group?
    named := fun kind flag => Draft.isSome_group?_iff hread
    rules := fun g hg => rules_of_readAll hread (hkeyed g hg)
    declared := fun g hg =>
      ⟨(Draft.declared?_and_found_group hread (hkeyed g hg)).1, hnumbers g hg⟩
    rule := hwf.rules
    length_replacements := by
      rw [← Draft.declared?_replacements hread]
      cases hdeclared : draft.replacementsDeclared with
      | none => simp [Draft.replacements_eq_nil hread hdeclared]
      | some declared => exact (hnumber declared hdeclared).symm
    replacements := replacements_of_readAll hread
    replacement := fun entry hentry =>
      ⟨hwf.pattern_ne_nil entry hentry, hwf.replacement_ne_nil entry hentry⟩
    solid_tryCharacters := hwf.solid_tryCharacters
    compoundMin := ⟨hwf.one_le_compoundMin, hwf.compoundMin_le⟩ }

/-- Two groups of one flag and the replacement table, whose lines come in turn. -/
theorem represents_interleaved_lines :
    ∃ table : AffixTable,
      (AffixTable.parse ("SFX A Y 2\nPFX A N 1\nSFX A 0 s .\nREP 1\nPFX A 0 re/X .\n".toList ++
          "REP a b\nSFX A y ies y\n".toList) "en.aff".toList).result = .ok table ∧
        table.Represents (GrammarLine.fieldsOf
          ("SFX A Y 2\nPFX A N 1\nSFX A 0 s .\nREP 1\nPFX A 0 re/X .\n".toList ++
            "REP a b\nSFX A y ies y\n".toList)) ∧
        (table.group? .trailing "A".toList).map (·.rules.map (·.append)) =
          some ["s".toList, "ies".toList] ∧
        (table.group? .leading "A".toList).map (·.rules.map (·.append)) = some ["re".toList] := by
  obtain ⟨table, htable, hrules⟩ := Logged.exists_result_eq_ok
    (p := fun table : AffixTable => decide (
      (table.group? .trailing "A".toList).map (·.rules.map (·.append)) =
          some ["s".toList, "ies".toList] ∧
        (table.group? .leading "A".toList).map (·.rules.map (·.append)) = some ["re".toList]))
    (show (AffixTable.parse
      ("SFX A Y 2\nPFX A N 1\nSFX A 0 s .\nREP 1\nPFX A 0 re/X .\n".toList ++
        "REP a b\nSFX A y ies y\n".toList) "en.aff".toList).result.toOption.any _ = true by
      decide +kernel)
  exact ⟨table, htable, represents_of_parse htable, of_decide_eq_true hrules⟩

end AffixTable

end AffixSpeller
