import AffixSpeller.Proofs.Affix.Outline
import AffixSpeller.Proofs.Affix.SameRules

/-!
# Grammars that are written are read back

Reading the blocks of an outline one after the other makes the table that is meant: a setting's
line sets it, the lines of the replacement table add its entries, and the lines of a group open it
and add its rules. Since the blocks may change places, so they do in every order.

## Main results

* `GrammarOutline.readAll_settingBlocks`, `GrammarOutline.readAll_replacementBlock`,
  `GroupOutline.readAll_block`: the effect of each kind of block.
* `GrammarOutline.readAll_blocks`: the effect of all blocks.
* `GrammarOutline.parse_ofBlocks`: the table of a grammar that is written from an outline.
-/

namespace AffixSpeller

/-! ### Rules and groups -/

theorem Draft.affixText_writtenAffix {t : Text} (h : t.IsAffix) :
    affixText t.writtenAffix = t := by
  unfold Text.writtenAffix
  split_ifs with hnil
  · rw [hnil]
    rfl
  · exact if_neg h.ne_zero

namespace RuleOutline

/-- **Rules are read back.** -/
theorem readRule_fields (outline : RuleOutline) (kind : AffixKind) :
    Draft.readRule kind
        [outline.strip.writtenAffix, outline.append.writtenAffix, outline.pattern] =
      .ok (outline.strip, outline.append, outline.condition) := by
  have hslash : outline.append.writtenAffix.takeWhile (· != '/') = outline.append.writtenAffix := by
    refine List.takeWhile_eq_self_iff.2 fun c hc => ?_
    unfold Text.writtenAffix at hc
    split_ifs at hc
    · rw [List.mem_singleton.1 hc]
      decide
    · exact bne_iff_ne.2 fun heq => outline.slash_notMem_append (heq ▸ hc)
  simp only [Draft.readRule, outline.compile_pattern, Draft.appendText, hslash,
    Draft.affixText_writtenAffix outline.isAffix_strip,
    Draft.affixText_writtenAffix outline.isAffix_append]

end RuleOutline

namespace GroupOutline

variable {draft : Draft}

/-- The header opens the group without its rules. -/
theorem readHeader_fields (outline : GroupOutline) :
    Draft.readHeader outline.kind outline.flag
        [if outline.crossProduct then ['Y'] else ['N'], Nat.toDigits 10 outline.rules.length] =
      .ok { outline.group with rules := [] } := by
  have hcount : outline.rules.length ≤ 18446744073709551615 :=
    outline.length_rules_le.trans (by decide)
  refine Draft.readHeader_eq_ok_iff.2
    ⟨_, _, outline.rules.length, rfl, ?_, Text.count?_toDigits hcount, outline.length_rules_le, ?_⟩
  · cases outline.crossProduct <;> simp
  · cases hcross : outline.crossProduct <;> simp [group, hcross]

/-- The lines of rules add them to the group that was opened. -/
theorem readAll_rules (outline : GroupOutline)
    (hnew : draft.table.group? outline.kind outline.flag = none) (before : List AffixRule)
    (rules : List RuleOutline) :
    (draft.addGroup { outline.group with rules := before }).readAll
        (rules.map (·.fields outline.kind outline.flag)) =
      some (draft.addGroup { outline.group with
        rules := before ++ rules.map (·.rule outline.kind outline.crossProduct) }) := by
  induction rules generalizing before with
  | nil => simp
  | cons rule rules ih =>
    -- the group as the rules before this one leave it
    let opened : AffixGroup := { outline.group with rules := before }
    have hopened : opened.kind = outline.kind ∧ opened.flag = outline.flag := ⟨rfl, rfl⟩
    have hthere : ((draft.addGroup opened).table.group? outline.kind outline.flag).isSome = true :=
      (Draft.isSome_group?_addGroup hnew).2 (Or.inl hopened)
    have hadded : (draft.addGroup opened).addRule outline.kind outline.flag
        (rule.strip, rule.append, rule.condition) =
          draft.addGroup (opened.withRule (rule.rule outline.kind outline.crossProduct)) :=
      congrArg (fun table => { draft with table }) (AffixTable.addRule_addGroup hnew _ _ _)
    rw [List.map_cons, Draft.readAll_cons, RuleOutline.fields, Draft.read_rule hthere,
      rule.readRule_fields]
    refine (congrArg (Draft.readAll · _) hadded).trans ((ih _).trans ?_)
    simp [opened]

/-- **Groups are read back.** -/
theorem readAll_block (outline : GroupOutline)
    (hnew : draft.table.group? outline.kind outline.flag = none) :
    draft.readAll outline.block = some (draft.addGroup outline.group) := by
  rw [block, Draft.readAll_cons, Draft.read_header hnew, outline.readHeader_fields]
  exact outline.readAll_rules hnew [] outline.rules

/-- Groups of different kinds or flags are read back one after the other. -/
theorem readAll_blocks {outlines : List GroupOutline}
    (hnodup : (outlines.map fun g => (g.kind, g.flag)).Nodup)
    (hnew : ∀ g ∈ outlines, draft.table.group? g.kind g.flag = none) :
    draft.readAll (outlines.map GroupOutline.block).flatten =
      some (outlines.foldl (fun draft g => draft.addGroup g.group) draft) := by
  induction outlines generalizing draft with
  | nil => rfl
  | cons g outlines ih =>
    obtain ⟨hother, hnodup⟩ := List.nodup_cons.1 hnodup
    rw [List.map_cons, List.flatten_cons, Draft.readAll_append,
      g.readAll_block (hnew g List.mem_cons_self), Option.bind_some, List.foldl_cons]
    refine ih hnodup fun k hk => ?_
    have hkey : ¬(g.group.kind = k.kind ∧ g.group.flag = k.flag) := by
      rintro ⟨hkind, hflag⟩
      exact hother (List.mem_map.2 ⟨k, hk, Prod.ext hkind.symm hflag.symm⟩)
    rw [Draft.addGroup, AffixTable.group?_addGroup (hnew g List.mem_cons_self), if_neg hkey]
    exact hnew k (List.mem_cons_of_mem g hk)

end GroupOutline

namespace GrammarOutline

/-! ### Settings and the replacement table -/

/-- The draft that the settings make. -/
def settingsDraft (outline : GrammarOutline) : Draft where
  table :=
    { tryCharacters := outline.tryCharacters
      flagEncoding := outline.flagEncoding
      compoundFlag := outline.compoundFlag
      compoundMin := outline.compoundMin
      charset := outline.charset }
  trySeen := !outline.tryCharacters.isEmpty
  compoundMinSeen := true

private theorem ofName_name (encoding : FlagEncoding) :
    FlagEncoding.ofName encoding.name = .ok encoding := by
  cases encoding <;> rfl

private theorem integer?_compoundMin (outline : GrammarOutline) :
    Text.integer? (Nat.toDigits 10 outline.compoundMin) = some (outline.compoundMin : Int) :=
  Text.integer?_toDigits (outline.compoundMin_range.2.trans (by decide))

private theorem compoundMinOf_compoundMin (outline : GrammarOutline) :
    Draft.compoundMinOf outline.compoundMin = outline.compoundMin := by
  have hrange := outline.compoundMin_range
  rw [Draft.compoundMinOf, if_pos (by omega), Int.toNat_natCast]

/-- **Settings are read back.** -/
theorem readAll_settingBlocks (outline : GrammarOutline) :
    Draft.readAll {} (settings.map outline.settingBlock).flatten = some outline.settingsDraft := by
  -- three of the settings have a line or not
  cases hcharset : outline.charset <;> cases hflag : outline.compoundFlag <;>
    by_cases htry : outline.tryCharacters = [] <;>
    simp [settings, settingBlock, argument?, settingsDraft, Draft.readAll_cons, Draft.read_setting,
      Draft.readSetting, Except.toOption, ofName_name, integer?_compoundMin,
      compoundMinOf_compoundMin, hcharset, hflag, htry]

/-- The entries of the replacement table are added to those that are there. -/
theorem readAll_entries {draft : Draft} {entries : List Replacement}
    (hwritable : ∀ entry ∈ entries, entry.IsWritable)
    (hheader : draft.replacementsDeclared.isSome = true) :
    draft.readAll (entries.map Replacement.fields) =
      some { draft with
        table := { draft.table with replacements := draft.table.replacements ++ entries } } := by
  induction entries generalizing draft with
  | nil => simp
  | cons entry entries ih =>
    obtain ⟨declared, hdeclared⟩ := Option.isSome_iff_exists.1 hheader
    let next : Draft := { draft with
      table := { draft.table with replacements := draft.table.replacements ++ [entry] } }
    have hread : draft.read entry.fields = .ok next := by
      have hentry := (hwritable entry List.mem_cons_self).ofFields_written
      simp only [Replacement.fields, Draft.read_replacement, Draft.readReplacement, hdeclared,
        hentry, next]
    have hrest : next.readAll (entries.map Replacement.fields) = some { next with
        table := { next.table with replacements := next.table.replacements ++ entries } } :=
      ih (fun e he => hwritable e (List.mem_cons_of_mem entry he)) hheader
    rw [List.map_cons, Draft.readAll_cons, hread]
    refine hrest.trans ?_
    simp [next]

/-- **The replacement table is read back.** -/
theorem readAll_replacementBlock (outline : GrammarOutline) {draft : Draft}
    (hnone : draft.replacementsDeclared = none) (hempty : draft.table.replacements = []) :
    draft.readAll outline.replacementBlock =
      some { draft with
        replacementsDeclared := some outline.replacements.length
        table := { draft.table with replacements := outline.replacements } } := by
  have hheader : draft.read ["REP".toList, Nat.toDigits 10 outline.replacements.length] =
      .ok { draft with replacementsDeclared := some outline.replacements.length } := by
    simp only [Draft.read_replacement, Draft.readReplacement, hnone,
      Text.count?_toDigits outline.length_replacements_le]
  rw [replacementBlock, Draft.readAll_cons, hheader]
  refine (readAll_entries outline.isWritable_replacements rfl).trans ?_
  simp [hempty]

/-! ### Whole grammars -/

/-- The draft that all blocks make. -/
def draft (outline : GrammarOutline) : Draft :=
  { outline.settingsDraft with
    table := outline.table
    replacementsDeclared := some outline.replacements.length }

private theorem foldl_addGroup (outlines : List GroupOutline) (draft : Draft) :
    outlines.foldl (fun draft g => draft.addGroup g.group) draft =
      draft.withGroups
        (outlines.foldl (fun groups g => g.group.insertInto groups) draft.table.groups) := by
  induction outlines generalizing draft with
  | nil => rfl
  | cons g outlines ih =>
    rw [List.foldl_cons, ih, List.foldl_cons]
    rfl

/-- **All blocks together make the table that is meant.** -/
theorem readAll_blocks (outline : GrammarOutline) :
    Draft.readAll {} outline.blocks.flatten = some outline.draft := by
  rw [blocks, List.flatten_append, Draft.readAll_append, outline.readAll_settingBlocks,
    Option.bind_some, List.flatten_cons, Draft.readAll_append,
    outline.readAll_replacementBlock rfl rfl, Option.bind_some,
    GroupOutline.readAll_blocks outline.nodup_groups fun _ _ => rfl, foldl_addGroup]
  rfl

private theorem perm_foldl_insertInto (outlines : List GroupOutline) (groups : List AffixGroup) :
    (outlines.foldl (fun groups g => g.group.insertInto groups) groups).Perm
      (outlines.map GroupOutline.group ++ groups) := by
  induction outlines generalizing groups with
  | nil => rfl
  | cons g outlines ih =>
    exact (ih _).trans (((AffixGroup.perm_insertInto _ _).append_left _).trans List.perm_middle)

/-- The groups of the table are those that are meant. -/
theorem perm_groups_table (outline : GrammarOutline) :
    outline.table.groups.Perm (outline.groups.map GroupOutline.group) := by
  simpa [table] using perm_foldl_insertInto outline.groups []

/-- The numbers of the table are right. -/
theorem finish_draft (outline : GrammarOutline) (file : Text) :
    outline.draft.finish file = .ok outline.table := by
  refine Draft.finish_eq_ok_iff.2 ⟨rfl, fun declared hdeclared => ?_, fun g hg => ?_⟩
  · exact (Option.some.inj hdeclared).symm
  · obtain ⟨group, -, rfl⟩ := List.mem_map.1 (outline.perm_groups_table.mem_iff.1 hg)
    exact List.length_map _

/-- **A grammar that is written is read back.** The blocks of an outline, in any order, are the
text of a grammar whose table is the one that is meant, with the groups that are meant. -/
theorem parse_ofBlocks (outline : GrammarOutline) {blocks : List (List (List Text))}
    (hblocks : blocks.Perm outline.blocks) (file : Text) :
    (AffixTable.parse (Text.ofBlocks blocks) file).result = .ok outline.table ∧
      outline.table.groups.Perm (outline.groups.map GroupOutline.group) := by
  have hfields : GrammarLine.fieldsOf (Text.ofBlocks blocks) = blocks.flatten :=
    GrammarLine.fieldsOf_ofBlocks fun block hmem =>
      isWritable_of_mem_blocks block (hblocks.mem_iff.1 hmem)
  -- in the order of the outline the blocks are read one by one; in any other they say the same
  have hsame : GrammarLine.SameAbout outline.blocks.flatten blocks.flatten :=
    GrammarLine.sameAbout_flatten_of_perm hblocks.symm pairwise_apart_blocks
  have hread : Draft.readAll {} (GrammarLine.fieldsOf (Text.ofBlocks blocks)) =
      some outline.draft := by
    rw [hfields, ← Draft.readAll_eq_of_sameAbout hsame, outline.readAll_blocks]
  refine ⟨?_, outline.perm_groups_table⟩
  rw [AffixTable.parse_result_of_readAll file hread, outline.finish_draft]

/-- Two groups of one flag, and an entry that is tied to the start of a word. -/
def plurals : GrammarOutline where
  flagEncoding := .utf8
  charset := some "UTF-8".toList
  compoundFlag := none
  compoundMin := 2
  tryCharacters := "ab".toList
  replacements := [⟨"a b".toList, "c".toList, true, false⟩]
  groups :=
    [{  kind := .trailing
        flag := "A".toList
        crossProduct := true
        rules :=
          [{  strip := "y".toList
              append := "ies".toList
              pattern := "[^aeiou]y".toList
              condition := ⟨[.noneOf (.ofList "aeiou".toList), .oneOf (.singleton 'y')]⟩
              isAffix_strip := by decide
              isAffix_append := by decide
              slash_notMem_append := by decide
              isField_pattern := by decide
              compile_pattern := rfl },
            { strip := []
              append := "s".toList
              pattern := ".".toList
              condition := .trivial
              isAffix_strip := by decide
              isAffix_append := by decide
              slash_notMem_append := by decide
              isField_pattern := by decide
              compile_pattern := by decide }]
        isField_flag := by decide
        length_rules_le := by decide },
      { kind := .leading
        flag := "A".toList
        crossProduct := false
        rules := []
        isField_flag := by decide
        length_rules_le := by decide }]
  isField_charset := by decide
  isField_compoundFlag := by decide
  compoundMin_range := by decide
  isField_tryCharacters := by decide
  isWritable_replacements := by decide
  length_replacements_le := by decide
  nodup_groups := by decide

/-- The blocks of an outline from the last to the first. -/
theorem parse_ofBlocks_plurals_reverse :
    Text.ofBlocks plurals.blocks.reverse =
        ("PFX A N 0\nSFX A Y 2\nSFX A y ies [^aeiou]y\nSFX A 0 s .\nREP 1\nREP ^a_b c\n" ++
          "COMPOUNDMIN 2\nTRY ab\nFLAG UTF-8\nSET UTF-8\n").toList ∧
      (AffixTable.parse (Text.ofBlocks plurals.blocks.reverse) "en.aff".toList).result =
        .ok plurals.table :=
  ⟨by decide +kernel, (parse_ofBlocks plurals (List.reverse_perm _) "en.aff".toList).1⟩

end GrammarOutline

end AffixSpeller
