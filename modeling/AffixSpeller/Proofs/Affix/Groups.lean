import AffixSpeller.Proofs.Affix.Reading

/-!
# The groups of a table

A table grows by groups and by rules. A new group changes what its own kind and flag name, and a
new rule is added to the group that its kind and flag name; nothing else is looked up differently.
The first line of a kind and flag is the header of their group, and every later one is a rule of
it. All other lines have nothing to do with groups.

## Main definitions

* `AffixGroup.withRule`: a group with one more rule.
* `AffixTable.Keyed`: every group is the one that its kind and flag name.
* `Draft.addGroup`, `Draft.addRule`, `Draft.withGroups`: drafts with other groups.

## Main results

* `AffixTable.group?_addGroup`, `AffixTable.group?_addRule`: looking up groups in a grown table.
* `Draft.read_header`, `Draft.read_rule`, `Draft.read_withGroups`: what lines do to groups.
* `Draft.isSome_group?_of_readAll`: a group is there once a line of its kind and flag was read.
* `AffixTable.keyed_of_parse`: every group of a table that is read is what its kind and flag name.
-/

namespace AffixSpeller

/-- The group with one more rule at its end. -/
def AffixGroup.withRule (g : AffixGroup) (rule : AffixRule) : AffixGroup :=
  { g with rules := g.rules ++ [rule] }

namespace AffixTable

variable {table : AffixTable} {kind kind' : AffixKind} {flag flag' : Flag} {g : AffixGroup}

private theorem find?_key_cons (h : AffixGroup) (hs : List AffixGroup) :
    (h :: hs).find? (fun g => g.kind == kind && g.flag == flag) =
      if h.kind = kind ∧ h.flag = flag then some h
      else hs.find? fun g => g.kind == kind && g.flag == flag := by
  by_cases hkey : h.kind = kind ∧ h.flag = flag
  · simp [hkey.1, hkey.2]
  · rw [if_neg hkey, List.find?_cons_of_neg (by simpa using hkey)]

/-- A group that is not there yet is what its kind and flag name once it is added. -/
theorem group?_addGroup (hnew : table.group? g.kind g.flag = none) :
    (table.addGroup g).group? kind flag =
      if g.kind = kind ∧ g.flag = flag then some g else table.group? kind flag := by
  unfold group? addGroup at *
  generalize table.groups = hs at *
  dsimp only
  induction hs with
  | nil => rw [AffixGroup.insertInto, find?_key_cons]
  | cons h hs ih =>
    rw [find?_key_cons] at hnew
    split_ifs at hnew with hother
    rw [AffixGroup.insertInto]
    by_cases hbefore : g.isBefore h = true
    · rw [if_pos hbefore, find?_key_cons]
    · rw [if_neg hbefore, find?_key_cons, find?_key_cons, ih hnew]
      -- the head is not the group that is looked for, or not the new one
      split_ifs with hhead hkey
      · exact absurd ⟨hhead.1.trans hkey.1.symm, hhead.2.trans hkey.2.symm⟩ hother
      all_goals rfl

/-- A new rule is added to the group that its kind and flag name, if there is one. -/
theorem group?_addRule (strip append : Text) (condition : Condition) :
    (table.addRule kind flag strip append condition).group? kind' flag' =
      if kind = kind' ∧ flag = flag' then
        (table.group? kind flag).map fun g =>
          g.withRule ⟨kind, strip, append, condition, g.crossProduct⟩
      else table.group? kind' flag' := by
  unfold group? addRule
  dsimp only
  generalize table.groups = hs
  induction hs with
  | nil => simp
  | cons h hs ih =>
    rw [List.map_cons, find?_key_cons, ih]
    simp only [find?_key_cons]
    split_ifs <;> simp_all [AffixGroup.withRule]

/-! ### Keyed tables -/

/-- Every group is the one that its kind and flag name. -/
def Keyed (table : AffixTable) : Prop :=
  ∀ g ∈ table.groups, table.group? g.kind g.flag = some g

theorem keyed_empty : Keyed {} := by
  simp [Keyed]

theorem Keyed.addGroup (h : table.Keyed) (hnew : table.group? g.kind g.flag = none) :
    (table.addGroup g).Keyed := by
  intro k hk
  rw [group?_addGroup hnew]
  obtain rfl | hk := AffixGroup.mem_insertInto.1 hk
  · simp
  · have hold := h k hk
    rw [if_neg, hold]
    rintro ⟨hkind, hflag⟩
    simp [hkind, hflag, hold] at hnew

theorem Keyed.addRule (h : table.Keyed) (strip append : Text) (condition : Condition) :
    (table.addRule kind flag strip append condition).Keyed := by
  intro k hk
  obtain ⟨g, hg, rfl⟩ := List.mem_map.1 hk
  have hold := h g hg
  rw [group?_addRule]
  by_cases hkey : g.kind = kind ∧ g.flag = flag
  · obtain ⟨rfl, rfl⟩ := hkey
    simp [hold, AffixGroup.withRule]
  · have hkey' : ¬(kind = g.kind ∧ flag = g.flag) := fun h => hkey ⟨h.1.symm, h.2.symm⟩
    simp [hkey, hkey', hold]

end AffixTable

/-! ### Lines of groups -/

namespace Draft

variable {draft next : Draft} {kind kind' : AffixKind} {flag flag' : Flag} {fields : List Text}

/-- The draft with one more group. -/
def addGroup (draft : Draft) (g : AffixGroup) : Draft :=
  { draft with table := draft.table.addGroup g }

/-- The draft with one more rule at the end of the group of the given kind and flag. -/
def addRule (draft : Draft) (kind : AffixKind) (flag : Flag)
    (rule : Text × Text × Condition) : Draft :=
  { draft with table := draft.table.addRule kind flag rule.1 rule.2.1 rule.2.2 }

/-- The draft with other groups. -/
def withGroups (draft : Draft) (groups : List AffixGroup) : Draft :=
  { draft with table := { draft.table with groups } }

/-- A line has nothing to do with groups, or it is one of groups without a flag, or it is one of a
kind and flag. -/
theorem fields_cases (fields : List Text) :
    (∀ kind : AffixKind, fields.head? ≠ some kind.tag) ∨
      (∃ kind : AffixKind, fields = [kind.tag]) ∨
      ∃ (kind : AffixKind) (flag : Flag) (arguments : List Text),
        fields = kind.tag :: flag :: arguments := by
  refine or_iff_not_imp_left.2 fun hgroup => ?_
  push Not at hgroup
  obtain ⟨kind, hkind⟩ := hgroup
  obtain ⟨arguments, rfl⟩ := List.head?_eq_some_iff.1 hkind
  cases arguments with
  | nil => exact Or.inl ⟨kind, rfl⟩
  | cons flag arguments => exact Or.inr ⟨kind, flag, arguments, rfl⟩

/-- The first line of a kind and flag is the header of their group. -/
theorem read_header (hnew : draft.table.group? kind flag = none) (arguments : List Text) :
    draft.read (kind.tag :: flag :: arguments) =
      (readHeader kind flag arguments).map draft.addGroup := by
  simp only [read, Directive.ofTag_eq_affix_iff.2 (rfl : kind.tag = kind.tag), readAffix, hnew]
  cases readHeader kind flag arguments <;> rfl

/-- Every later line of a kind and flag is a rule of their group. -/
theorem read_rule (hgroup : (draft.table.group? kind flag).isSome = true)
    (arguments : List Text) :
    draft.read (kind.tag :: flag :: arguments) =
      (readRule kind arguments).map (draft.addRule kind flag) := by
  obtain ⟨g, hg⟩ := Option.isSome_iff_exists.1 hgroup
  simp only [read, Directive.ofTag_eq_affix_iff.2 (rfl : kind.tag = kind.tag), readAffix, hg]
  cases readRule kind arguments <;> rfl

/-- A line of groups without a flag cannot be read. -/
theorem read_unnamed (draft : Draft) (kind : AffixKind) :
    draft.read [kind.tag] = .error .missingFlag := by
  simp only [read, Directive.ofTag_eq_affix_iff.2 (rfl : kind.tag = kind.tag), readAffix]

/-- The effect of a setting, and its failures, do not depend on the groups. -/
private theorem readSetting_withGroups (groups : List AffixGroup) (setting : Setting)
    (argument : Text) :
    (draft.withGroups groups).readSetting setting argument =
      (draft.readSetting setting argument).map (·.withGroups groups) := by
  cases setting with
  | tryCharacters =>
    cases hseen : draft.trySeen <;> simp [readSetting, withGroups, hseen, Except.map]
  | compoundFlag =>
    cases hflag : draft.table.compoundFlag <;> simp [readSetting, withGroups, hflag, Except.map]
  | compoundMin =>
    cases hseen : draft.compoundMinSeen with
    | true => simp [readSetting, withGroups, hseen, Except.map]
    | false =>
      cases hvalue : Text.integer? argument <;>
        simp [readSetting, withGroups, hseen, hvalue, Except.map]
  | flagEncoding =>
    cases hname : FlagEncoding.ofName argument <;> simp [readSetting, withGroups, hname, Except.map]
  | charset => rfl

private theorem readReplacement_withGroups (groups : List AffixGroup) (arguments : List Text) :
    (draft.withGroups groups).readReplacement arguments =
      (draft.readReplacement arguments).map (·.withGroups groups) := by
  simp only [readReplacement, withGroups]
  cases draft.replacementsDeclared with
  | none =>
    match arguments with
    | [] => rfl
    | [count] =>
      dsimp only
      cases Text.count? count <;> rfl
    | _ :: _ :: _ => rfl
  | some declared =>
    match arguments with
    | [] => rfl
    | [_] => rfl
    | _ :: _ :: _ => rfl

/-- All other lines have the same effect whatever the groups are, and leave them as they are. -/
theorem read_withGroups (hother : ∀ kind : AffixKind, fields.head? ≠ some kind.tag)
    (groups : List AffixGroup) :
    (draft.withGroups groups).read fields = (draft.read fields).map (·.withGroups groups) := by
  cases fields with
  | nil => rfl
  | cons tag arguments =>
    cases hdirective : Directive.ofTag tag with
    | setting setting =>
      simp only [read, hdirective]
      match arguments with
      | [] => rfl
      | [argument] => exact readSetting_withGroups groups setting argument
      | _ :: _ :: _ => rfl
    | replacement =>
      simp only [read, hdirective]
      exact readReplacement_withGroups groups arguments
    | affix kind =>
      exact absurd (by simpa using Directive.ofTag_eq_affix_iff.1 hdirective) (hother kind)
    | ignored =>
      simp only [read, hdirective]
      rfl
    | unknown =>
      simp only [read, hdirective]
      rfl

theorem groups_of_read (hother : ∀ kind : AffixKind, fields.head? ≠ some kind.tag)
    (hread : draft.read fields = .ok next) : next.table.groups = draft.table.groups := by
  have h : draft.read fields = (draft.read fields).map (·.withGroups draft.table.groups) :=
    read_withGroups hother draft.table.groups
  rw [hread] at h
  exact congrArg (·.table.groups) (Except.ok.inj h)

/-- **What lines do to groups.** A line leaves them as they are, or opens a new group, or adds a
rule to a group that is there. -/
theorem groups_cases_of_read (hread : draft.read fields = .ok next) :
    next.table.groups = draft.table.groups ∨
      (∃ kind flag arguments g, fields = kind.tag :: flag :: arguments ∧
        readHeader kind flag arguments = .ok g ∧ draft.table.group? kind flag = none ∧
        next = draft.addGroup g) ∨
      ∃ kind flag arguments rule, fields = kind.tag :: flag :: arguments ∧
        readRule kind arguments = .ok rule ∧
        (draft.table.group? kind flag).isSome = true ∧ next = draft.addRule kind flag rule := by
  obtain hother | ⟨kind, rfl⟩ | ⟨kind, flag, arguments, rfl⟩ := fields_cases fields
  · exact Or.inl (groups_of_read hother hread)
  · simp [read_unnamed] at hread
  · cases hgroup : draft.table.group? kind flag with
    | none =>
      rw [read_header hgroup, map_eq_ok_iff] at hread
      obtain ⟨g, hheader, rfl⟩ := hread
      exact Or.inr (Or.inl ⟨kind, flag, arguments, g, rfl, hheader, hgroup, rfl⟩)
    | some g =>
      have hsome : (draft.table.group? kind flag).isSome = true := by simp [hgroup]
      rw [read_rule hsome, map_eq_ok_iff] at hread
      obtain ⟨rule, hrule, rfl⟩ := hread
      exact Or.inr (Or.inr ⟨kind, flag, arguments, rule, rfl, hrule, hsome, rfl⟩)

theorem kind_and_flag_of_readHeader {arguments : List Text} {g : AffixGroup}
    (hread : readHeader kind flag arguments = .ok g) : g.kind = kind ∧ g.flag = flag := by
  obtain ⟨_, _, _, -, -, -, -, rfl⟩ := readHeader_eq_ok_iff.1 hread
  exact ⟨rfl, rfl⟩

theorem isSome_group?_addGroup {g : AffixGroup} (hnew : draft.table.group? g.kind g.flag = none) :
    ((draft.addGroup g).table.group? kind flag).isSome = true ↔
      (g.kind = kind ∧ g.flag = flag) ∨ (draft.table.group? kind flag).isSome = true := by
  rw [addGroup, AffixTable.group?_addGroup hnew]
  split_ifs with hkey <;> simp [hkey]

theorem isSome_group?_addRule (rule : Text × Text × Condition) :
    ((draft.addRule kind' flag' rule).table.group? kind flag).isSome =
      (draft.table.group? kind flag).isSome := by
  rw [addRule, AffixTable.group?_addRule]
  split_ifs with hkey
  · rw [Option.isSome_map, hkey.1, hkey.2]
  · rfl

/-- A group that is there stays there. -/
theorem isSome_group?_of_read (hread : draft.read fields = .ok next)
    (hgroup : (draft.table.group? kind flag).isSome = true) :
    (next.table.group? kind flag).isSome = true := by
  obtain hgroups | ⟨_, _, _, g, -, hheader, hnew, rfl⟩ | ⟨_, _, _, rule, -, -, -, rfl⟩ :=
    groups_cases_of_read hread
  · rwa [AffixTable.group?, hgroups]
  · obtain ⟨rfl, rfl⟩ := kind_and_flag_of_readHeader hheader
    exact (isSome_group?_addGroup hnew).2 (Or.inr hgroup)
  · rwa [isSome_group?_addRule]

/-- After a line of a kind and flag their group is there. -/
theorem isSome_group?_of_read_line {arguments : List Text}
    (hread : draft.read (kind.tag :: flag :: arguments) = .ok next) :
    (next.table.group? kind flag).isSome = true := by
  cases hgroup : draft.table.group? kind flag with
  | none =>
    rw [read_header hgroup, map_eq_ok_iff] at hread
    obtain ⟨g, hheader, rfl⟩ := hread
    obtain ⟨rfl, rfl⟩ := kind_and_flag_of_readHeader hheader
    exact (isSome_group?_addGroup hgroup).2 (Or.inl ⟨rfl, rfl⟩)
  | some g => exact isSome_group?_of_read hread (by simp [hgroup])

/-- **A group is there once a line of its kind and flag was read.** -/
theorem isSome_group?_of_readAll {lines : List (List Text)}
    (hread : draft.readAll lines = some next)
    (hgroup : (draft.table.group? kind flag).isSome = true ∨
      ∃ arguments, kind.tag :: flag :: arguments ∈ lines) :
    (next.table.group? kind flag).isSome = true := by
  induction lines generalizing draft with
  | nil =>
    cases hread
    simpa using hgroup
  | cons fields lines ih =>
    obtain ⟨mid, hline, hlines⟩ := readAll_cons_eq_some_iff.1 hread
    refine ih hlines ?_
    obtain hgroup | ⟨arguments, hmem⟩ := hgroup
    · exact Or.inl (isSome_group?_of_read hline hgroup)
    · obtain rfl | hmem := List.mem_cons.1 hmem
      · exact Or.inl (isSome_group?_of_read_line hline)
      · exact Or.inr ⟨arguments, hmem⟩

/-- A line keeps the table keyed. -/
theorem keyed_read (h : draft.table.Keyed) (hread : draft.read fields = .ok next) :
    next.table.Keyed := by
  obtain hgroups | ⟨_, _, _, g, -, hheader, hnew, rfl⟩ | ⟨_, _, _, rule, -, -, -, rfl⟩ :=
    groups_cases_of_read hread
  · simpa [AffixTable.Keyed, AffixTable.group?, hgroups] using h
  · obtain ⟨rfl, rfl⟩ := kind_and_flag_of_readHeader hheader
    exact h.addGroup hnew
  · exact h.addRule rule.1 rule.2.1 rule.2.2

theorem keyed_readAll {lines : List (List Text)} (h : draft.table.Keyed)
    (hread : draft.readAll lines = some next) : next.table.Keyed := by
  induction lines generalizing draft with
  | nil =>
    cases hread
    exact h
  | cons fields lines ih =>
    obtain ⟨mid, hline, hlines⟩ := readAll_cons_eq_some_iff.1 hread
    exact ih (keyed_read h hline) hlines

end Draft

/-- **Every group of a table that is read is what its kind and flag name.** -/
theorem AffixTable.keyed_of_parse {text file : Text} {table : AffixTable}
    (h : (AffixTable.parse text file).result = .ok table) : table.Keyed := by
  obtain ⟨draft, hread, hfinish⟩ := AffixTable.parse_result_eq_ok_iff.1 h
  rw [← Draft.table_eq_of_finish hfinish]
  exact Draft.keyed_readAll AffixTable.keyed_empty hread

end AffixSpeller
