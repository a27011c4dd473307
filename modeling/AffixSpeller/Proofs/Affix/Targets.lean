import AffixSpeller.Proofs.Affix.Groups
import Mathlib.Data.List.Induction

/-!
# What lines are about

A line of a grammar is about a setting, about the replacement table, or about the group of a kind
and flag; all others are passed over. A line reads and writes only the part of a draft that it is
about. So the lines about one thing make their part by themselves, whatever stands between them,
and lines can be read if the lines about each thing can.

## Main definitions

* `Target`, `Target.of?`, `Target.lead`: what a line with given fields is about, and the fields that
  it then begins with.
* `GrammarLine.about`, `GrammarLine.IsBlock`: the lines about one target.
* `Draft.part`: the part of a draft that the lines about a target read and write.

## Main results

* `Target.exists_of_of?_eq`: how the lines about a target begin.
* `Draft.read_of_passed`, `Draft.part_of_read`, `Draft.read_part`: a line reads and writes only its
  own part.
* `Draft.readAll_part`: the lines about a target make its part by themselves.
* `Draft.isSome_readAll_iff`: lines can be read if and only if those about each target can.
-/

namespace AffixSpeller

/-- What a line of a grammar is about. -/
inductive Target where
  | setting (setting : Setting)
  | replacements
  | group (kind : AffixKind) (flag : Flag)
  /-- Some group, but no flag says which; such a line cannot be read. -/
  | unnamed (kind : AffixKind)
  deriving DecidableEq, Repr

namespace Target

/-- What a line with the given fields is about, unless it is passed over. -/
def of? (fields : List Text) : Option Target :=
  match fields with
  | [] => none
  | tag :: arguments =>
    match Directive.ofTag tag, arguments with
    | .setting s, _ => some (.setting s)
    | .replacement, _ => some .replacements
    | .affix kind, [] => some (.unnamed kind)
    | .affix kind, flag :: _ => some (.group kind flag)
    | .ignored, _ | .unknown, _ => none

/-- The fields that begin the lines about the target. -/
def lead : Target → List Text
  | setting s => [s.tag]
  | replacements => ["REP".toList]
  | group kind flag => [kind.tag, flag]
  | unnamed kind => [kind.tag]

variable {fields : List Text} {target : Target} {kind : AffixKind} {flag : Flag}

/-- The lines about a target begin with its fields, and have no more if no flag is given. -/
theorem exists_of_of?_eq (h : of? fields = some target) :
    ∃ arguments, fields = target.lead ++ arguments ∧
      ∀ kind, target = .unnamed kind → arguments = [] := by
  cases fields with
  | nil => simp [of?] at h
  | cons tag arguments =>
    cases hdirective : Directive.ofTag tag <;> simp only [of?, hdirective] at h
    case setting s =>
      cases h
      exact ⟨arguments, by rw [Directive.ofTag_eq_setting_iff.1 hdirective]; rfl, by simp⟩
    case replacement =>
      cases h
      exact ⟨arguments, by rw [Directive.ofTag_eq_replacement_iff.1 hdirective]; rfl, by simp⟩
    case affix kind =>
      obtain rfl := Directive.ofTag_eq_affix_iff.1 hdirective
      cases arguments with
      | nil =>
        cases h
        exact ⟨[], rfl, by simp⟩
      | cons flag rest =>
        cases h
        exact ⟨rest, rfl, by simp⟩
    all_goals cases h

theorem of?_setting (s : Setting) (arguments : List Text) :
    of? (s.tag :: arguments) = some (.setting s) := by
  simp only [of?, Directive.ofTag_eq_setting_iff.2 (rfl : s.tag = s.tag)]

theorem of?_replacement (arguments : List Text) :
    of? ("REP".toList :: arguments) = some .replacements := by
  simp only [of?, Directive.ofTag_eq_replacement_iff.2 rfl]

theorem of?_group (kind : AffixKind) (flag : Flag) (arguments : List Text) :
    of? (kind.tag :: flag :: arguments) = some (.group kind flag) := by
  simp only [of?, Directive.ofTag_eq_affix_iff.2 (rfl : kind.tag = kind.tag)]

theorem of?_eq_replacements_iff :
    of? fields = some .replacements ↔ ∃ arguments, fields = "REP".toList :: arguments := by
  constructor
  · intro h
    obtain ⟨arguments, rfl, -⟩ := exists_of_of?_eq h
    exact ⟨arguments, rfl⟩
  · rintro ⟨arguments, rfl⟩
    exact of?_replacement arguments

theorem of?_eq_group_iff :
    of? fields = some (.group kind flag) ↔ ∃ arguments, fields = kind.tag :: flag :: arguments := by
  constructor
  · intro h
    obtain ⟨arguments, rfl, -⟩ := exists_of_of?_eq h
    exact ⟨arguments, rfl⟩
  · rintro ⟨arguments, rfl⟩
    exact of?_group kind flag arguments

end Target

/-! ### Looking up groups -/

namespace AffixTable

variable {table : AffixTable} {kind : AffixKind} {flag : Flag} {g : AffixGroup}

/-- What a kind and flag name is a group of that kind and flag. -/
theorem kind_and_flag_of_group? (h : table.group? kind flag = some g) :
    g.kind = kind ∧ g.flag = flag := by
  simpa using List.find?_some h

@[simp] theorem group?_groups_singleton :
    ({ groups := [g] } : AffixTable).group? g.kind g.flag = some g := by
  simp [group?]

end AffixTable

/-! ### Parts of drafts -/

/-- The lines, given by their fields, that are about the target. -/
def GrammarLine.about (target : Target) (lines : List (List Text)) : List (List Text) :=
  lines.filter fun fields => Target.of? fields == some target

/-- All lines of the block are about the target. -/
def GrammarLine.IsBlock (target : Target) (block : List (List Text)) : Prop :=
  ∀ fields ∈ block, Target.of? fields = some target

namespace GrammarLine

variable {target : Target} {fields : List Text} {lines : List (List Text)}

theorem isBlock_about (target : Target) (lines : List (List Text)) :
    IsBlock target (about target lines) := by
  intro fields hmem
  simpa using (List.mem_filter.1 hmem).2

theorem isBlock_cons_iff :
    IsBlock target (fields :: lines) ↔ Target.of? fields = some target ∧ IsBlock target lines :=
  List.forall_mem_cons

theorem about_cons_pos (h : Target.of? fields = some target) :
    about target (fields :: lines) = fields :: about target lines :=
  List.filter_cons_of_pos (by simp [h])

theorem about_cons_neg (h : Target.of? fields ≠ some target) :
    about target (fields :: lines) = about target lines :=
  List.filter_cons_of_neg (by simpa using h)

theorem about_append (target : Target) (lines lines' : List (List Text)) :
    about target (lines ++ lines') = about target lines ++ about target lines' :=
  List.filter_append lines lines'

end GrammarLine

namespace Draft

/-- The part of the draft that the lines about the target read and write. -/
def part (draft : Draft) : Target → Draft
  | .setting .tryCharacters =>
    { trySeen := draft.trySeen, table := { tryCharacters := draft.table.tryCharacters } }
  | .setting .compoundFlag => { table := { compoundFlag := draft.table.compoundFlag } }
  | .setting .compoundMin =>
    { compoundMinSeen := draft.compoundMinSeen
      table := { compoundMin := draft.table.compoundMin } }
  | .setting .flagEncoding => { table := { flagEncoding := draft.table.flagEncoding } }
  | .setting .charset => { table := { charset := draft.table.charset } }
  | .replacements =>
    { replacementsDeclared := draft.replacementsDeclared
      table := { replacements := draft.table.replacements } }
  | .group kind flag => { table := { groups := (draft.table.group? kind flag).toList } }
  | .unnamed _ => {}

variable {draft next : Draft} {fields : List Text} {target : Target} {kind : AffixKind}
  {flag : Flag}

@[simp] theorem part_empty (target : Target) : part {} target = {} := by
  cases target with
  | setting setting => cases setting <;> rfl
  | _ => rfl

/-- A group is looked up in its part as in the whole. -/
theorem group?_part (draft : Draft) (kind : AffixKind) (flag : Flag) :
    (draft.part (.group kind flag)).table.group? kind flag = draft.table.group? kind flag := by
  rw [part]
  cases hgroup : draft.table.group? kind flag with
  | none => rfl
  | some g =>
    obtain ⟨rfl, rfl⟩ := AffixTable.kind_and_flag_of_group? hgroup
    exact AffixTable.group?_groups_singleton

/-! ### One line -/

/-- A line that is passed over changes nothing. -/
theorem read_of_passed (htarget : Target.of? fields = none) : draft.read fields = .ok draft := by
  cases fields with
  | nil => rfl
  | cons tag arguments =>
    cases hdirective : Directive.ofTag tag with
    | ignored => simp only [read, hdirective]
    | unknown => simp only [read, hdirective]
    | affix kind => cases arguments <;> simp [Target.of?, hdirective] at htarget
    | _ => simp [Target.of?, hdirective] at htarget

theorem read_setting (draft : Draft) (setting : Setting) (argument : Text) :
    draft.read [setting.tag, argument] = draft.readSetting setting argument := by
  simp only [read, Directive.ofTag_eq_setting_iff.2 (rfl : setting.tag = setting.tag)]

/-- The line of a setting cannot be read unless it has just one argument. -/
theorem read_setting_of_length_ne (draft : Draft) (setting : Setting) {arguments : List Text}
    (hlength : arguments.length ≠ 1) :
    draft.read (setting.tag :: arguments) = .error (.argumentCount setting) := by
  simp only [read, Directive.ofTag_eq_setting_iff.2 (rfl : setting.tag = setting.tag)]
  rcases arguments with - | ⟨argument, - | ⟨second, rest⟩⟩
  · rfl
  · exact absurd rfl hlength
  · rfl

theorem read_replacement (draft : Draft) (arguments : List Text) :
    draft.read ("REP".toList :: arguments) = draft.readReplacement arguments := by
  simp only [read, Directive.ofTag_eq_replacement_iff.2 rfl]

private theorem readSetting_part (setting : Setting) (argument : Text) :
    (draft.part (.setting setting)).readSetting setting argument =
      (draft.readSetting setting argument).map (·.part (.setting setting)) := by
  cases setting with
  | tryCharacters => cases hseen : draft.trySeen <;> simp [readSetting, part, hseen, Except.map]
  | compoundFlag =>
    cases hflag : draft.table.compoundFlag <;> simp [readSetting, part, hflag, Except.map]
  | compoundMin =>
    cases hseen : draft.compoundMinSeen with
    | true => simp [readSetting, part, hseen, Except.map]
    | false =>
      cases hvalue : Text.integer? argument <;>
        simp [readSetting, part, hseen, hvalue, Except.map]
  | flagEncoding =>
    cases hname : FlagEncoding.ofName argument <;> simp [readSetting, part, hname, Except.map]
  | charset => rfl

private theorem readReplacement_part (arguments : List Text) :
    (draft.part .replacements).readReplacement arguments =
      (draft.readReplacement arguments).map (·.part .replacements) := by
  simp only [readReplacement, part]
  cases draft.replacementsDeclared with
  | none =>
    rcases arguments with - | ⟨count, - | ⟨second, rest⟩⟩
    · rfl
    · dsimp only
      cases Text.count? count <;> rfl
    · rfl
  | some declared =>
    rcases arguments with - | ⟨pattern, - | ⟨replacement, rest⟩⟩ <;> rfl

/-- A header opens the same group in its part as in the whole. -/
private theorem part_addGroup {g : AffixGroup} (hnew : draft.table.group? g.kind g.flag = none) :
    (draft.part (.group g.kind g.flag)).addGroup g =
      (draft.addGroup g).part (.group g.kind g.flag) := by
  simp only [part, addGroup, AffixTable.group?_addGroup hnew, hnew, and_self, if_true]
  rfl

/-- A rule is added to the same group in its part as in the whole. -/
private theorem part_addRule (rule : Text × Text × Condition) :
    (draft.part (.group kind flag)).addRule kind flag rule =
      (draft.addRule kind flag rule).part (.group kind flag) := by
  simp only [part, addRule, AffixTable.group?_addRule, and_self, if_true]
  cases hgroup : draft.table.group? kind flag with
  | none => rfl
  | some g =>
    obtain ⟨rfl, rfl⟩ := AffixTable.kind_and_flag_of_group? hgroup
    simp [AffixTable.addRule, AffixGroup.withRule]

/-- **A line reads its own part only**: its effect on the part is its effect on the whole. -/
theorem read_part (htarget : Target.of? fields = some target) :
    (draft.part target).read fields = (draft.read fields).map (·.part target) := by
  obtain ⟨arguments, rfl, hunnamed⟩ := Target.exists_of_of?_eq htarget
  cases target with
  | setting setting =>
    by_cases hlength : arguments.length = 1
    · obtain ⟨argument, rfl⟩ := List.length_eq_one_iff.1 hlength
      exact (read_setting _ setting argument).trans ((readSetting_part setting argument).trans
        (congrArg _ (read_setting draft setting argument).symm))
    · rw [Target.lead, List.singleton_append, read_setting_of_length_ne _ _ hlength,
        read_setting_of_length_ne _ _ hlength]
      rfl
  | replacements =>
    exact (read_replacement _ arguments).trans ((readReplacement_part arguments).trans
      (congrArg _ (read_replacement draft arguments).symm))
  | group kind flag =>
    have hlookup := group?_part draft kind flag
    rw [Target.lead, List.cons_append, List.singleton_append]
    cases hgroup : draft.table.group? kind flag with
    | none =>
      rw [read_header hgroup, read_header (hlookup.trans hgroup)]
      cases hheader : readHeader kind flag arguments with
      | error fault => rfl
      | ok g =>
        obtain ⟨rfl, rfl⟩ := kind_and_flag_of_readHeader hheader
        exact congrArg Except.ok (part_addGroup hgroup)
    | some g =>
      have hsome : (draft.table.group? kind flag).isSome = true := by simp [hgroup]
      rw [read_rule hsome, read_rule ((congrArg Option.isSome hlookup).trans hsome)]
      cases readRule kind arguments with
      | error fault => rfl
      | ok rule => exact congrArg Except.ok (part_addRule rule)
  | unnamed kind =>
    rw [hunnamed kind rfl, Target.lead, List.append_nil, read_unnamed, read_unnamed]
    rfl

private theorem part_of_readSetting {setting : Setting} {argument : Text}
    (hread : draft.readSetting setting argument = .ok next) (htarget : target ≠ .setting setting) :
    next.part target = draft.part target := by
  cases setting <;> simp only [readSetting] at hread
  case' tryCharacters => split_ifs at hread
  case' compoundFlag => split_ifs at hread
  case' compoundMin =>
    split_ifs at hread
    split at hread
  case' flagEncoding => split at hread
  -- what is left are the drafts that settings write
  all_goals cases hread
  all_goals
    cases target with
    | setting other => cases other <;> simp_all [part]
    | _ => rfl

private theorem part_of_readReplacement {arguments : List Text}
    (hread : draft.readReplacement arguments = .ok next) (htarget : target ≠ .replacements) :
    next.part target = draft.part target := by
  unfold readReplacement at hread
  split at hread
  · split at hread
    · cases hread
    · cases hread
      cases target with
      | setting other => cases other <;> rfl
      | replacements => exact absurd rfl htarget
      | _ => rfl
  · cases hread
  · cases hread
    cases target with
    | setting other => cases other <;> rfl
    | replacements => exact absurd rfl htarget
    | _ => rfl
  · cases hread

private theorem part_of_addGroup {g : AffixGroup} (hnew : draft.table.group? g.kind g.flag = none)
    (htarget : target ≠ .group g.kind g.flag) :
    (draft.addGroup g).part target = draft.part target := by
  cases target with
  | setting other => cases other <;> rfl
  | replacements => rfl
  | unnamed kind => rfl
  | group kind flag =>
    have hkey : ¬(g.kind = kind ∧ g.flag = flag) := by
      rintro ⟨rfl, rfl⟩
      exact htarget rfl
    simp only [part, addGroup, AffixTable.group?_addGroup hnew, hkey, if_false]

private theorem part_of_addRule (rule : Text × Text × Condition)
    (htarget : target ≠ .group kind flag) :
    (draft.addRule kind flag rule).part target = draft.part target := by
  cases target with
  | setting other => cases other <;> rfl
  | replacements => rfl
  | unnamed kind => rfl
  | group kind' flag' =>
    have hkey : ¬(kind = kind' ∧ flag = flag') := by
      rintro ⟨rfl, rfl⟩
      exact htarget rfl
    simp only [part, addRule, AffixTable.group?_addRule, hkey, if_false]

/-- **A line writes its own part only.** -/
theorem part_of_read (hread : draft.read fields = .ok next)
    (hother : Target.of? fields ≠ some target) : next.part target = draft.part target := by
  cases htarget : Target.of? fields with
  | none =>
    rw [read_of_passed htarget] at hread
    cases hread
    rfl
  | some own =>
    have hne : target ≠ own := fun heq => hother (heq ▸ htarget)
    obtain ⟨arguments, rfl, hunnamed⟩ := Target.exists_of_of?_eq htarget
    cases own with
    | setting setting =>
      by_cases hlength : arguments.length = 1
      · obtain ⟨argument, rfl⟩ := List.length_eq_one_iff.1 hlength
        exact part_of_readSetting ((read_setting draft setting argument).symm.trans hread) hne
      · cases (read_setting_of_length_ne draft setting hlength).symm.trans hread
    | replacements =>
      exact part_of_readReplacement ((read_replacement draft arguments).symm.trans hread) hne
    | group kind flag =>
      rw [Target.lead, List.cons_append, List.singleton_append] at hread
      cases hgroup : draft.table.group? kind flag with
      | none =>
        rw [read_header hgroup, map_eq_ok_iff] at hread
        obtain ⟨g, hheader, rfl⟩ := hread
        obtain ⟨rfl, rfl⟩ := kind_and_flag_of_readHeader hheader
        exact part_of_addGroup hgroup hne
      | some g =>
        rw [read_rule (by simp [hgroup]), map_eq_ok_iff] at hread
        obtain ⟨rule, -, rfl⟩ := hread
        exact part_of_addRule rule hne
    | unnamed kind =>
      rw [hunnamed kind rfl] at hread
      cases (read_unnamed draft kind).symm.trans hread

/-! ### Many lines -/

/-- **The lines about a target make its part by themselves.** -/
theorem readAll_part {lines : List (List Text)} (hread : draft.readAll lines = some next)
    (target : Target) :
    (draft.part target).readAll (GrammarLine.about target lines) = some (next.part target) := by
  induction lines generalizing draft with
  | nil =>
    cases hread
    rfl
  | cons fields lines ih =>
    obtain ⟨mid, hline, hlines⟩ := readAll_cons_eq_some_iff.1 hread
    by_cases htarget : Target.of? fields = some target
    · rw [GrammarLine.about_cons_pos htarget, readAll_cons_eq_some_iff]
      exact ⟨mid.part target, by rw [read_part htarget, hline]; rfl, ih hlines⟩
    · rw [GrammarLine.about_cons_neg htarget, ← part_of_read hline htarget]
      exact ih hlines

/-- **When lines can be read**: the lines about each target can, by themselves. -/
theorem isSome_readAll_iff {lines : List (List Text)} :
    (draft.readAll lines).isSome = true ↔
      ∀ target, ((draft.part target).readAll (GrammarLine.about target lines)).isSome = true := by
  constructor
  · intro h target
    obtain ⟨next, hread⟩ := Option.isSome_iff_exists.1 h
    rw [readAll_part hread]
    rfl
  · intro h
    -- the last line is read after all others, of which its own part knows those about it
    induction lines using List.reverseRecOn with
    | nil => rfl
    | append_singleton lines fields ih =>
      have hlines : (draft.readAll lines).isSome = true := by
        refine ih fun target => ?_
        have hboth := h target
        rw [GrammarLine.about_append, readAll_append] at hboth
        exact Option.isSome_of_isSome_bind hboth
      obtain ⟨mid, hmid⟩ := Option.isSome_iff_exists.1 hlines
      rw [readAll_append, hmid, Option.bind_some, readAll_cons]
      cases htarget : Target.of? fields with
      | none =>
        rw [read_of_passed htarget]
        rfl
      | some target =>
        have hboth := h target
        rw [GrammarLine.about_append, readAll_append, readAll_part hmid, Option.bind_some,
          GrammarLine.about_cons_pos htarget, readAll_cons, read_part htarget] at hboth
        cases hread : mid.read fields with
        | error fault => simp [hread, Except.map, Except.toOption] at hboth
        | ok next => rfl

end Draft

end AffixSpeller
