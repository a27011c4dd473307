import AffixSpeller.Proofs.Affix.SameRules

/-!
# The order of rules

The rules of a group may be declared in any order. A rule line can change places with the lines
after it: both orders can be read or neither can, and what they lead to differs in the order of
rules within groups only. So can two rule lines of one group, whatever stands between them.

## Main definitions

* `Draft.SameRules`, `Draft.SameOutcome`: drafts are equal up to the order of rules; reading fails
  twice, or leads to such drafts.
* `GrammarLine.RulesReordered`: lines differ in the order of rule lines within groups.

## Main results

* `Draft.SameRules.read`: lines respect equality up to the order of rules.
* `Draft.sameOutcome_read_addRule`: adding a rule changes places with any line.
* `Draft.sameOutcome_move`, `Draft.sameOutcome_swap`: rule lines change places with others.
* `AffixTable.sameRules_of_parse`: the tables of reordered grammars.
-/

namespace AffixSpeller

/-- The drafts differ in the order of rules within groups only. -/
structure Draft.SameRules (draft other : Draft) : Prop where
  table : draft.table.SameRules other.table
  rest : other = { draft with table := other.table }

namespace Draft

variable {draft other third next : Draft} {kind : AffixKind} {flag : Flag} {fields : List Text}

namespace SameRules

theorem refl (draft : Draft) : draft.SameRules draft :=
  ⟨.refl _, rfl⟩

theorem symm (h : draft.SameRules other) : other.SameRules draft :=
  ⟨h.table.symm, by rw [h.rest]⟩

theorem trans (h : draft.SameRules other) (h' : other.SameRules third) :
    draft.SameRules third :=
  ⟨h.table.trans h'.table, by rw [h'.rest, h.rest]⟩

theorem addGroup (h : draft.SameRules other) (g : AffixGroup) :
    (draft.addGroup g).SameRules (other.addGroup g) :=
  ⟨h.table.addGroup g, by rw [h.rest]; rfl⟩

theorem addRule (h : draft.SameRules other) (kind : AffixKind) (flag : Flag)
    (rule : Text × Text × Condition) :
    (draft.addRule kind flag rule).SameRules (other.addRule kind flag rule) :=
  ⟨h.table.addRule kind flag _ _ _, by rw [h.rest]; rfl⟩

theorem withGroups {groups : List AffixGroup}
    (h : List.Forall₂ AffixGroup.SameRules draft.table.groups groups) :
    draft.SameRules (draft.withGroups groups) :=
  ⟨⟨h, rfl⟩, rfl⟩

theorem eq_withGroups (h : draft.SameRules other) :
    other = draft.withGroups other.table.groups := by
  rw [h.rest]
  exact congrArg (fun table => { draft with table }) h.table.settings

end SameRules

/-! ### Lines -/

/-- Reading fails twice, or leads to drafts that differ in the order of rules only. -/
def SameOutcome (x y : Option Draft) : Prop :=
  Option.Rel SameRules x y

namespace SameOutcome

variable {x y z : Option Draft}

theorem refl (x : Option Draft) : SameOutcome x x := by
  cases x with
  | none => exact .none
  | some draft => exact .some (.refl draft)

theorem symm (h : SameOutcome x y) : SameOutcome y x := by
  cases h with
  | none => exact .none
  | some h => exact .some h.symm

theorem trans (h : SameOutcome x y) (h' : SameOutcome y z) : SameOutcome x z := by
  cases h with
  | none => exact h'
  | some h =>
    cases h' with
    | some h' => exact .some (h.trans h')

theorem bind {α : Type} {r : α → α → Prop} {f g : Draft → Option α} (h : SameOutcome x y)
    (hfg : ∀ draft other, draft.SameRules other → Option.Rel r (f draft) (g other)) :
    Option.Rel r (x.bind f) (y.bind g) := by
  cases h with
  | none => exact .none
  | some h => exact hfg _ _ h

end SameOutcome

/-- Drafts made in the same way from one result have the same outcome. -/
private theorem sameOutcome_map {ε α : Type} {f g : α → Draft} (r : Except ε α)
    (h : ∀ a, (f a).SameRules (g a)) :
    SameOutcome (r.map f).toOption (r.map g).toOption := by
  cases r with
  | error e => exact .none
  | ok a => exact .some (h a)

/-- **Lines respect equality up to the order of rules.** -/
theorem SameRules.read (h : draft.SameRules other) (fields : List Text) :
    SameOutcome (draft.read fields).toOption (other.read fields).toOption := by
  obtain hother | ⟨kind, rfl⟩ | ⟨kind, flag, arguments, rfl⟩ := fields_cases fields
  · rw [h.eq_withGroups, read_withGroups hother]
    cases hread : draft.read fields with
    | error fault => exact .none
    | ok next =>
      refine .some (.withGroups ?_)
      rw [groups_of_read hother hread]
      exact h.table.groups
  · rw [read_unnamed, read_unnamed]
    exact .none
  · have hsome := h.table.isSome_group?_eq kind flag
    cases hgroup : draft.table.group? kind flag with
    | none =>
      have hnone : other.table.group? kind flag = none := by simpa [hgroup] using hsome.symm
      rw [read_header hgroup, read_header hnone]
      exact sameOutcome_map _ h.addGroup
    | some g =>
      have hgroup : (draft.table.group? kind flag).isSome = true := by simp [hgroup]
      rw [read_rule hgroup, read_rule (hsome.symm.trans hgroup)]
      exact sameOutcome_map _ (h.addRule kind flag)

theorem SameRules.readAll (h : draft.SameRules other) (lines : List (List Text)) :
    SameOutcome (draft.readAll lines) (other.readAll lines) := by
  induction lines generalizing draft other with
  | nil => exact .some h
  | cons fields lines ih =>
    rw [readAll_cons, readAll_cons]
    exact (h.read fields).bind fun _ _ => ih

/-- **A rule changes places with a line.** If its group is there already, it can be added before
the line or after it. -/
theorem sameOutcome_read_addRule (hgroup : (draft.table.group? kind flag).isSome = true)
    (rule : Text × Text × Condition) (fields : List Text) :
    SameOutcome ((draft.addRule kind flag rule).read fields).toOption
      ((draft.read fields).map (·.addRule kind flag rule)).toOption := by
  obtain hother | ⟨kind', rfl⟩ | ⟨kind', flag', arguments, rfl⟩ := fields_cases fields
  · have hadd : draft.addRule kind flag rule =
        draft.withGroups (draft.addRule kind flag rule).table.groups := rfl
    rw [hadd, read_withGroups hother]
    cases hread : draft.read fields with
    | error fault => exact .none
    | ok next =>
      have hnext : next.addRule kind flag rule =
          next.withGroups (draft.addRule kind flag rule).table.groups := by
        simp only [addRule, AffixTable.addRule, withGroups, groups_of_read hother hread]
      simp only [Except.map, hnext]
      exact .refl _
  · rw [read_unnamed, read_unnamed]
    exact .none
  · have hsome : ((draft.addRule kind flag rule).table.group? kind' flag').isSome =
        (draft.table.group? kind' flag').isSome := isSome_group?_addRule rule
    cases hline : draft.table.group? kind' flag' with
    | none =>
      have hnone : (draft.addRule kind flag rule).table.group? kind' flag' = none := by
        simpa [hline] using hsome
      rw [read_header hline, read_header hnone]
      cases hheader : readHeader kind' flag' arguments with
      | error fault => exact .none
      | ok g =>
        obtain ⟨rfl, rfl⟩ := kind_and_flag_of_readHeader hheader
        have hkey : ¬(g.kind = kind ∧ g.flag = flag) := by
          rintro ⟨rfl, rfl⟩
          simp [hline] at hgroup
        simp only [Except.map, addGroup, addRule, AffixTable.addGroup_addRule _ hkey]
        exact .refl _
    | some g =>
      have hline : (draft.table.group? kind' flag').isSome = true := by simp [hline]
      rw [read_rule hline, read_rule (hsome.trans hline)]
      cases readRule kind' arguments with
      | error fault => exact .none
      | ok rule' => exact .some ⟨AffixTable.sameRules_addRule_addRule _ _ _ _ _ _ _, rfl⟩

/-- A rule line changes places with the next line. -/
private theorem sameOutcome_cons_cons (hgroup : (draft.table.group? kind flag).isSome = true)
    (arguments fields : List Text) (lines : List (List Text)) :
    SameOutcome (draft.readAll ((kind.tag :: flag :: arguments) :: fields :: lines))
      (draft.readAll (fields :: (kind.tag :: flag :: arguments) :: lines)) := by
  have hpair : SameOutcome
      ((draft.read (kind.tag :: flag :: arguments)).toOption.bind
        fun mid => (mid.read fields).toOption)
      ((draft.read fields).toOption.bind
        fun mid => (mid.read (kind.tag :: flag :: arguments)).toOption) := by
    rw [read_rule hgroup]
    cases hread : draft.read fields with
    | error fault =>
      cases readRule kind arguments with
      | error fault => exact .none
      | ok rule =>
        have hswap := sameOutcome_read_addRule hgroup rule fields
        rwa [hread] at hswap
    | ok next =>
      -- the group is still there behind the other line, so the rule line is one there too
      have hrule := read_rule (isSome_group?_of_read hread hgroup) arguments
      simp only [Except.toOption, Option.bind_some, hrule]
      cases readRule kind arguments with
      | error fault => exact .none
      | ok rule =>
        have hswap := sameOutcome_read_addRule hgroup rule fields
        rwa [hread] at hswap
  simp only [readAll_cons, ← Option.bind_assoc]
  exact hpair.bind fun _ _ hsame => hsame.readAll lines

/-- **A rule line changes places with the lines after it.** -/
theorem sameOutcome_move (hgroup : (draft.table.group? kind flag).isSome = true)
    (arguments : List Text) (lines : List (List Text)) :
    SameOutcome (draft.readAll ((kind.tag :: flag :: arguments) :: lines))
      (draft.readAll (lines ++ [kind.tag :: flag :: arguments])) := by
  induction lines generalizing draft with
  | nil => exact .refl _
  | cons fields lines ih =>
    refine (sameOutcome_cons_cons hgroup arguments fields lines).trans ?_
    rw [List.cons_append, readAll_cons, readAll_cons]
    cases hread : draft.read fields with
    | error fault => exact .none
    | ok next => exact ih (isSome_group?_of_read hread hgroup)

/-- Two rule lines of one group change places, whatever stands between them. -/
theorem sameOutcome_swap (hgroup : (draft.table.group? kind flag).isSome = true)
    (first second : List Text) (between after : List (List Text)) :
    SameOutcome
      (draft.readAll ((kind.tag :: flag :: first) :: between ++
        (kind.tag :: flag :: second) :: after))
      (draft.readAll ((kind.tag :: flag :: second) :: between ++
        (kind.tag :: flag :: first) :: after)) := by
  suffices h : SameOutcome
      (draft.readAll ((kind.tag :: flag :: first) :: (between ++ [kind.tag :: flag :: second])))
      (draft.readAll ((kind.tag :: flag :: second) :: (between ++ [kind.tag :: flag :: first]))) by
    have hafter : SameOutcome _ _ := h.bind fun _ _ hsame => hsame.readAll after
    simpa [← readAll_append] using hafter
  -- both orders lead to the lines between, then the second line, then the first
  refine (sameOutcome_move hgroup first _).trans (SameOutcome.symm ?_)
  have hsecond := (sameOutcome_move hgroup second between).bind
    fun _ _ hsame => hsame.readAll [kind.tag :: flag :: first]
  rwa [← readAll_append, ← readAll_append] at hsecond

end Draft

/-! ### Grammars -/

/-- The fields are those of a line of the group of the kind and flag: its header or a rule. -/
def GrammarLine.IsOfGroup (kind : AffixKind) (flag : Flag) (fields : List Text) : Prop :=
  ∃ arguments, fields = kind.tag :: flag :: arguments

/-- The lines, given by their fields, differ in the order of rule lines within groups: after the
header of a group, lines of that group have changed places. -/
inductive GrammarLine.RulesReordered : List (List Text) → List (List Text) → Prop
  | refl (lines : List (List Text)) : RulesReordered lines lines
  | swap {kind : AffixKind} {flag : Flag} {header first second : List Text}
      (before between after : List (List Text)) (hmem : header ∈ before)
      (hheader : IsOfGroup kind flag header) (hfirst : IsOfGroup kind flag first)
      (hsecond : IsOfGroup kind flag second) :
      RulesReordered (before ++ first :: between ++ second :: after)
        (before ++ second :: between ++ first :: after)
  | trans {lines lines' lines'' : List (List Text)} (h : RulesReordered lines lines')
      (h' : RulesReordered lines' lines'') : RulesReordered lines lines''

/-- Reordered lines have the same outcome. -/
theorem Draft.sameOutcome_of_reordered {lines lines' : List (List Text)}
    (h : GrammarLine.RulesReordered lines lines') (draft : Draft) :
    SameOutcome (draft.readAll lines) (draft.readAll lines') := by
  induction h with
  | refl => exact .refl _
  | swap before between after hmem hheader hfirst hsecond =>
    obtain ⟨first, rfl⟩ := hfirst
    obtain ⟨second, rfl⟩ := hsecond
    obtain ⟨header, rfl⟩ := hheader
    rw [List.append_assoc, List.append_assoc, readAll_append, readAll_append]
    cases hbefore : draft.readAll before with
    | none => exact .none
    | some mid =>
      have hgroup := isSome_group?_of_readAll hbefore (Or.inr ⟨header, hmem⟩)
      exact sameOutcome_swap hgroup first second between after
  | trans _ _ ih ih' => exact ih.trans ih'

/-- The declared numbers are right for both drafts or for neither. -/
theorem Draft.SameRules.finish {draft other : Draft} (h : draft.SameRules other) (file : Text) :
    Option.Rel AffixTable.SameRules (draft.finish file).toOption (other.finish file).toOption := by
  have hiff : draft.finish file = .ok draft.table ↔ other.finish file = .ok other.table := by
    have hgroups := AffixGroup.SameRules.length_eq_declared_iff h.table.groups
    have hdeclared : other.replacementsDeclared = draft.replacementsDeclared := by rw [h.rest]
    have hreplacements : other.table.replacements = draft.table.replacements := by
      rw [h.table.settings]
    rw [finish_eq_ok_iff, finish_eq_ok_iff, hgroups, hdeclared, hreplacements]
    simp
  cases hdraft : draft.finish file with
  | ok table =>
    obtain rfl := table_eq_of_finish hdraft
    rw [hiff.1 hdraft]
    exact .some h.table
  | error e =>
    cases hother : other.finish file with
    | ok table =>
      obtain rfl := table_eq_of_finish hother
      simp [hiff.2 hother] at hdraft
    | error e' => exact .none

/-- **The tables of reordered grammars.** One grammar is read if and only if the other is, and the
tables differ in the order of rules within groups only. -/
theorem AffixTable.sameRules_of_parse {grammar grammar' : Text}
    (h : GrammarLine.RulesReordered (GrammarLine.fieldsOf grammar) (GrammarLine.fieldsOf grammar'))
    (file : Text) :
    Option.Rel AffixTable.SameRules (AffixTable.parse grammar file).result.toOption
      (AffixTable.parse grammar' file).result.toOption := by
  rw [AffixTable.parse_result_toOption, AffixTable.parse_result_toOption]
  exact (Draft.sameOutcome_of_reordered h {}).bind fun _ _ hsame => hsame.finish file

end AffixSpeller
