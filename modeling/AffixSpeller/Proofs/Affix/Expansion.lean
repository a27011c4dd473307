import AffixSpeller.Affix.Expansion
import AffixSpeller.Proofs.Affix.WellFormed
import AffixSpeller.Proofs.Text.AppendNew
import Mathlib.Data.List.Basic

/-!
# What flags license

A text is among the forms of a word if and only if some flag of the word names a group with a rule
that makes it. A rule that makes a form takes its strip text off one end of the word and puts its
append text there. The flags that lead nowhere are those that name no group of either kind and are
not the compound flag.

## Main definitions

* `AffixKind.attach`: a stem with an affix at the end that rules of a kind work at.

## Main results

* `AffixRule.apply_eq_some_iff`: when a rule makes a form, and which one.
* `AffixTable.mem_forms_expand`: the forms that flags license.
* `AffixTable.unknown_expand`: the flags that lead nowhere.
* `AffixTable.unknown_expand_eq_nil_iff`: when there are none.
* `AffixTable.WellFormed.solid_of_mem_forms`: forms of solid words are solid.
-/

namespace AffixSpeller

/-- The stem with the affix at the end that such rules work at. -/
def AffixKind.attach : AffixKind → Text → Text → Text
  | leading, affix, stem => affix ++ stem
  | trailing, affix, stem => stem ++ affix

@[simp] theorem AffixKind.solid_attach {kind : AffixKind} {affix stem : Text} :
    Text.Solid (kind.attach affix stem) ↔ Text.Solid affix ∧ Text.Solid stem := by
  cases kind <;> simp [attach, and_comm]

namespace AffixRule

variable {rule : AffixRule} {word form : Text}

/-- **When a rule makes a form.** The condition accepts the word, the word carries the strip text
at the rule's end, and the append text in its place leaves a text that is not empty. -/
theorem apply_eq_some_iff :
    rule.apply word = some form ↔
      rule.condition.accepts word rule.kind.anchor = true ∧ form ≠ [] ∧
        ∃ stem, word = rule.kind.attach rule.strip stem ∧
          form = rule.kind.attach rule.append stem := by
  unfold apply
  cases hkind : rule.kind with
  | leading =>
    split_ifs with hcond
    · simp only [hcond, Option.filter_eq_some_iff, Option.map_eq_some_iff, AffixKind.attach,
        List.isPrefixOf?_eq_some_iff_append_eq, true_and]
      constructor
      · rintro ⟨⟨stem, rfl, rfl⟩, hne⟩
        exact ⟨by simpa using hne, stem, rfl, rfl⟩
      · rintro ⟨hne, stem, rfl, rfl⟩
        exact ⟨⟨stem, rfl, rfl⟩, by simpa using hne⟩
    · simp [hcond]
  | trailing =>
    split_ifs with hcond
    · simp only [hcond, Option.filter_eq_some_iff, Option.map_eq_some_iff, AffixKind.attach,
        List.isSuffixOf?_eq_some_iff_append_eq, true_and]
      constructor
      · rintro ⟨⟨stem, rfl, rfl⟩, hne⟩
        exact ⟨by simpa using hne, stem, rfl, rfl⟩
      · rintro ⟨hne, stem, rfl, rfl⟩
        exact ⟨⟨stem, rfl, rfl⟩, by simpa using hne⟩
    · simp [hcond]

theorem WellFormed.solid_apply {kind : AffixKind} {crossProduct : Bool}
    (h : rule.WellFormed kind crossProduct) (hword : Text.Solid word)
    (hform : rule.apply word = some form) : Text.Solid form := by
  obtain ⟨-, -, stem, rfl, rfl⟩ := apply_eq_some_iff.1 hform
  simp only [AffixKind.solid_attach] at hword ⊢
  exact ⟨h.solid_append, hword.2⟩

end AffixRule

namespace AffixTable

variable {table : AffixTable} {word form : Text} {flag : Flag} {flags : List Flag}

theorem mem_rulesOf {rule : AffixRule} :
    rule ∈ table.rulesOf flag ↔
      ∃ kind g, table.group? kind flag = some g ∧ rule ∈ g.rules := by
  have hrules (kind : AffixKind) :
      rule ∈ (((table.group? kind flag).map (·.rules)).getD []) ↔
        ∃ g, table.group? kind flag = some g ∧ rule ∈ g.rules := by
    cases table.group? kind flag <;> simp
  simp only [rulesOf, groupsOf, List.mem_flatMap, List.mem_cons, List.not_mem_nil, or_false]
  constructor
  · rintro ⟨_, rfl | rfl, h⟩
    · exact ⟨.leading, (hrules _).1 h⟩
    · exact ⟨.trailing, (hrules _).1 h⟩
  · rintro ⟨kind, h⟩
    refine ⟨table.group? kind flag, ?_, (hrules kind).2 h⟩
    cases kind <;> simp

/-- No group is found for a flag just when the table does not know the flag. -/
@[simp] theorem all_isNone_groupsOf :
    (table.groupsOf flag).all Option.isNone = !table.knowsFlag flag := by
  simp [groupsOf, knowsFlag]

theorem rulesOf_eq_nil (h : table.knowsFlag flag = false) : table.rulesOf flag = [] := by
  simp only [knowsFlag, Bool.or_eq_false_iff, Option.isSome_eq_false_iff,
    Option.isNone_iff_eq_none] at h
  simp [rulesOf, groupsOf, h]

/-- One more flag adds the forms of its rules, whether or not it names a group. -/
theorem forms_expandFlag (expansion : Expansion) :
    (table.expandFlag word expansion flag).forms =
      ((table.rulesOf flag).filterMap (·.apply word)).foldl appendNew expansion.forms := by
  rw [expandFlag, all_isNone_groupsOf]
  cases hknows : table.knowsFlag flag with
  | true => rfl
  | false =>
    rw [rulesOf_eq_nil hknows]
    split_ifs <;> rfl

theorem forms_expand :
    (table.expand word flags).forms =
      ((flags.flatMap table.rulesOf).filterMap (·.apply word)).eraseDups := by
  have hfold (expansion : Expansion) :
      (flags.foldl (table.expandFlag word) expansion).forms =
        ((flags.flatMap table.rulesOf).filterMap (·.apply word)).foldl appendNew
          expansion.forms := by
    induction flags generalizing expansion with
    | nil => rfl
    | cons flag flags ih =>
      rw [List.foldl_cons, ih, forms_expandFlag, List.flatMap_cons, List.filterMap_append,
        List.foldl_append]
  rw [expand, hfold, foldl_appendNew_nil]

/-- **What flags license.** A text is a form of the word if and only if a rule of a group that one
of the flags names makes it. -/
theorem mem_forms_expand :
    form ∈ (table.expand word flags).forms ↔
      ∃ flag ∈ flags, ∃ kind g, table.group? kind flag = some g ∧
        ∃ rule ∈ g.rules, rule.apply word = some form := by
  rw [forms_expand, List.mem_eraseDups, List.mem_filterMap]
  simp only [List.mem_flatMap, mem_rulesOf]
  constructor
  · rintro ⟨rule, ⟨flag, hflag, kind, g, hg, hrule⟩, happly⟩
    exact ⟨flag, hflag, kind, g, hg, rule, hrule, happly⟩
  · rintro ⟨flag, hflag, kind, g, hg, rule, hrule, happly⟩
    exact ⟨rule, ⟨flag, hflag, kind, g, hg, hrule⟩, happly⟩

/-- A flag leads nowhere if it names no group of either kind and is not the compound flag. -/
theorem isUnknownFlag_iff :
    table.isUnknownFlag flag = true ↔
      (table.group? .leading flag = none ∧ table.group? .trailing flag = none) ∧
        table.compoundFlag ≠ some flag := by
  simp [isUnknownFlag, knowsFlag]

theorem unknown_expandFlag (expansion : Expansion) :
    (table.expandFlag word expansion flag).unknown =
      expansion.unknown ++ if table.isUnknownFlag flag then [⟨flag, word⟩] else [] := by
  rw [expandFlag, all_isNone_groupsOf, isUnknownFlag]
  cases table.knowsFlag flag with
  | true => simp [Expansion.addRules]
  | false =>
    by_cases hcompound : table.compoundFlag = some flag
    · simp [hcompound]
    · simp [hcompound]

/-- **The flags that lead nowhere** are reported in their order, as often as they come. -/
theorem unknown_expand :
    (table.expand word flags).unknown =
      (flags.filter table.isUnknownFlag).map fun flag => ⟨flag, word⟩ := by
  have hfold (expansion : Expansion) :
      (flags.foldl (table.expandFlag word) expansion).unknown =
        expansion.unknown ++ (flags.filter table.isUnknownFlag).map fun flag => ⟨flag, word⟩ := by
    induction flags generalizing expansion with
    | nil => simp
    | cons flag flags ih =>
      rw [List.foldl_cons, ih, unknown_expandFlag, List.append_assoc, List.filter_cons]
      split_ifs <;> rfl
  rw [expand, hfold, List.nil_append]

theorem isUnknownFlag_eq_false_iff :
    table.isUnknownFlag flag = false ↔
      table.compoundFlag = some flag ∨ ∃ kind g, table.group? kind flag = some g := by
  have hkind : (∃ kind g, table.group? kind flag = some g) ↔
      ¬(table.group? .leading flag = none ∧ table.group? .trailing flag = none) := by
    simp only [not_and_or, Option.ne_none_iff_exists']
    constructor
    · rintro ⟨kind | kind, h⟩
      · exact .inl h
      · exact .inr h
    · rintro (h | h)
      · exact ⟨.leading, h⟩
      · exact ⟨.trailing, h⟩
  rw [← Bool.not_eq_true, isUnknownFlag_iff, hkind]
  tauto

/-- An expansion reports nothing if no flag leads nowhere. -/
theorem unknown_expand_eq_nil_iff :
    (table.expand word flags).unknown = [] ↔ ∀ flag ∈ flags, table.isUnknownFlag flag = false := by
  rw [unknown_expand, List.map_eq_nil_iff, List.filter_eq_nil_iff]
  simp only [Bool.not_eq_true]

/-- A group that a flag names has rules that agree with its header. -/
theorem WellFormed.rule (h : table.WellFormed) {kind : AffixKind} {g : AffixGroup}
    (hg : table.group? kind flag = some g) {rule : AffixRule} (hrule : rule ∈ g.rules) :
    rule.WellFormed kind g.crossProduct := by
  obtain ⟨hkind, -⟩ : g.kind = kind ∧ g.flag = flag := by
    simpa using List.find?_some hg
  exact hkind ▸ h.rules g (List.mem_of_find?_eq_some hg) rule hrule

theorem WellFormed.solid_of_mem_forms (h : table.WellFormed) (hword : Text.Solid word)
    (hform : form ∈ (table.expand word flags).forms) : Text.Solid form := by
  obtain ⟨flag, -, kind, g, hg, rule, hrule, happly⟩ := mem_forms_expand.1 hform
  exact (h.rule hg hrule).solid_apply hword happly

end AffixTable

end AffixSpeller
