import AffixSpeller.Proofs.Affix.Groups
import Mathlib.Data.List.Forall2

/-!
# Tables up to the order of rules

Two tables say the same if their groups have the same headers in the same order, and the same rules
in some order. Groups are looked up in both alike, and both grow alike. Adding a rule to a group
changes places with adding another rule, or with adding a group of another kind or flag.

## Main definitions

* `AffixGroup.SameRules`, `AffixTable.SameRules`: equality up to the order of rules within groups.
* `AffixGroup.grow`: what adding a rule to a table does to each of its groups.

## Main results

* `AffixTable.SameRules.group?`: looking up groups.
* `AffixTable.SameRules.addGroup`, `AffixTable.SameRules.addRule`: growing tables.
* `AffixTable.sameRules_addRule_addRule`, `AffixTable.addGroup_addRule`: the order of growing.
-/

namespace AffixSpeller

/-! ### Groups -/

/-- The groups have the same header, and the same rules in some order. -/
structure AffixGroup.SameRules (g h : AffixGroup) : Prop where
  kind_eq : g.kind = h.kind
  flag_eq : g.flag = h.flag
  crossProduct_eq : g.crossProduct = h.crossProduct
  declared_eq : g.declared = h.declared
  rules : g.rules.Perm h.rules

namespace AffixGroup.SameRules

variable {g h k : AffixGroup} {hs ks : List AffixGroup}

theorem refl (g : AffixGroup) : g.SameRules g :=
  ⟨rfl, rfl, rfl, rfl, .refl _⟩

theorem symm (hgh : g.SameRules h) : h.SameRules g :=
  ⟨hgh.kind_eq.symm, hgh.flag_eq.symm, hgh.crossProduct_eq.symm, hgh.declared_eq.symm,
    hgh.rules.symm⟩

theorem trans (hgh : g.SameRules h) (hhk : h.SameRules k) : g.SameRules k :=
  ⟨hgh.kind_eq.trans hhk.kind_eq, hgh.flag_eq.trans hhk.flag_eq,
    hgh.crossProduct_eq.trans hhk.crossProduct_eq, hgh.declared_eq.trans hhk.declared_eq,
    hgh.rules.trans hhk.rules⟩

theorem insertInto (h : List.Forall₂ SameRules hs ks) (g : AffixGroup) :
    List.Forall₂ SameRules (g.insertInto hs) (g.insertInto ks) := by
  induction h with
  | nil => exact .cons (refl g) .nil
  | @cons h k hs ks hhk hsame ih =>
    have hbefore : g.isBefore h = g.isBefore k := by
      simp [isBefore, hhk.kind_eq, hhk.flag_eq]
    rw [AffixGroup.insertInto, AffixGroup.insertInto, hbefore]
    split_ifs
    · exact .cons (refl g) (.cons hhk hsame)
    · exact .cons hhk ih

theorem find? (h : List.Forall₂ SameRules hs ks) (kind : AffixKind) (flag : Flag) :
    Option.Rel SameRules (hs.find? fun g => g.kind == kind && g.flag == flag)
      (ks.find? fun g => g.kind == kind && g.flag == flag) := by
  induction h with
  | nil => exact .none
  | @cons g k _ _ hgk _ ih =>
    rw [List.find?_cons, List.find?_cons, hgk.kind_eq, hgk.flag_eq]
    cases k.kind == kind && k.flag == flag with
    | true => exact .some hgk
    | false => exact ih

/-- The declared numbers are right for all groups on either side. -/
theorem length_eq_declared_iff (h : List.Forall₂ SameRules hs ks) :
    (∀ g ∈ hs, g.rules.length = g.declared) ↔ ∀ k ∈ ks, k.rules.length = k.declared := by
  induction h with
  | nil => simp
  | cons hgk _ ih => simp [ih, hgk.declared_eq, hgk.rules.length_eq]

theorem forall₂_trans {ls : List AffixGroup} (h : List.Forall₂ SameRules hs ks)
    (h' : List.Forall₂ SameRules ks ls) : List.Forall₂ SameRules hs ls := by
  induction h generalizing ls with
  | nil => exact h'
  | cons hgh _ ih =>
    cases h' with
    | cons hhk hrest => exact .cons (hgh.trans hhk) (ih hrest)

end AffixGroup.SameRules

/-! ### Growing groups -/

/-- The group with one more rule, if it is the one of the given kind and flag. -/
def AffixGroup.grow (kind : AffixKind) (flag : Flag) (strip append : Text) (condition : Condition)
    (g : AffixGroup) : AffixGroup :=
  if g.kind = kind ∧ g.flag = flag then g.withRule ⟨kind, strip, append, condition, g.crossProduct⟩
  else g

namespace AffixGroup

variable {kind kind' : AffixKind} {flag flag' : Flag} {strip append strip' append' : Text}
  {condition condition' : Condition} {g h : AffixGroup}

theorem grow_pos (h : g.kind = kind ∧ g.flag = flag) :
    g.grow kind flag strip append condition =
      g.withRule ⟨kind, strip, append, condition, g.crossProduct⟩ :=
  if_pos h

theorem grow_neg (h : ¬(g.kind = kind ∧ g.flag = flag)) :
    g.grow kind flag strip append condition = g :=
  if_neg h

@[simp] theorem kind_grow : (g.grow kind flag strip append condition).kind = g.kind := by
  unfold grow
  split_ifs <;> rfl

@[simp] theorem flag_grow : (g.grow kind flag strip append condition).flag = g.flag := by
  unfold grow
  split_ifs <;> rfl

theorem SameRules.grow (hgh : g.SameRules h) :
    (g.grow kind flag strip append condition).SameRules
      (h.grow kind flag strip append condition) := by
  unfold AffixGroup.grow
  rw [hgh.kind_eq, hgh.flag_eq, hgh.crossProduct_eq]
  split_ifs
  · exact ⟨hgh.kind_eq, hgh.flag_eq, hgh.crossProduct_eq, hgh.declared_eq,
      hgh.rules.append_right _⟩
  · exact hgh

/-- Two rules may come to a group in either order. -/
theorem sameRules_grow_grow :
    ((g.grow kind flag strip append condition).grow kind' flag' strip' append'
        condition').SameRules
      ((g.grow kind' flag' strip' append' condition').grow kind flag strip append condition) := by
  by_cases hkey : g.kind = kind ∧ g.flag = flag
  · by_cases hkey' : g.kind = kind' ∧ g.flag = flag'
    · rw [grow_pos hkey, grow_pos hkey', grow_pos, grow_pos]
      · refine ⟨rfl, rfl, rfl, rfl, ?_⟩
        simp only [withRule, List.append_assoc]
        exact (List.Perm.swap _ _ _).append_left _
      · exact hkey
      · exact hkey'
    · rw [grow_neg hkey', grow_neg (by simpa using hkey')]
      exact .refl _
  · have houter : ¬((g.grow kind' flag' strip' append' condition').kind = kind ∧
        (g.grow kind' flag' strip' append' condition').flag = flag) := by simpa using hkey
    rw [grow_neg hkey, grow_neg houter]
    exact .refl _

/-- Groups keep their places when they grow. -/
theorem map_grow_insertInto (g : AffixGroup) (hs : List AffixGroup) :
    (g.insertInto hs).map (·.grow kind flag strip append condition) =
      (g.grow kind flag strip append condition).insertInto
        (hs.map (·.grow kind flag strip append condition)) := by
  induction hs with
  | nil => rfl
  | cons k ks ih =>
    have hbefore : (g.grow kind flag strip append condition).isBefore
        (k.grow kind flag strip append condition) = g.isBefore k := by
      simp [isBefore]
    rw [List.map_cons, AffixGroup.insertInto, AffixGroup.insertInto, hbefore]
    split_ifs
    · rfl
    · rw [List.map_cons, ih]

/-- A group that does not grow is put in its place among groups that do. -/
theorem insertInto_map_grow (h : ¬(g.kind = kind ∧ g.flag = flag)) (hs : List AffixGroup) :
    g.insertInto (hs.map (·.grow kind flag strip append condition)) =
      (g.insertInto hs).map (·.grow kind flag strip append condition) := by
  rw [map_grow_insertInto, grow_neg h]

end AffixGroup

theorem AffixTable.addRule_eq (table : AffixTable) (kind : AffixKind) (flag : Flag)
    (strip append : Text) (condition : Condition) :
    table.addRule kind flag strip append condition =
      { table with groups := table.groups.map (·.grow kind flag strip append condition) } := by
  simp [addRule, AffixGroup.grow, AffixGroup.withRule]

/-- A rule of a new group is added to that group alone. -/
theorem AffixTable.addRule_addGroup {table : AffixTable} {g : AffixGroup}
    (hnew : table.group? g.kind g.flag = none) (strip append : Text) (condition : Condition) :
    (table.addGroup g).addRule g.kind g.flag strip append condition =
      table.addGroup (g.withRule ⟨g.kind, strip, append, condition, g.crossProduct⟩) := by
  have hothers : table.groups.map (·.grow g.kind g.flag strip append condition) = table.groups := by
    refine (List.map_congr_left fun h hmem => AffixGroup.grow_neg fun hkey => ?_).trans
      (List.map_id _)
    exact absurd (List.find?_eq_none.1 hnew h hmem) (by simp [hkey])
  simp only [addRule_eq, addGroup, AffixGroup.map_grow_insertInto, hothers,
    AffixGroup.grow_pos (⟨rfl, rfl⟩ : g.kind = g.kind ∧ g.flag = g.flag)]

/-! ### Tables -/

/-- The tables differ in the order of rules within groups only. -/
structure AffixTable.SameRules (table other : AffixTable) : Prop where
  groups : List.Forall₂ AffixGroup.SameRules table.groups other.groups
  settings : other = { table with groups := other.groups }

namespace AffixTable.SameRules

variable {table other third : AffixTable} {kind : AffixKind} {flag : Flag}

theorem refl (table : AffixTable) : table.SameRules table :=
  ⟨List.forall₂_same.2 fun g _ => .refl g, rfl⟩

theorem symm (h : table.SameRules other) : other.SameRules table where
  groups := (List.Forall₂.flip h.groups).imp fun _ _ => AffixGroup.SameRules.symm
  settings := by rw [h.settings]

theorem trans (h : table.SameRules other) (h' : other.SameRules third) :
    table.SameRules third where
  groups := AffixGroup.SameRules.forall₂_trans h.groups h'.groups
  settings := by
    rw [h'.settings, h.settings]

/-- Looking up a group gives the same group up to the order of its rules. -/
theorem group? (h : table.SameRules other) (kind : AffixKind) (flag : Flag) :
    Option.Rel AffixGroup.SameRules (table.group? kind flag) (other.group? kind flag) :=
  AffixGroup.SameRules.find? h.groups kind flag

theorem isSome_group?_eq (h : table.SameRules other) (kind : AffixKind) (flag : Flag) :
    (table.group? kind flag).isSome = (other.group? kind flag).isSome :=
  isSome_eq_of_rel (h.group? kind flag)

theorem addGroup (h : table.SameRules other) (g : AffixGroup) :
    (table.addGroup g).SameRules (other.addGroup g) where
  groups := AffixGroup.SameRules.insertInto h.groups g
  settings := by
    rw [h.settings]
    rfl

theorem addRule (h : table.SameRules other) (kind : AffixKind) (flag : Flag)
    (strip append : Text) (condition : Condition) :
    (table.addRule kind flag strip append condition).SameRules
      (other.addRule kind flag strip append condition) where
  groups := by
    rw [addRule_eq, addRule_eq, List.forall₂_map_left_iff, List.forall₂_map_right_iff]
    exact h.groups.imp fun g k => AffixGroup.SameRules.grow
  settings := by
    rw [h.settings]
    rfl

end AffixTable.SameRules

namespace AffixTable

variable (table : AffixTable) {kind kind' : AffixKind} {flag flag' : Flag}

/-- A new group of another kind or flag does not care for a rule. -/
theorem addGroup_addRule {g : AffixGroup} (hg : ¬(g.kind = kind ∧ g.flag = flag))
    (strip append : Text) (condition : Condition) :
    (table.addRule kind flag strip append condition).addGroup g =
      (table.addGroup g).addRule kind flag strip append condition := by
  simp only [addRule_eq, addGroup, AffixGroup.insertInto_map_grow hg]

/-- Two rules may be added in either order. -/
theorem sameRules_addRule_addRule (strip append strip' append' : Text)
    (condition condition' : Condition) :
    ((table.addRule kind flag strip append condition).addRule kind' flag' strip' append'
        condition').SameRules
      ((table.addRule kind' flag' strip' append' condition').addRule kind flag strip append
        condition) where
  groups := by
    simp only [addRule_eq, List.map_map, List.forall₂_map_left_iff, List.forall₂_map_right_iff]
    exact List.forall₂_same.2 fun g _ => AffixGroup.sameRules_grow_grow
  settings := rfl

end AffixTable

end AffixSpeller
