import AffixSpeller.Proofs.Affix.Groups
import Mathlib.Data.Char
import Mathlib.Data.List.Lex
import Mathlib.Data.List.Perm.Basic
import Mathlib.Data.Prod.Lex

/-!
# The order of groups

The groups of a table stand in the order of their tags and flags, and no two of them have both in
common. Lines keep this up wherever a new group is put. So a table is determined by what its kinds
and flags name, and the first group of some sort is the smallest one.

## Main definitions

* `AffixGroup.rank`: the tag and the flag of a group, tags being compared first.
* `AffixTable.Ordered`: the groups stand in the order of their ranks.

## Main results

* `AffixGroup.isBefore_iff`: a group stands before those of larger rank.
* `Draft.ordered_readAll`: lines keep the groups in order.
* `AffixTable.Ordered.groups_eq`: the groups are determined by what kinds and flags name.
-/

namespace AffixSpeller

/-! ### Ranks -/

/-- The place of a kind and flag: tags are compared first, then flags. -/
def AffixKind.rank (kind : AffixKind) (flag : Flag) : Text ×ₗ Text :=
  toLex (kind.tag, flag)

theorem AffixKind.rank_inj {kind kind' : AffixKind} {flag flag' : Flag} :
    kind.rank flag = kind'.rank flag' ↔ kind = kind' ∧ flag = flag' := by
  have htag : kind.tag = kind'.tag ↔ kind = kind' := by
    cases kind <;> cases kind' <;> decide
  simp [rank, htag]

namespace AffixGroup

/-- The tag and the flag of the group, tags being compared first. -/
def rank (g : AffixGroup) : Text ×ₗ Text :=
  g.kind.rank g.flag

/-- A group stands before those of larger rank. -/
theorem isBefore_iff {g h : AffixGroup} : g.isBefore h = true ↔ g.rank < h.rank := by
  have htags : AffixKind.leading.tag < AffixKind.trailing.tag := by decide
  rw [rank, rank, AffixKind.rank, AffixKind.rank, Prod.Lex.toLex_lt_toLex]
  cases hg : g.kind <;> cases hh : h.kind <;>
    simp [isBefore, hg, hh, htags, htags.ne', htags.not_gt]

/-- Putting a group in its place adds that group and no other. -/
theorem perm_insertInto (g : AffixGroup) (hs : List AffixGroup) :
    (g.insertInto hs).Perm (g :: hs) := by
  induction hs with
  | nil => rfl
  | cons k ks ih =>
    rw [insertInto]
    split_ifs
    · rfl
    · exact (ih.cons k).trans (.swap g k ks)

/-- A group of a new rank is put in its place. -/
theorem pairwise_insertInto {g : AffixGroup} {hs : List AffixGroup}
    (hnew : ∀ h ∈ hs, h.rank ≠ g.rank) (h : hs.Pairwise fun g h => g.rank < h.rank) :
    (g.insertInto hs).Pairwise fun g h => g.rank < h.rank := by
  induction hs with
  | nil => simp [insertInto]
  | cons k ks ih =>
    obtain ⟨hfirst, hrest⟩ := List.pairwise_cons.1 h
    rw [insertInto]
    split_ifs with hbefore
    · have hlt : g.rank < k.rank := isBefore_iff.1 hbefore
      refine List.pairwise_cons.2 ⟨fun l hl => ?_, h⟩
      obtain rfl | hl := List.mem_cons.1 hl
      · exact hlt
      · exact hlt.trans (hfirst l hl)
    · have hle : k.rank ≤ g.rank := not_lt.1 fun hlt => hbefore (isBefore_iff.2 hlt)
      have hlt : k.rank < g.rank := lt_of_le_of_ne hle (hnew k List.mem_cons_self)
      refine List.pairwise_cons.2
        ⟨fun l hl => ?_, ih (fun l hl => hnew l (List.mem_cons_of_mem k hl)) hrest⟩
      obtain rfl | hl := mem_insertInto.1 hl
      · exact hlt
      · exact hfirst l hl

end AffixGroup

/-! ### Ordered tables -/

namespace AffixTable

variable {table other : AffixTable} {kind : AffixKind} {flag : Flag} {g : AffixGroup}

/-- The groups stand in the order of their ranks, which are all different. -/
def Ordered (table : AffixTable) : Prop :=
  table.groups.Pairwise fun g h => g.rank < h.rank

theorem ordered_empty : Ordered {} :=
  List.Pairwise.nil

theorem Ordered.addGroup (h : table.Ordered) (hkeyed : table.Keyed)
    (hnew : table.group? g.kind g.flag = none) : (table.addGroup g).Ordered := by
  refine AffixGroup.pairwise_insertInto (fun k hk hrank => ?_) h
  obtain ⟨hkind, hflag⟩ := AffixKind.rank_inj.1 hrank
  simp [← hkind, ← hflag, hkeyed k hk] at hnew

theorem Ordered.addRule (h : table.Ordered) (strip append : Text) (condition : Condition) :
    (table.addRule kind flag strip append condition).Ordered := by
  have hrank (g : AffixGroup) :
      (if (g.kind == kind && g.flag == flag) = true then
        g.withRule ⟨kind, strip, append, condition, g.crossProduct⟩ else g).rank = g.rank := by
    split_ifs <;> rfl
  refine List.pairwise_map.2 (h.imp fun {g k} hlt => ?_)
  exact (hrank g).symm ▸ (hrank k).symm ▸ hlt

theorem Ordered.nodup (h : table.Ordered) : table.groups.Nodup :=
  h.imp fun hlt heq => hlt.ne (congrArg AffixGroup.rank heq)

/-- In a keyed table the groups are those that kinds and flags name. -/
theorem mem_groups_iff (h : table.Keyed) :
    g ∈ table.groups ↔ table.group? g.kind g.flag = some g :=
  ⟨h g, List.mem_of_find?_eq_some⟩

/-- **Ordered groups are determined by what kinds and flags name.** -/
theorem Ordered.groups_eq (h : table.Ordered) (h' : other.Ordered) (hkeyed : table.Keyed)
    (hkeyed' : other.Keyed)
    (hgroup : ∀ kind flag, table.group? kind flag = other.group? kind flag) :
    table.groups = other.groups := by
  have hperm : table.groups.Perm other.groups := by
    refine (List.perm_ext_iff_of_nodup h.nodup h'.nodup).2 fun g => ?_
    rw [mem_groups_iff hkeyed, mem_groups_iff hkeyed', hgroup]
  exact hperm.eq_of_pairwise (fun g k _ _ hgk hkg => absurd hkg hgk.asymm) h h'

end AffixTable

/-! ### Lines -/

namespace Draft

variable {draft next : Draft}

/-- A line keeps the groups in order. -/
theorem ordered_read {fields : List Text} (h : draft.table.Ordered) (hkeyed : draft.table.Keyed)
    (hread : draft.read fields = .ok next) : next.table.Ordered := by
  obtain hgroups | ⟨_, _, _, g, -, hheader, hnew, rfl⟩ | ⟨_, _, _, rule, -, -, -, rfl⟩ :=
    groups_cases_of_read hread
  · simpa [AffixTable.Ordered, hgroups] using h
  · obtain ⟨rfl, rfl⟩ := kind_and_flag_of_readHeader hheader
    exact h.addGroup hkeyed hnew
  · exact h.addRule rule.1 rule.2.1 rule.2.2

/-- Lines keep the groups in order. -/
theorem ordered_readAll {lines : List (List Text)} (h : draft.table.Ordered)
    (hkeyed : draft.table.Keyed) (hread : draft.readAll lines = some next) :
    next.table.Ordered := by
  induction lines generalizing draft with
  | nil =>
    cases hread
    exact h
  | cons fields lines ih =>
    obtain ⟨mid, hline, hlines⟩ := readAll_cons_eq_some_iff.1 hread
    exact ih (ordered_read h hkeyed hline) (keyed_read hkeyed hline) hlines

end Draft

end AffixSpeller
