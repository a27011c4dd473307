import AffixSpeller.Text.Basic
import Mathlib.Data.Char
import Mathlib.Data.List.Lex
import Mathlib.Tactic.Common

/-!
# Cutting and comparing texts

The first occurrence of a character cuts a text in two, and no later occurrence does. Texts are
ordered as lists of characters are.

## Main results

* `Text.cutAt_eq_some_iff`: the two sides of a cut are those that join to the text, the character
  missing from the first of them.
* `Text.isUpTo_iff`: the order of texts is the lexicographic one.
-/

namespace AffixSpeller.Text

variable {c : Char} {t l r : Text}

/-- The first occurrence of a character cuts a text in two. -/
theorem cutAt_eq (c : Char) (t : Text) :
    cutAt c t =
      if c ∈ t then some (t.takeWhile (· != c), (t.dropWhile (· != c)).tail) else none := by
  induction t with
  | nil => simp [cutAt]
  | cons d ds ih =>
    rw [cutAt, ih]
    by_cases hd : d = c
    · simp [hd]
    · have hc : c ≠ d := Ne.symm hd
      by_cases hmem : c ∈ ds <;> simp [hd, hc, hmem]

/-- The two sides of a cut join to the text, and the character is missing from the first one. -/
theorem cutAt_eq_some_iff : cutAt c t = some (l, r) ↔ t = l ++ c :: r ∧ c ∉ l := by
  induction t generalizing l with
  | nil => simp [cutAt]
  | cons d t ih =>
    rw [cutAt]
    split_ifs with hd
    · subst hd
      cases l with
      | nil => simp
      | cons e l =>
        refine iff_of_false (by simp) fun ⟨heq, hl⟩ => hl ?_
        rw [(List.cons.inj heq).1]
        exact List.mem_cons_self
    · cases l with
      | nil => simpa using fun h => absurd h hd
      | cons e l =>
        have hmap : (cutAt c t).map (fun parts => (d :: parts.1, parts.2)) = some (e :: l, r) ↔
            d = e ∧ cutAt c t = some (l, r) := by
          rcases cutAt c t with _ | ⟨front, back⟩ <;> simp [and_assoc]
        rw [hmap, ih, List.cons_append, List.cons.injEq, List.mem_cons, not_or, and_assoc]
        refine and_congr_right fun hde => and_congr_right fun _ => ?_
        exact ⟨fun hl => ⟨hde ▸ Ne.symm hd, hl⟩, And.right⟩

/-- The order of texts is the lexicographic one. -/
theorem isUpTo_iff {a b : Text} : isUpTo a b = true ↔ a ≤ b := by
  rw [← not_lt]
  induction a generalizing b with
  | nil => simp [isUpTo]
  | cons c a ih =>
    cases b with
    | nil => simp [isUpTo]
    | cons d b =>
      simp only [isUpTo, Bool.or_eq_true, Bool.and_eq_true, decide_eq_true_eq, beq_iff_eq, ih,
        List.cons_lt_cons_iff]
      rcases lt_trichotomy c d with hlt | heq | hgt
      · simp [hlt, hlt.not_gt, hlt.ne']
      · simp [heq]
      · simp [hgt, hgt.not_gt, hgt.ne']

end AffixSpeller.Text
