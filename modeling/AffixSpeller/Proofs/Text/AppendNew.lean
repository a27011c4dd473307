import AffixSpeller.Text.Basic
import Mathlib.Data.List.Nodup

/-!
# Lists that grow by new members

Adding the members of a list one after the other, each only if it is new, keeps the first
occurrence of every member in its place.

## Main results

* `foldl_appendNew_nil`: from the empty list on, the first occurrences are left.
-/

namespace AffixSpeller

variable {α : Type} [BEq α] [LawfulBEq α]

theorem mem_appendNew {l : List α} {a b : α} : b ∈ appendNew l a ↔ b ∈ l ∨ b = a := by
  unfold appendNew
  split_ifs with h
  · have ha : a ∈ l := by simpa using h
    exact ⟨Or.inl, fun hb => hb.elim id (· ▸ ha)⟩
  · rw [List.mem_append, List.mem_singleton]

theorem foldl_appendNew (xs l : List α) :
    xs.foldl appendNew l = l ++ (xs.removeAll l).eraseDups := by
  induction xs generalizing l with
  | nil => simp [List.removeAll]
  | cons a xs ih =>
    rw [List.foldl_cons, ih]
    unfold appendNew
    split_ifs with h
    · simp [List.removeAll, show a ∈ l by simpa using h]
    · have hfilter : (xs.removeAll l).filter (fun b => !b == a) = xs.removeAll (l ++ [a]) := by
        simp only [List.removeAll, List.filter_filter]
        congr 1
        funext b
        by_cases hb : b = a <;> simp [hb]
      have ha : (a :: xs).removeAll l = a :: xs.removeAll l := by
        have hmem : a ∉ l := by simpa using h
        simp [List.removeAll, hmem]
      rw [ha, List.eraseDups_cons, hfilter, List.append_assoc]
      rfl

/-- Adding the members of a list to the empty list leaves their first occurrences. -/
theorem foldl_appendNew_nil (xs : List α) : xs.foldl appendNew [] = xs.eraseDups := by
  simp [foldl_appendNew, List.removeAll]

/-- Nothing comes twice when only new members are added. -/
theorem nodup_eraseDups (xs : List α) : xs.eraseDups.Nodup := by
  rw [← foldl_appendNew_nil]
  suffices h : ∀ l : List α, l.Nodup → (xs.foldl appendNew l).Nodup from h [] List.nodup_nil
  induction xs with
  | nil => exact fun l hl => hl
  | cons a xs ih =>
    intro l hl
    refine ih _ ?_
    unfold appendNew
    split_ifs with h
    · exact hl
    · rw [List.nodup_append]
      refine ⟨hl, List.nodup_singleton a, ?_⟩
      rintro b hb c hc rfl
      rw [List.mem_singleton] at hc
      exact h (by simpa [hc] using hb)

/-- Nothing is left out of a list without repetitions. -/
theorem eraseDups_of_nodup {xs : List α} (h : xs.Nodup) : xs.eraseDups = xs := by
  induction xs with
  | nil => rfl
  | cons a xs ih =>
    obtain ⟨ha, hxs⟩ := List.nodup_cons.1 h
    have hfilter : xs.filter (fun b => !b == a) = xs :=
      List.filter_eq_self.2 fun b hb => by simpa using fun heq : b = a => ha (heq ▸ hb)
    rw [List.eraseDups_cons, hfilter, ih hxs]

end AffixSpeller
