import AffixSpeller.Affix.Grammar
import Mathlib.Data.List.TakeWhile

/-!
# Solid texts

A text is *solid* when no white space breaks it. Fields are solid, so whatever a grammar or a word
list says in one field is: words, flags, strip and append texts, and the characters to try.

## Main definitions

* `Text.Solid`: no character of the text is white space.

## Main results

* `Text.solid_of_mem_fields`: the fields of a text are solid and not empty.
* `GrammarLine.solid_of_mem_fields`: so are the fields of a line of a grammar.
-/

namespace AffixSpeller

namespace Text

/-- No character of the text is white space. -/
def Solid (t : Text) : Prop :=
  ∀ c ∈ t, Unicode.isWhiteSpace c = false

instance (t : Text) : Decidable t.Solid :=
  List.decidableBAll (fun c => Unicode.isWhiteSpace c = false) t

@[simp] theorem solid_nil : Solid [] := by simp [Solid]

@[simp] theorem solid_cons {c : Char} {t : Text} :
    Solid (c :: t) ↔ Unicode.isWhiteSpace c = false ∧ Solid t := by
  simp [Solid]

@[simp] theorem solid_append {s t : Text} : Solid (s ++ t) ↔ Solid s ∧ Solid t := by
  simp [Solid, or_imp, forall_and]

theorem Solid.mono {s t : Text} (ht : Solid t) (h : s ⊆ t) : Solid s :=
  fun c hc => ht c (h hc)

theorem Solid.space_notMem {t : Text} (ht : Solid t) : ' ' ∉ t := by
  intro h
  have hspace : Unicode.isWhiteSpace ' ' = true := by decide
  simp [ht ' ' h] at hspace

theorem Solid.newline_notMem {t : Text} (ht : Solid t) : '\n' ∉ t := by
  intro h
  have hnewline : Unicode.isWhiteSpace '\n' = true := by decide
  simp [ht '\n' h] at hnewline

private theorem mem_of_mem_modifyHead {a : Char} {l : List Text} {w : Text}
    (hw : w ∈ l.modifyHead (a :: ·)) : w ∈ l ∨ ∃ v ∈ l, w = a :: v := by
  cases l with
  | nil => exact Or.inl hw
  | cons v vs =>
    obtain rfl | hw := List.mem_cons.1 hw
    · exact Or.inr ⟨v, List.mem_cons_self, rfl⟩
    · exact Or.inl (List.mem_cons_of_mem v hw)

/-- The stretches between separators have no separator. -/
theorem not_of_mem_splitOnP {p : Char → Bool} {t w : Text} (hw : w ∈ t.splitOnP p) :
    ∀ c ∈ w, p c = false := by
  induction t generalizing w with
  | nil => simp_all [List.splitOnP_nil]
  | cons a t ih =>
    rw [List.splitOnP_cons_eq_if_modifyHead] at hw
    split_ifs at hw with ha
    · obtain rfl | hw := List.mem_cons.1 hw
      · simp
      · exact ih hw
    · obtain hw | ⟨v, hv, rfl⟩ := mem_of_mem_modifyHead hw
      · exact ih hw
      · simpa [ha] using ih hv

/-- A field is not empty, and no white space breaks it. -/
theorem solid_of_mem_fields {t w : Text} (hw : w ∈ fields t) : w ≠ [] ∧ Solid w := by
  obtain ⟨hw, hne⟩ := List.mem_filter.1 hw
  exact ⟨by simpa using hne, fun c hc => not_of_mem_splitOnP hw c hc⟩

end Text

namespace GrammarLine

/-- A field of a line is not empty, and no white space breaks it. -/
theorem solid_of_mem_fields {line : GrammarLine} {w : Text} (hw : w ∈ line.fields) :
    w ≠ [] ∧ Text.Solid w := by
  apply Text.solid_of_mem_fields (t := line.text)
  unfold fields at hw
  split at hw
  · simp at hw
  · rename_i tag rest heq
    rw [heq]
    rcases List.mem_cons.1 hw with rfl | hw
    · exact List.mem_cons_self
    · exact List.mem_cons_of_mem tag (List.takeWhile_subset _ hw)

end GrammarLine

end AffixSpeller
