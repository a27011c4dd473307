import AffixSpeller.Proofs.Text.CaseForms
import AffixSpeller.Proofs.Text.Fields
import AffixSpeller.Proofs.Text.Joining
import AffixSpeller.Proofs.Unicode.Caseless
import Mathlib.Data.List.Forall2

/-!
# Marks in case forms

Some characters of a text are *marks*. A text has the same marks as another one if it is written for
it character by character and leaves the marks alone: each mark comes as itself, and what comes for
any other character is not empty and has no mark. Such texts are cut at a mark in the same way, and
they begin and end with a mark or without one alike.

Case forms of a text have the marks of the text, if the marks are a caseless set of characters.

## Main definitions

* `Text.SameMarks`: a text is written for another one and has the same marks.

## Main results

* `Text.SameMarks.forall₂_splitOn`: the pieces between a mark have the same marks, too.
* `Text.SameMarks.trim_eq_self`: what is written for a trimmed text is trimmed.
* `Text.sameMarks_toUpper`, `Text.sameMarks_toLower`, `Text.sameMarks_capitalize`: case forms have
  the marks of the text.
* `Text.isLower_toLower`: lower-case forms are in lower case.
-/

namespace AffixSpeller

open Unicode

namespace Text

variable {p : Char → Bool} {s t s' t' piece : Text} {c d : Char} {marks : CodeSet}

/-! ### Pieces of a text -/

/-- What stands before the first piece goes to that piece. -/
theorem splitOn_append_of_notMem (h : d ∉ piece) (t : Text) :
    (piece ++ t).splitOn d = (t.splitOn d).modifyHead (piece ++ ·) := by
  induction piece with
  | nil => exact (congrFun List.modifyHead_id (t.splitOn d)).symm
  | cons c piece ih =>
    obtain ⟨hc, hpiece⟩ := List.ne_and_not_mem_of_not_mem_cons h
    rw [List.cons_append, List.splitOn_cons_eq_if_modifyHead, if_neg (by simpa using hc.symm),
      ih hpiece, List.modifyHead_modifyHead]
    rfl

/-- What stands behind the last piece goes to that piece. -/
theorem exists_splitOn_append_of_notMem (h : d ∉ piece) (t : Text) :
    ∃ front last, t.splitOn d = front ++ [last] ∧
      (t ++ piece).splitOn d = front ++ [last ++ piece] := by
  induction t with
  | nil => exact ⟨[], [], rfl, List.splitOn_eq_singleton h⟩
  | cons c t ih =>
    obtain ⟨front, last, ht, hpiece⟩ := ih
    rw [List.cons_append, List.splitOn_cons_eq_if_modifyHead, List.splitOn_cons_eq_if_modifyHead,
      ht, hpiece]
    split_ifs
    · exact ⟨[] :: front, last, rfl, rfl⟩
    · cases front with
      | nil => exact ⟨[], c :: last, rfl, rfl⟩
      | cons first front => exact ⟨(c :: first) :: front, last, rfl, rfl⟩

theorem forall₂_modifyHead {r : Text → Text → Prop} {ss ts : List Text} {f g : Text → Text}
    (h : List.Forall₂ r ss ts) (hfg : ∀ {s t}, r s t → r (f s) (g t)) :
    List.Forall₂ r (ss.modifyHead f) (ts.modifyHead g) := by
  cases h with
  | nil => exact .nil
  | cons hfirst hrest => exact .cons (hfg hfirst) hrest

/-! ### Texts with the same marks -/

/-- The second text is written for the first one character by character, the marks, of which `p`
holds, being left alone. -/
inductive SameMarks (p : Char → Bool) : Text → Text → Prop
  | nil : SameMarks p [] []
  | same (c : Char) {s t : Text} (h : SameMarks p s t) : SameMarks p (c :: s) (c :: t)
  | other {c : Char} {piece s t : Text} (hc : p c = false) (hne : piece ≠ [])
      (hpiece : ∀ d ∈ piece, p d = false) (h : SameMarks p s t) :
      SameMarks p (c :: s) (piece ++ t)

namespace SameMarks

theorem refl (p : Char → Bool) (t : Text) : SameMarks p t t := by
  induction t with
  | nil => exact nil
  | cons c t ih => exact same c ih

theorem append (h : SameMarks p s t) (h' : SameMarks p s' t') :
    SameMarks p (s ++ s') (t ++ t') := by
  induction h with
  | nil => exact h'
  | same c _ ih => exact same c ih
  | other hc hne hpiece _ ih =>
    rw [List.append_assoc]
    exact other hc hne hpiece ih

/-- What is written for a character and then for the rest of a text. -/
theorem cons (hne : piece ≠ [])
    (hcases : piece = [c] ∨ p c = false ∧ ∀ d ∈ piece, p d = false) (h : SameMarks p s t) :
    SameMarks p (c :: s) (piece ++ t) := by
  obtain rfl | ⟨hc, hpiece⟩ := hcases
  · exact same c h
  · exact other hc hne hpiece h

theorem reverse (h : SameMarks p s t) : SameMarks p s.reverse t.reverse := by
  induction h with
  | nil => exact nil
  | same c _ ih =>
    rw [List.reverse_cons, List.reverse_cons]
    exact ih.append (refl p [c])
  | @other c piece s t hc hne hpiece _ ih =>
    rw [List.reverse_cons, List.reverse_append]
    refine ih.append ?_
    have hend : SameMarks p [c] (piece.reverse ++ []) :=
      other hc (by simpa using hne) (by simpa using hpiece) nil
    rwa [List.append_nil] at hend

theorem mem_iff (h : SameMarks p s t) (hd : p d = true) : d ∈ s ↔ d ∈ t := by
  induction h with
  | nil => rfl
  | same c _ ih => rw [List.mem_cons, List.mem_cons, ih]
  | @other c piece s t hc hne hpiece _ ih =>
    have hfirst : d ≠ c := by
      rintro rfl
      exact Bool.false_ne_true (hc.symm.trans hd)
    have hnone : d ∉ piece := fun hmem => Bool.false_ne_true ((hpiece d hmem).symm.trans hd)
    rw [List.mem_cons, List.mem_append, ih, or_iff_right hfirst, or_iff_right hnone]

/-- A text of marks only is written for itself. -/
theorem eq_of_forall (h : SameMarks p s t) (hmarks : ∀ d ∈ t, p d = true) : s = t := by
  induction h with
  | nil => rfl
  | same c _ ih => rw [ih fun d hd => hmarks d (List.mem_cons_of_mem c hd)]
  | @other c piece s t hc hne hpiece _ ih =>
    obtain ⟨d, rest, rfl⟩ := List.exists_cons_of_ne_nil hne
    have hd : p d = true := hmarks d (by simp)
    exact absurd (hpiece d List.mem_cons_self) (by simp [hd])

/-- A mark at the beginning is there in the text that it is written for. -/
theorem mem_head? (h : SameMarks p s t) (hd : p d = true) (ht : d ∈ t.head?) : d ∈ s.head? := by
  cases h with
  | nil => exact ht
  | same c _ => exact ht
  | @other c piece s t hc hne hpiece _ =>
    obtain ⟨e, rest, rfl⟩ := List.exists_cons_of_ne_nil hne
    obtain rfl : e = d := by simpa using ht
    exact absurd (hpiece e List.mem_cons_self) (by simp [hd])

theorem mem_getLast? (h : SameMarks p s t) (hd : p d = true) (ht : d ∈ t.getLast?) :
    d ∈ s.getLast? := by
  rw [← List.head?_reverse] at ht ⊢
  exact h.reverse.mem_head? hd ht

/-- What has the white space of a trimmed text has none at its ends. -/
theorem trim_eq_self (h : SameMarks isWhiteSpace (trim s) t) : trim t = t := by
  refine Text.trim_eq_self (fun c hc => ?_) fun c hc => ?_
  · by_contra hwhite
    exact hwhite (not_isWhiteSpace_of_mem_head?_trim (h.mem_head? (by simpa using hwhite) hc))
  · by_contra hwhite
    exact hwhite (not_isWhiteSpace_of_mem_getLast?_trim (h.mem_getLast? (by simpa using hwhite) hc))

/-- **Texts with the same marks are cut at a mark in the same way.** -/
theorem forall₂_splitOn (h : SameMarks p s t) (hd : p d = true) :
    List.Forall₂ (SameMarks p) (s.splitOn d) (t.splitOn d) := by
  induction h with
  | nil => exact .cons nil .nil
  | same c _ ih =>
    rw [List.splitOn_cons_eq_if_modifyHead, List.splitOn_cons_eq_if_modifyHead]
    split_ifs
    · exact .cons nil ih
    · exact forall₂_modifyHead ih fun h => same c h
  | @other c piece s t hc hne hpiece _ ih =>
    have hfirst : (c == d) = false := by
      refine beq_eq_false_iff_ne.2 ?_
      rintro rfl
      exact Bool.false_ne_true (hc.symm.trans hd)
    have hnone : d ∉ piece := fun hmem => Bool.false_ne_true ((hpiece d hmem).symm.trans hd)
    rw [List.splitOn_cons_eq_if_modifyHead, hfirst, splitOn_append_of_notMem hnone]
    exact forall₂_modifyHead ih fun h => other hc hne hpiece h

/-- A piece of marks only is one of the text that it is written for. -/
theorem mem_splitOn (h : SameMarks p s t) (hd : p d = true) (hpiece : piece ∈ t.splitOn d)
    (hmarks : ∀ c ∈ piece, p c = true) : piece ∈ s.splitOn d := by
  obtain ⟨i, hi, rfl⟩ := List.getElem_of_mem hpiece
  obtain ⟨hlength, hsame⟩ := List.forall₂_iff_get.1 (h.forall₂_splitOn hd)
  have hs : i < (s.splitOn d).length := by omega
  have heq : (s.splitOn d)[i] = (t.splitOn d)[i] := (hsame i hs hi).eq_of_forall hmarks
  exact heq ▸ List.getElem_mem hs

theorem intercalate {ss ts : List Text} (h : List.Forall₂ (SameMarks p) ss ts) (mark : Text) :
    SameMarks p (mark.intercalate ss) (mark.intercalate ts) := by
  induction h with
  | nil => exact nil
  | @cons s t ss ts hfirst hrest ih =>
    cases hrest with
    | nil => simpa using hfirst
    | cons hnext hrest =>
      rw [List.intercalate_cons_cons, List.intercalate_cons_cons]
      exact (hfirst.append (refl p mark)).append ih

end SameMarks

/-! ### Case forms -/

section Caseless

variable (h : marks.isCaseless = true)

include h

theorem sameMarks_toUpper (t : Text) : SameMarks marks.contains t (toUpper t) := by
  induction t with
  | nil => exact .nil
  | cons c cs ih =>
    rw [toUpper_cons]
    exact ih.cons (upperChar_ne_nil c) (marks.upperChar_cases h c)

theorem sameMarks_flatMap_lowerChar (t : Text) :
    SameMarks marks.contains t (t.flatMap lowerChar) := by
  induction t with
  | nil => exact .nil
  | cons c cs ih => exact ih.cons (lowerChar_ne_nil c) (marks.lowerChar_cases h c)

theorem sameMarks_capitalize (t : Text) : SameMarks marks.contains t (capitalize t) := by
  cases t with
  | nil => exact .nil
  | cons c cs =>
    rw [capitalize_cons]
    exact (sameMarks_flatMap_lowerChar h cs).cons (upperChar_ne_nil c) (marks.upperChar_cases h c)

/-- No sigma is in a caseless set, so it does not matter which one is written. -/
theorem lowerBetween_cases (before : Text) (c : Char) (after : Text) :
    lowerBetween before c after = [c] ∨
      marks.contains c = false ∧ ∀ d ∈ lowerBetween before c after, marks.contains d = false := by
  by_cases hsigma : c = 'Σ'
  · have hcapital : marks.contains 'Σ' = false ∧ marks.contains 'σ' = false := by
      have hcases := marks.lowerChar_cases h 'Σ'
      rw [lowerChar_sigma] at hcases
      simpa using hcases
    have hfinal : marks.contains 'ς' = false := by
      have hupper : upperChar 'ς' = ['Σ'] := by decide +kernel
      have hcases := marks.upperChar_cases h 'ς'
      rw [hupper] at hcases
      simpa using hcases.elim (by simp) And.left
    subst hsigma
    rw [lowerBetween_sigma, sigmaBetween]
    refine .inr ⟨hcapital.1, ?_⟩
    split_ifs
    · simpa using hfinal
    · simpa using hcapital.2
  · rw [lowerBetween_of_ne hsigma]
    exact marks.lowerChar_cases h c

theorem sameMarks_lowerAfter (before t : Text) :
    SameMarks marks.contains t (lowerAfter before t) := by
  induction t generalizing before with
  | nil => exact .nil
  | cons c cs ih =>
    rw [lowerAfter_cons]
    exact (ih (c :: before)).cons (lowerBetween_ne_nil before c cs)
      (lowerBetween_cases h before c cs)

theorem sameMarks_toLower (t : Text) : SameMarks marks.contains t (toLower t) :=
  sameMarks_lowerAfter h [] t

end Caseless

/-- Putting a character in place of another one, when neither is a mark. -/
theorem sameMarks_replaceChar {old new : Char} (hold : p old = false) (hnew : p new = false)
    (t : Text) : SameMarks p t (replaceChar old new t) := by
  induction t with
  | nil => exact .nil
  | cons c cs ih =>
    have hcases : [if c = old then new else c] = [c] ∨
        p c = false ∧ ∀ d ∈ [if c = old then new else c], p d = false := by
      split_ifs with hc
      · exact .inr ⟨hc ▸ hold, by simpa using hnew⟩
      · exact .inl rfl
    exact ih.cons (List.cons_ne_nil _ _) hcases

/-! ### Lower-case forms -/

/-- What lower-casing writes for a character is in lower case. -/
theorem lowerChar_of_mem_lowerBetween {before after : Text}
    (h : d ∈ lowerBetween before c after) : lowerChar d = [d] := by
  unfold lowerBetween sigmaBetween at h
  split_ifs at h
  · rw [List.mem_singleton.1 h]
    decide +kernel
  · rw [List.mem_singleton.1 h]
    decide +kernel
  · exact lowerChar_of_mem_lowerChar h

theorem lowerChar_of_mem_lowerAfter {before : Text} (h : d ∈ lowerAfter before t) :
    lowerChar d = [d] := by
  induction t generalizing before with
  | nil => exact absurd h List.not_mem_nil
  | cons c cs ih =>
    rw [lowerAfter_cons] at h
    obtain h | h := List.mem_append.1 h
    · exact lowerChar_of_mem_lowerBetween h
    · exact ih h

/-- **Lower-case forms are in lower case**, whatever sigmas they have. -/
theorem isLower_toLower (t : Text) : isLower (toLower t) = true :=
  isLower_iff.2 fun _ hd => lowerChar_of_mem_lowerAfter hd

/-! ### Spaces -/

theorem isWhiteSpace_space : isWhiteSpace ' ' = true := by decide

theorem space_mem_toLower (h : ' ' ∈ t) : ' ' ∈ toLower t :=
  ((sameMarks_toLower isCaseless_whiteSpace t).mem_iff isWhiteSpace_space).1 h

theorem space_notMem_capitalize (h : ' ' ∉ t) : ' ' ∉ capitalize t := fun hmem =>
  h (((sameMarks_capitalize isCaseless_whiteSpace t).mem_iff isWhiteSpace_space).2 hmem)

end Text

end AffixSpeller
