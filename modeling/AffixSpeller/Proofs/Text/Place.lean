import AffixSpeller.Text.Basic
import Mathlib.Data.List.DropRight
import Mathlib.Tactic.Common

/-!
# Places in a text

A place in a text is told by the characters before it: how many bytes they take, how many lines
they end, and how many of them stand on the last line. Pieces are cut out of a text in their order;
of each one it is said what comes before it, and so its place.

## Main definitions

* `Text.lastLine`: the characters after the last line feed.
* `Text.CutOut`: pieces of a text in their order, none overlapping another.

## Main results

* `Text.utf8Length_eq_size_utf8Encode`: the length in bytes is that of the UTF-8 form.
* `Text.extract_utf8Encode`: the bytes of a stretch stand at its offset.
* `Text.CutOut.append`: pieces of two texts, one behind the other.
-/

namespace AffixSpeller.Text

/-! ### Bytes and lines -/

@[simp] theorem utf8Length_append (s t : Text) :
    utf8Length (s ++ t) = utf8Length s + utf8Length t := by
  induction s with
  | nil => simp [utf8Length]
  | cons c s ih => simp only [List.cons_append, utf8Length, ih, Nat.add_assoc]

@[simp] theorem utf8Length_eq_zero {t : Text} : utf8Length t = 0 ↔ t = [] := by
  cases t with
  | nil => simp [utf8Length]
  | cons c t => simpa [utf8Length] using fun h => absurd h c.utf8Size_pos.ne'

theorem utf8Length_eq_size_utf8Encode (t : Text) : utf8Length t = t.utf8Encode.size := by
  induction t with
  | nil => simp [utf8Length]
  | cons c t ih =>
    rw [List.utf8Encode_cons, ByteArray.size_append, List.utf8Encode_singleton,
      List.size_toByteArray, String.length_utf8EncodeChar, utf8Length, ih]

/-- The bytes of a stretch of a text stand behind those of the characters before it. -/
theorem extract_utf8Encode (before s after : Text) :
    (before ++ s ++ after).utf8Encode.extract (utf8Length before)
      (utf8Length before + utf8Length s) = s.utf8Encode := by
  simp only [utf8Length_eq_size_utf8Encode]
  calc (before ++ s ++ after).utf8Encode.extract before.utf8Encode.size
        (before.utf8Encode.size + s.utf8Encode.size)
      = (before.utf8Encode ++ (s.utf8Encode ++ after.utf8Encode)).extract
          (before.utf8Encode.size + 0) (before.utf8Encode.size + s.utf8Encode.size) := by
        rw [List.append_assoc, List.utf8Encode_append, List.utf8Encode_append, Nat.add_zero]
    _ = (s.utf8Encode ++ after.utf8Encode).extract 0 s.utf8Encode.size :=
        ByteArray.extract_append_size_add
    _ = s.utf8Encode := ByteArray.extract_append_eq_left rfl

/-- What follows the last line feed of a text. -/
def lastLine (t : Text) : Text :=
  t.rtakeWhile (· != '\n')

theorem lastLine_append {s t : Text} (h : '\n' ∉ t) : lastLine (s ++ t) = lastLine s ++ t := by
  have hp : ∀ c ∈ t.reverse, (c != '\n') = true := by
    simpa using fun c hc (hn : c = '\n') => h (hn ▸ hc)
  simp only [lastLine, List.rtakeWhile, List.reverse_append, List.takeWhile_append_of_pos hp,
    List.reverse_reverse]

theorem lastLine_append_newline (s : Text) : lastLine (s ++ ['\n']) = [] :=
  List.rtakeWhile_concat_neg _ _ _ (by simp)

/-- Trimming leaves a stretch of the text between the characters that it drops. -/
theorem exists_eq_takeWhile_append_trimWhile (p : Char → Bool) (t : Text) :
    ∃ trailing, t = t.takeWhile p ++ (trimWhile p t ++ trailing) ∧ ∀ c ∈ trailing, p c = true := by
  refine ⟨(t.dropWhile p).rtakeWhile p, ?_, fun c hc => List.mem_rtakeWhile_imp hc⟩
  calc t = t.takeWhile p ++ t.dropWhile p := List.takeWhile_append_dropWhile.symm
    _ = _ := congrArg _ (List.rdropWhile_append_rtakeWhile (p := p) (l := t.dropWhile p)).symm

/-- Trimming leaves nothing of a text only if all its characters are dropped. -/
theorem trimWhile_eq_nil_iff {p : Char → Bool} {t : Text} :
    trimWhile p t = [] ↔ ∀ c ∈ t, p c = true := by
  refine ⟨fun h => ?_, fun h => ?_⟩
  · obtain ⟨trailing, ht, htrailing⟩ := exists_eq_takeWhile_append_trimWhile p t
    intro c hc
    rw [ht, h, List.nil_append] at hc
    obtain hc | hc := List.mem_append.1 hc
    · exact List.mem_takeWhile_imp hc
    · exact htrailing c hc
  · have hdrop : t.dropWhile p = [] := List.dropWhile_eq_nil_iff.2 h
    simp [trimWhile, dropEndWhile, hdrop]

/-- What trimming leaves begins and ends with characters that are not dropped. -/
theorem exists_ends_of_trimWhile_ne_nil {p : Char → Bool} {t : Text} (h : trimWhile p t ≠ []) :
    (∃ c ∈ (trimWhile p t).head?, p c = false) ∧ ∃ c ∈ (trimWhile p t).getLast?, p c = false := by
  constructor
  · obtain ⟨r, hr⟩ : trimWhile p t <+: t.dropWhile p := List.rdropWhile_prefix p _
    have hfirst := List.head?_dropWhile_not p t
    rw [← hr, List.head?_append_of_ne_nil _ h, List.head?_eq_some_head h] at hfirst
    exact ⟨_, List.head?_eq_some_head h, hfirst⟩
  · exact ⟨_, List.getLast?_eq_some_getLast h,
      Bool.eq_false_iff.2 (List.rdropWhile_last_not p (t.dropWhile p) h)⟩

/-! ### Pieces in their order -/

/-- The pieces are cut out of `rest`, which stands behind `before`: they come in their order, none
overlaps another, and `make` gives each of them from what comes before it and what it says. -/
inductive CutOut {α : Type} (make : Text → Text → α) : Text → Text → List α → Prop
  | nil (before rest : Text) : CutOut make before rest []
  | cons {before rest : Text} {pieces : List α} (gap piece : Text)
      (h : CutOut make (before ++ (gap ++ piece)) rest pieces) :
      CutOut make before (gap ++ (piece ++ rest)) (make (before ++ gap) piece :: pieces)

namespace CutOut

variable {α : Type} {make : Text → Text → α} {before s t : Text} {as bs : List α} {a : α}

/-- A piece at the very beginning. -/
theorem cons_start {piece : Text} (h : CutOut make (before ++ piece) t as) :
    CutOut make before (piece ++ t) (make before piece :: as) := by
  rw [← List.append_nil before, List.append_assoc] at h
  simpa using CutOut.cons [] piece h

theorem append_left (s : Text) (h : CutOut make (before ++ s) t as) :
    CutOut make before (s ++ t) as := by
  cases h with
  | nil => exact .nil _ _
  | cons gap piece h =>
    have h := CutOut.cons (s ++ gap) piece (by simpa only [List.append_assoc] using h)
    simpa only [List.append_assoc] using h

/-- The pieces of a text and then those of a text behind it. -/
theorem append (hs : CutOut make before s as) (ht : CutOut make (before ++ s) t bs) :
    CutOut make before (s ++ t) (as ++ bs) := by
  induction hs with
  | nil before rest => exact append_left rest ht
  | cons gap piece _ ih =>
    have h := CutOut.cons gap piece (ih (by simpa only [List.append_assoc] using ht))
    simpa only [List.append_assoc, List.cons_append] using h

theorem exists_of_mem (h : CutOut make before s as) (ha : a ∈ as) :
    ∃ l piece r, s = l ++ piece ++ r ∧ a = make (before ++ l) piece := by
  induction h with
  | nil => cases ha
  | @cons before rest pieces gap piece h ih =>
    obtain rfl | ha := List.mem_cons.1 ha
    · exact ⟨gap, piece, rest, by simp, rfl⟩
    · obtain ⟨l, other, r, rfl, rfl⟩ := ih ha
      exact ⟨gap ++ piece ++ l, other, r, by simp, by simp⟩

/-- Every piece ends before the pieces after it begin. -/
theorem pairwise (h : CutOut make before s as) :
    as.Pairwise fun a b =>
      ∃ l piece m other, a = make l piece ∧ b = make (l ++ piece ++ m) other := by
  induction h with
  | nil => exact .nil
  | @cons before rest pieces gap piece h ih =>
    refine List.pairwise_cons.2 ⟨fun b hb => ?_, ih⟩
    obtain ⟨m, other, r, -, rfl⟩ := h.exists_of_mem hb
    exact ⟨before ++ gap, piece, m, other, rfl, by simp⟩

end CutOut

end AffixSpeller.Text
