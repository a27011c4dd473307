import AffixSpeller.Proofs.Text.Solid
import AffixSpeller.Text.Number

/-!
# Written numbers

Numbers are written with their decimal digits. Reading them gives the number back, within the range
that counts and integers have.

## Main results

* `Text.decimal?_toDigits`: digits stand for the number that they spell.
* `Text.count?_toDigits`, `Text.integer?_toDigits`: so do the counts and integers written with them.
* `Text.solid_toDigits`: no white space breaks them.
-/

namespace AffixSpeller.Text

/-! ### Digits -/

/-- A digit is one of ten. -/
theorem exists_digitChar_of_isDigit {c : Char} (h : c.isDigit = true) :
    ∃ d < 10, c = Nat.digitChar d := by
  have hrange : 48 ≤ c.toNat ∧ c.toNat ≤ 57 := by
    simpa [Char.isDigit, UInt32.le_iff_toNat_le] using h
  refine ⟨c.toNat - 48, by omega, Char.toNat_inj.1 ?_⟩
  rw [Nat.toNat_digitChar_of_lt_ten (by omega)]
  omega

theorem digit?_ten_of_isDigit {c : Char} (h : c.isDigit = true) :
    digit? 10 c = some (c.toNat - '0'.toNat) := by
  have hdigits : ∀ d < 10,
      digit? 10 (Nat.digitChar d) = some ((Nat.digitChar d).toNat - '0'.toNat) := by
    decide
  obtain ⟨d, hd, rfl⟩ := exists_digitChar_of_isDigit h
  exact hdigits d hd

private theorem foldlM_digits {cs : List Char} (h : ∀ c ∈ cs, c.isDigit = true) (n : Nat) :
    cs.foldlM (fun n c => (digit? 10 c).map (10 * n + ·)) n = some (Nat.ofDigitChars 10 cs n) := by
  induction cs generalizing n with
  | nil => rfl
  | cons c cs ih =>
    rw [List.foldlM_cons, digit?_ten_of_isDigit (h c List.mem_cons_self)]
    exact ih (fun d hd => h d (List.mem_cons_of_mem c hd)) _

theorem isDigit_of_mem_toDigits {n : Nat} {c : Char} (h : c ∈ Nat.toDigits 10 n) :
    c.isDigit = true :=
  Nat.isDigit_of_mem_toDigits (by decide) (by decide) h

/-- Digits stand for the number that they spell. -/
theorem decimal?_toDigits (n : Nat) : decimal? (Nat.toDigits 10 n) = some n := by
  have hfold := foldlM_digits (fun c => isDigit_of_mem_toDigits (n := n)) 0
  rw [Nat.ofDigitChars_ten_toDigits] at hfold
  unfold decimal? numeral?
  split
  · rename_i hnil
    exact absurd hnil Nat.toDigits_ne_nil
  · exact hfold

/-! ### Counts and integers -/

private theorem head?_toDigits_ne {c : Char} (h : c.isDigit = false) (n : Nat) (cs : List Char) :
    Nat.toDigits 10 n ≠ c :: cs := by
  intro heq
  have hdigit := isDigit_of_mem_toDigits (heq ▸ List.mem_cons_self)
  rw [h] at hdigit
  cases hdigit

/-- Digits are read as the count that they spell. -/
theorem count?_toDigits {n : Nat} (h : n ≤ 18446744073709551615) :
    count? (Nat.toDigits 10 n) = some n := by
  unfold count?
  split
  · rename_i heq
    exact absurd heq (head?_toDigits_ne (by decide) n _)
  · simp [decimal?_toDigits, h]

/-- Digits are read as the integer that they spell. -/
theorem integer?_toDigits {n : Nat} (h : n ≤ 9223372036854775807) :
    integer? (Nat.toDigits 10 n) = some (n : Int) := by
  unfold integer?
  split
  · rename_i heq
    exact absurd heq (head?_toDigits_ne (by decide) n _)
  · rename_i heq
    exact absurd heq (head?_toDigits_ne (by decide) n _)
  · have hrange : (-9223372036854775808 : Int) ≤ n ∧ (n : Int) ≤ 9223372036854775807 := by omega
    simp [decimal?_toDigits, hrange.1, hrange.2]

/-! ### Characters -/

/-- Digits are no white space. -/
theorem solid_toDigits (n : Nat) : Solid (Nat.toDigits 10 n) := by
  intro c hc
  have hdigits : ∀ d < 10, Unicode.isWhiteSpace (Nat.digitChar d) = false := by decide
  obtain ⟨d, hd, rfl⟩ := exists_digitChar_of_isDigit (isDigit_of_mem_toDigits hc)
  exact hdigits d hd

end AffixSpeller.Text
