import AffixSpeller.Text.CharSet
import Mathlib.Tactic.Common

/-!
# Members of sets of characters

Sorting characters and leaving out repetitions keeps the characters, and halving an increasing
array finds exactly its members. So a set has the characters that it was made of, whatever their
order and however often they came.

## Main results

* `CharSet.contains_iff_mem_members`: halving finds the members.
* `CharSet.contains_ofList`: the members of a set that is made of a list.
-/

namespace AffixSpeller.CharSet

variable {s : CharSet} {c : Char}

/-- A smaller member stands further in front. -/
theorem lt_of_getElem_lt {i j : Nat} (hi : i < s.members.size) (hj : j < s.members.size)
    (h : s.members[i] < s.members[j]) : i < j := by
  by_contra hle
  obtain rfl | hlt := Nat.eq_or_lt_of_le (Nat.le_of_not_lt hle)
  · exact Char.lt_irrefl _ h
  · have hrev := List.pairwise_iff_getElem.1 s.increasing j i (by simpa using hj)
      (by simpa using hi) hlt
    exact Char.lt_asymm h (by simpa using hrev)

/-- **Halving** finds a character between two places if and only if it stands there. -/
theorem binSearchAux_iff (s : CharSet) (c : Char) (lo : Fin (s.members.size + 1))
    (hi : Fin s.members.size) (hle : lo.1 ≤ hi.1) :
    s.members.binSearchAux (· < ·) Option.isSome c lo hi hle = true ↔
      ∃ i, ∃ h : i < s.members.size, lo.1 ≤ i ∧ i ≤ hi.1 ∧ s.members[i] = c := by
  fun_induction Array.binSearchAux with
  | case1 lo hi hle m a hbelow hnext hsize ih =>
    -- the middle is below the character, which so can only stand behind it
    rw [ih]
    refine exists_congr fun i => exists_congr fun hi' => and_congr_left ?_
    rintro ⟨-, rfl⟩
    have hbehind : m < i := lt_of_getElem_lt (by omega) hi' (by simpa using hbelow)
    simp only
    omega
  | case2 lo hi hle m a hbelow hlast hsize =>
    simp only [Option.isSome_none, Bool.false_eq_true, false_iff]
    rintro ⟨i, hi', -, hup, rfl⟩
    have hbehind : m < i := lt_of_getElem_lt (by omega) hi' (by simpa using hbelow)
    omega
  | case3 lo hi hle m a hbelow habove hfirst hsize =>
    simp only [Option.isSome_none, Bool.false_eq_true, false_iff]
    rintro ⟨i, hi', hdown, -, rfl⟩
    have hbefore : i < m := lt_of_getElem_lt hi' (by omega) (by simpa using habove)
    omega
  | case4 lo hi hle m a hbelow habove hnext hsize ih =>
    -- the middle is above the character, which so can only stand before it
    rw [ih]
    refine exists_congr fun i => exists_congr fun hi' => and_congr_right fun _ =>
      and_congr_left ?_
    rintro rfl
    have hbefore : i < m := lt_of_getElem_lt hi' (by omega) (by simpa using habove)
    simp only
    omega
  | case5 lo hi hle m a hbelow habove hsize =>
    simp only [Option.isSome_some, true_iff]
    refine ⟨m, by omega, by omega, by omega, Char.le_antisymm ?_ ?_⟩
    · simpa using habove
    · simpa using hbelow

/-- **Halving finds the members.** -/
theorem contains_iff_mem_members : s.contains c = true ↔ c ∈ s.members := by
  unfold contains Array.binSearchContains
  rw [Array.mem_iff_getElem]
  by_cases hempty : 0 < s.members.size
  · have hlast : s.members.size - 1 < s.members.size := by omega
    simp only [hempty, hlast, ↓reduceDIte, ↓reduceIte, Nat.zero_le]
    rw [binSearchAux_iff]
    refine exists_congr fun i => exists_congr fun hi => ?_
    simp only [Nat.zero_le, true_and, and_iff_right_iff_imp]
    omega
  · simp only [hempty, ↓reduceDIte, Bool.false_eq_true, false_iff]
    rintro ⟨i, hi, -⟩
    omega

@[simp] theorem contains_singleton {b : Char} : (singleton b).contains c = true ↔ c = b := by
  rw [contains_iff_mem_members]
  simp [singleton]

/-- **A set has the characters that it was made of**, in whatever order they came. -/
@[simp] theorem contains_ofList {cs : List Char} : (ofList cs).contains c = true ↔ c ∈ cs := by
  rw [contains_iff_mem_members]
  simp only [ofList, List.mem_toArray]
  induction cs with
  | nil => simp
  | cons b cs ih => rw [List.foldr_cons, mem_insertOrdered, ih, List.mem_cons]

end AffixSpeller.CharSet
