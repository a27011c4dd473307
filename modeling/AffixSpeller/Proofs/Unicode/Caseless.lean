import AffixSpeller.Proofs.Unicode.CaseMapping
import AffixSpeller.Unicode.WhiteSpace

/-!
# Characters without case

A set of characters is *caseless* when the case mappings move none of its members and send no other
character to one of them, such as the set of all white space, or that of the slash and the full
stop. Then case forms have the members of the set where the character itself is one, and nowhere
else.

Whether a set is caseless is read off the tables: the code points of a run and their images are
stretches, and a set misses a stretch if it has no member at its beginning and no turn along it.

## Main definitions

* `CodeSet.misses`: a set has no member on a stretch, as far as its turns show.
* `CodeSet.isCaseless`: the case mappings neither move nor make members of a set.

## Main results

* `CodeSet.upperChar_cases`, `CodeSet.lowerChar_cases`: the members of a caseless set among case
  forms.
-/

namespace AffixSpeller

open Unicode

namespace CodeSet

variable {s : CodeSet} {c d : Char} {code first last : Nat} {runs : List CaseRun}

/-! ### Stretches -/

/-- Whether the set has no member at the beginning of a stretch and does not turn along it. -/
def misses (s : CodeSet) (first last : Nat) : Bool :=
  !holdsAt first s.turns && s.turns.all fun turn => Nat.ble turn first || Nat.blt last turn

/-- Where no turn lies between two code points, both are members or none is. -/
theorem holdsAt_eq_holdsAt {turns : List Nat}
    (h : turns.all (fun turn => Nat.ble turn first || Nat.blt last turn) = true)
    (hfirst : first ≤ code) (hlast : code ≤ last) : holdsAt code turns = holdsAt first turns := by
  induction turns with
  | nil => rfl
  | cons turn turns ih =>
    simp only [List.all_cons, Bool.and_eq_true, Bool.or_eq_true, Nat.ble_eq, Nat.blt_eq] at h
    obtain ⟨hturn, hrest⟩ := h
    rw [holdsAt, holdsAt, ih hrest]
    obtain hbefore | hbehind := hturn
    · rw [if_neg (by omega), if_neg (by omega)]
    · rw [if_pos (by omega), if_pos (by omega)]

/-- A set that misses a stretch has no member on it. -/
theorem holdsAt_of_misses (h : s.misses first last = true) (hfirst : first ≤ code)
    (hlast : code ≤ last) : holdsAt code s.turns = false := by
  obtain ⟨hbegin, hturns⟩ := Bool.and_eq_true_iff.1 h
  rw [holdsAt_eq_holdsAt hturns hfirst hlast]
  simpa using hbegin

/-! ### Caseless sets -/

/-- Whether runs neither move members of the set nor send anything to one. -/
def missesRuns (s : CodeSet) (runs : List CaseRun) : Bool :=
  (runs.all fun run => s.misses run.first run.last) &&
    CaseRun.imagesSatisfy (fun first last _ => s.misses first last) runs

/-- Whether the case mappings neither move members of the set nor make any. The null character
stands for numbers that are no code points. -/
def isCaseless (s : CodeSet) : Bool :=
  s.missesRuns upperRuns && s.missesRuns lowerRuns &&
    (longUpper.all fun entry =>
      s.misses entry.1 entry.1 && entry.2.all fun code => s.misses code code) &&
    ['\x00', 'İ', 'i', '\u0307'].all fun c => !s.contains c

/-- What runs that miss a set move is no member of it. -/
theorem not_contains_of_lookup (h : s.missesRuns runs = true) {image : Nat}
    (hlookup : CaseRun.lookup c.toNat runs = some image) : s.contains c = false := by
  obtain ⟨run, hrun, i, hcode, hlast, -⟩ := CaseRun.exists_of_lookup hlookup
  have hmisses := List.all_eq_true.1 (Bool.and_eq_true_iff.1 h).1 run hrun
  exact holdsAt_of_misses hmisses (by omega) hlast

theorem not_contains_ofNat (hnull : s.contains '\x00' = false) (h : holdsAt code s.turns = false) :
    s.contains (Char.ofNat code) = false := by
  obtain hcode | hnone := ofNat_cases code
  · rw [contains, hcode, h]
  · rw [hnone, hnull]

/-- What runs that miss a set send a character to is no member of it. -/
theorem not_contains_image (hnull : s.contains '\x00' = false) (h : s.missesRuns runs = true)
    {image : Nat} (hlookup : CaseRun.lookup code runs = some image) :
    s.contains (Char.ofNat image) = false := by
  obtain ⟨first, last, step, i, hmisses, hfirst, hlast⟩ :=
    CaseRun.exists_stretch_of_lookup (Bool.and_eq_true_iff.1 h).2 hlookup
  exact not_contains_ofNat hnull (holdsAt_of_misses hmisses (by omega) hlast)

/-- **Upper-case forms and caseless sets.** A character is its own upper-case form, or neither it
nor its upper-case form is in the set. -/
theorem upperChar_cases (h : s.isCaseless = true) (c : Char) :
    upperChar c = [c] ∨ s.contains c = false ∧ ∀ d ∈ upperChar c, s.contains d = false := by
  simp only [isCaseless, Bool.and_eq_true, List.all_cons, Bool.not_eq_true'] at h
  obtain ⟨⟨⟨hupper, -⟩, hlong⟩, hnull, -⟩ := h
  unfold upperChar
  split
  · rename_i image hlookup
    refine .inr ⟨not_contains_of_lookup hupper hlookup, ?_⟩
    simpa using not_contains_image hnull hupper hlookup
  · split
    · rename_i codes hcodes
      obtain ⟨l₁, l₂, hl, -⟩ := List.lookup_eq_some_iff.1 hcodes
      have hentry := List.all_eq_true.1 hlong (c.toNat, codes) (by simp [hl])
      rw [Bool.and_eq_true] at hentry
      refine .inr ⟨holdsAt_of_misses hentry.1 (Nat.le_refl _) (Nat.le_refl _), fun d hd => ?_⟩
      obtain ⟨code, hcode, rfl⟩ := List.mem_map.1 hd
      have hmisses := List.all_eq_true.1 hentry.2 code hcode
      exact not_contains_ofNat hnull (holdsAt_of_misses hmisses (Nat.le_refl _) (Nat.le_refl _))
    · exact .inl rfl

/-- **Lower-case forms and caseless sets.** A character is its own lower-case form, or neither it
nor its lower-case form is in the set. -/
theorem lowerChar_cases (h : s.isCaseless = true) (c : Char) :
    lowerChar c = [c] ∨ s.contains c = false ∧ ∀ d ∈ lowerChar c, s.contains d = false := by
  simp only [isCaseless, Bool.and_eq_true, List.all_cons, Bool.not_eq_true'] at h
  obtain ⟨⟨⟨-, hlower⟩, -⟩, hnull, hdotted, hi, hdot, -⟩ := h
  unfold lowerChar
  split_ifs with hc
  · refine .inr ⟨hc ▸ hdotted, ?_⟩
    simp [hi, hdot]
  · split
    · rename_i image hlookup
      refine .inr ⟨not_contains_of_lookup hlower hlookup, ?_⟩
      simpa using not_contains_image hnull hlower hlookup
    · exact .inl rfl

end CodeSet

/-! ### Some caseless sets -/

namespace Unicode

theorem isCaseless_whiteSpace : whiteSpace.isCaseless = true := by
  decide +kernel

end Unicode

end AffixSpeller
