import AffixSpeller.Unicode.CaseMapping
import Mathlib.Data.List.Basic

/-!
# Case mappings reach a case

A character of an upper-case form is its own upper-case form, and a character of a lower-case form
its own lower-case form. So mapping a second time changes nothing.

The tables are long, and this is a fact about every character in them. It is read off the runs: the
images of a run are a stretch of code points again, and a stretch misses a run if it ends before the
run begins, begins after the run ends, or falls between the code points that the run moves.

## Main definitions

* `CaseRun.avoids`: whether runs move no code point of a stretch.

## Main results

* `Unicode.upperChar_of_mem_upperChar`, `Unicode.lowerChar_of_mem_lowerChar`: the characters of case
  forms are of that case.
-/

namespace AffixSpeller.Unicode

namespace CaseRun

variable {code image first last step i : Nat} {runs others : List CaseRun}

/-- Whether the runs move none of the code points `first`, `first + step`, … up to `last`, as far as
their ends and strides show. Like a look-up, this stops at the first run that lies beyond. -/
def avoids (first last step : Nat) : List CaseRun → Bool
  | [] => true
  | run :: runs =>
    Nat.blt last run.first ||
      ((Nat.blt run.last first ||
          (step % run.stride == 0 && !(first % run.stride == run.first % run.stride))) &&
        avoids first last step runs)

theorem lookup_eq_none_of_avoids (h : avoids first last step runs = true)
    (hlast : first + i * step ≤ last) : lookup (first + i * step) runs = none := by
  induction runs with
  | nil => rfl
  | cons run runs ih =>
    simp only [avoids, Bool.or_eq_true, Bool.and_eq_true, Nat.blt_eq, beq_iff_eq,
      Bool.not_eq_true', beq_eq_false_iff_ne] at h
    unfold lookup
    obtain hbeyond | ⟨hmiss, hrest⟩ := h
    · rw [if_pos (by omega)]
    · split_ifs with hbefore hwithin hmoved
      · rfl
      · exfalso
        obtain hpast | ⟨hstep, hfirst⟩ := hmiss
        · omega
        · -- the stretch keeps the remainder of its first code point
          have hstretch : (first + i * step) % run.stride = first % run.stride := by
            obtain ⟨k, rfl⟩ := Nat.dvd_of_mod_eq_zero hstep
            rw [Nat.mul_left_comm, Nat.add_mul_mod_self_left]
          have hrun : (first + i * step) % run.stride = run.first % run.stride := by
            obtain ⟨k, hk⟩ := Nat.dvd_of_mod_eq_zero hmoved
            rw [← Nat.sub_add_cancel (Nat.not_lt.1 hbefore), hk, Nat.mul_add_mod]
          exact hfirst (hstretch.symm.trans hrun)
      · rfl
      · exact ih hrest

/-- What a look-up finds is the image of a code point of some run. -/
theorem exists_of_lookup (h : lookup code runs = some image) :
    ∃ run ∈ runs, ∃ i, code = run.first + i * run.stride ∧ code ≤ run.last ∧
      image = (code + run.shift).toNat := by
  induction runs with
  | nil => cases h
  | cons run runs ih =>
    unfold lookup at h
    split_ifs at h with hbefore hwithin hmoved
    · obtain ⟨i, hi⟩ := Nat.dvd_of_mod_eq_zero hmoved
      refine ⟨run, List.mem_cons_self, i, ?_, hwithin, (Option.some.inj h).symm⟩
      rw [Nat.mul_comm, ← hi]
      omega
    · obtain ⟨other, hother, hfound⟩ := ih h
      exact ⟨other, List.mem_cons_of_mem run hother, hfound⟩

/-- A property of stretches that the images of all runs have. -/
def imagesSatisfy (p : Nat → Nat → Nat → Bool) (runs : List CaseRun) : Bool :=
  runs.all fun run =>
    decide (0 ≤ run.first + run.shift) &&
      p (run.first + run.shift).toNat (run.last + run.shift).toNat
        (if run.first = run.last then 0 else run.stride)

/-- What a look-up finds lies on a stretch that has the property. -/
theorem exists_stretch_of_lookup {p : Nat → Nat → Nat → Bool}
    (hruns : imagesSatisfy p runs = true) (h : lookup code runs = some image) :
    ∃ first last step i, p first last step = true ∧ first + i * step = image ∧ image ≤ last := by
  obtain ⟨run, hrun, i, rfl, hlast, rfl⟩ := exists_of_lookup h
  have hstretch := List.all_eq_true.1 hruns run hrun
  rw [Bool.and_eq_true, decide_eq_true_eq] at hstretch
  obtain ⟨hpos, hp⟩ := hstretch
  refine ⟨_, _, _, i, hp, ?_, by omega⟩
  split_ifs with hsingle
  · have : i * run.stride = 0 := by omega
    push_cast
    omega
  · push_cast
    have : ((i * run.stride : Nat) : Int) = i * run.stride := by push_cast; rfl
    omega

end CaseRun

/-! ### Upper case -/

variable {c d : Char} {code first last step i : Nat}

/-- A number that is no code point stands for the null character, which has one case. -/
theorem ofNat_cases (code : Nat) :
    (Char.ofNat code).toNat = code ∨ Char.ofNat code = '\x00' := by
  by_cases hvalid : code.isValidChar
  · exact Or.inl (by rw [Char.ofNat, dif_pos hvalid]; rfl)
  · exact Or.inr (by rw [Char.ofNat, dif_neg hvalid]; rfl)

/-- Whether all code points of a stretch are their own upper-case forms. -/
def isUpperStretch (first last step : Nat) : Bool :=
  CaseRun.avoids first last step upperRuns &&
    longUpper.all fun entry => Nat.blt entry.1 first || Nat.blt last entry.1

theorem upperChar_of_isUpperStretch (h : isUpperStretch first last step = true)
    (hcode : first + i * step = code) (hlast : code ≤ last) :
    upperChar (Char.ofNat code) = [Char.ofNat code] := by
  obtain hnat | hnull := ofNat_cases code
  · subst hcode
    obtain ⟨hruns, hkeys⟩ := Bool.and_eq_true_iff.1 h
    have hlong : longUpper.lookup (first + i * step) = none := by
      rw [List.lookup_eq_none_iff]
      intro entry hentry
      have hkey := List.all_eq_true.1 hkeys entry hentry
      simp only [Bool.or_eq_true, Nat.blt_eq] at hkey
      have hpast : first ≤ first + i * step := Nat.le_add_right _ _
      rw [bne_iff_ne]
      omega
    unfold upperChar
    rw [hnat, CaseRun.lookup_eq_none_of_avoids hruns hlast, hlong]
  · rw [hnull]
    decide +kernel

/-- The code points that the upper-case forms in the tables consist of. -/
private theorem isUpperStretch_upperRuns :
    CaseRun.imagesSatisfy isUpperStretch upperRuns = true := by
  decide +kernel

private theorem isUpperStretch_longUpper :
    ∀ entry ∈ longUpper, ∀ code ∈ entry.2, isUpperStretch code code 0 = true := by
  decide +kernel

/-- **Upper-case forms are in upper case.** -/
theorem upperChar_of_mem_upperChar (h : d ∈ upperChar c) : upperChar d = [d] := by
  cases hrun : CaseRun.lookup c.toNat upperRuns with
  | some image =>
    simp only [upperChar, hrun, List.mem_singleton] at h
    obtain ⟨first, last, step, i, hstretch, hi, hlast⟩ :=
      CaseRun.exists_stretch_of_lookup isUpperStretch_upperRuns hrun
    rw [h]
    exact upperChar_of_isUpperStretch hstretch hi hlast
  | none =>
    cases hlong : longUpper.lookup c.toNat with
    | some codes =>
      simp only [upperChar, hrun, hlong, List.mem_map] at h
      obtain ⟨code, hcode, rfl⟩ := h
      obtain ⟨l₁, l₂, hl, -⟩ := List.lookup_eq_some_iff.1 hlong
      have hstretch := isUpperStretch_longUpper (c.toNat, codes) (by simp [hl]) code hcode
      exact upperChar_of_isUpperStretch hstretch (i := 0) (by omega) (Nat.le_refl code)
    | none =>
      have hself : upperChar c = [c] := by simp [upperChar, hrun, hlong]
      rw [hself, List.mem_singleton] at h
      rw [h, hself]

theorem upperChar_ne_nil (c : Char) : upperChar c ≠ [] := by
  have hlong : ∀ entry ∈ longUpper, entry.2 ≠ [] := by decide +kernel
  unfold upperChar
  split
  · simp
  · split
    · rename_i codes hcodes
      obtain ⟨l₁, l₂, hl, -⟩ := List.lookup_eq_some_iff.1 hcodes
      simpa using hlong (c.toNat, codes) (by simp [hl])
    · simp

/-! ### Lower case -/

/-- Whether all code points of a stretch are their own lower-case forms. -/
def isLowerStretch (first last step : Nat) : Bool :=
  CaseRun.avoids first last step lowerRuns && (Nat.blt last 'İ'.toNat || Nat.blt 'İ'.toNat first)

theorem lowerChar_of_isLowerStretch (h : isLowerStretch first last step = true)
    (hcode : first + i * step = code) (hlast : code ≤ last) :
    lowerChar (Char.ofNat code) = [Char.ofNat code] := by
  obtain hnat | hnull := ofNat_cases code
  · subst hcode
    obtain ⟨hruns, hdotted⟩ := Bool.and_eq_true_iff.1 h
    simp only [Bool.or_eq_true, Nat.blt_eq] at hdotted
    have hne : Char.ofNat (first + i * step) ≠ 'İ' := by
      intro heq
      rw [heq] at hnat
      omega
    unfold lowerChar
    rw [if_neg hne, hnat, CaseRun.lookup_eq_none_of_avoids hruns hlast]
  · rw [hnull]
    decide +kernel

private theorem isLowerStretch_lowerRuns :
    CaseRun.imagesSatisfy isLowerStretch lowerRuns = true := by
  decide +kernel

/-- **Lower-case forms are in lower case.** -/
theorem lowerChar_of_mem_lowerChar (h : d ∈ lowerChar c) : lowerChar d = [d] := by
  by_cases hdotted : c = 'İ'
  · have hforms : (lowerChar 'İ').all (fun d => lowerChar d == [d]) = true := by decide +kernel
    exact beq_iff_eq.1 (List.all_eq_true.1 hforms d (hdotted ▸ h))
  · cases hrun : CaseRun.lookup c.toNat lowerRuns with
    | some image =>
      simp only [lowerChar, hdotted, ↓reduceIte, hrun, List.mem_singleton] at h
      obtain ⟨first, last, step, i, hstretch, hi, hlast⟩ :=
        CaseRun.exists_stretch_of_lookup isLowerStretch_lowerRuns hrun
      rw [h]
      exact lowerChar_of_isLowerStretch hstretch hi hlast
    | none =>
      have hself : lowerChar c = [c] := by simp [lowerChar, hdotted, hrun]
      rw [hself, List.mem_singleton] at h
      rw [h, hself]

theorem lowerChar_ne_nil (c : Char) : lowerChar c ≠ [] := by
  unfold lowerChar
  split_ifs
  · simp
  · split <;> simp

end AffixSpeller.Unicode
