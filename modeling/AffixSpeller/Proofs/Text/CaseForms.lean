import AffixSpeller.Proofs.Unicode.CaseMapping
import AffixSpeller.Text.LetterCase
import Mathlib.Data.List.Basic

/-!
# Texts that come back from their case forms

Lower-casing takes many texts back from their upper-case form, but not all. Some letters have an
upper-case form of several characters, such as `SS` for `ß`; some share theirs with another letter,
as `ı` shares `I` with `i`; and a sigma comes back as the one that its place in the upper-case form
asks for. Since no character has an empty lower-case form, a text can only come back letter by
letter, so that these are all the reasons there are.

## Main definitions

* `Unicode.ComesBack`: lower-casing takes a character back from its upper-case form.
* `Text.ComesBackFromUpper`, `Text.ComesBackFromCapital`: every letter of a text comes back from the
  upper-case form, or from the capitalized form, of the text.

## Main results

* `Text.isUpper_toUpper`: upper-case forms are in upper case.
* `Text.isLower_iff`: a text is in lower case if all its characters are.
* `Text.toLower_toUpper_eq_self_iff`, `Text.toLower_capitalize_eq_self_iff`: which texts lower-casing
  takes back.
-/

namespace AffixSpeller

namespace Unicode

variable {c u : Char}

/-- Lower-casing takes the character back from its upper-case form. -/
def ComesBack (c : Char) : Prop :=
  (upperChar c).flatMap lowerChar = [c]

instance : DecidablePred ComesBack := fun c =>
  inferInstanceAs (Decidable ((upperChar c).flatMap lowerChar = [c]))

/-- A character comes back from one character only. -/
theorem comesBack_iff : ComesBack c ↔ ∃ u, upperChar c = [u] ∧ lowerChar u = [c] := by
  unfold ComesBack
  constructor
  · intro h
    cases hupper : upperChar c with
    | nil => exact absurd hupper (upperChar_ne_nil c)
    | cons u us =>
      rw [hupper, List.flatMap_cons] at h
      obtain ⟨hnil, -⟩ | ⟨hu, hus⟩ := List.append_eq_singleton_iff.1 h
      · exact absurd hnil (lowerChar_ne_nil u)
      · cases us with
        | nil => exact ⟨u, rfl, hu⟩
        | cons v vs => exact absurd (List.flatMap_eq_nil_iff.1 hus v (by simp)) (lowerChar_ne_nil v)
  · rintro ⟨u, hupper, hlower⟩
    simp [hupper, hlower]

theorem lowerChar_sigma : lowerChar 'Σ' = ['σ'] := by
  decide +kernel

end Unicode

namespace Text

open Unicode

variable {before after s t : Text} {c d u : Char} {cs ds : Text}

/-! ### Mappings that leave out no character -/

theorem length_le_length_flatMap {f : Char → Text} (hf : ∀ c, f c ≠ []) (t : Text) :
    t.length ≤ (t.flatMap f).length := by
  induction t with
  | nil => simp
  | cons c cs ih =>
    have hpiece := List.length_pos_iff.2 (hf c)
    rw [List.flatMap_cons, List.length_append, List.length_cons]
    omega

theorem flatMap_eq_self_iff {f : Char → Text} (hf : ∀ c, f c ≠ []) :
    t.flatMap f = t ↔ ∀ c ∈ t, f c = [c] := by
  induction t with
  | nil => simp
  | cons c cs ih =>
    rw [List.flatMap_cons, List.forall_mem_cons, ← ih]
    constructor
    · intro h
      have hpiece := List.length_pos_iff.2 (hf c)
      have hrest := length_le_length_flatMap hf cs
      have htotal := congrArg List.length h
      rw [List.length_append, List.length_cons] at htotal
      have hlength : (f c).length = [c].length := by
        rw [List.length_singleton]
        omega
      exact List.append_inj h hlength
    · rintro ⟨hc, hcs⟩
      rw [hc, hcs, List.singleton_append]

/-! ### Lower-casing character by character -/

/-- The sigma that lower-casing writes between two texts, the first of which is read backwards. -/
def sigmaBetween (before after : Text) : Char :=
  if startsCased before && !startsCased after then 'ς' else 'σ'

/-- What lower-casing makes of a character between two texts. -/
def lowerBetween (before : Text) (c : Char) (after : Text) : Text :=
  if c = 'Σ' then [sigmaBetween before after] else lowerChar c

theorem sigmaBetween_ne (before after : Text) : sigmaBetween before after ≠ 'Σ' := by
  unfold sigmaBetween
  split_ifs <;> decide

theorem lowerBetween_sigma (before after : Text) :
    lowerBetween before 'Σ' after = [sigmaBetween before after] := if_pos rfl

theorem lowerBetween_of_ne (h : c ≠ 'Σ') : lowerBetween before c after = lowerChar c := if_neg h

theorem lowerAfter_cons (before : Text) (c : Char) (cs : Text) :
    lowerAfter before (c :: cs) = lowerBetween before c cs ++ lowerAfter (c :: before) cs := by
  rw [lowerAfter, lowerBetween, sigmaBetween]
  split_ifs <;> rfl

theorem lowerBetween_ne_nil (before : Text) (c : Char) (after : Text) :
    lowerBetween before c after ≠ [] := by
  unfold lowerBetween
  split_ifs
  · simp
  · exact lowerChar_ne_nil c

theorem length_le_length_lowerAfter (before t : Text) :
    t.length ≤ (lowerAfter before t).length := by
  induction t generalizing before with
  | nil => simp
  | cons c cs ih =>
    have hpiece := List.length_pos_iff.2 (lowerBetween_ne_nil before c cs)
    have hrest := ih (c :: before)
    rw [lowerAfter_cons, List.length_append, List.length_cons]
    omega

/-- If the lower-case form of a text is no longer than the text seems, then what its first character
comes from was one character, and nothing was gained on the way. -/
theorem lowerAfter_append_eq_cons_iff (hs : s ≠ []) (hlength : ds.length ≤ t.length) :
    lowerAfter before (s ++ t) = d :: ds ↔
      ∃ u, s = [u] ∧ lowerBetween before u t = [d] ∧ lowerAfter (u :: before) t = ds := by
  constructor
  · intro h
    obtain ⟨u, us, rfl⟩ := List.exists_cons_of_ne_nil hs
    rw [List.cons_append, lowerAfter_cons] at h
    have hpiece := List.length_pos_iff.2 (lowerBetween_ne_nil before u (us ++ t))
    have hrest := length_le_length_lowerAfter (u :: before) (us ++ t)
    have htotal := congrArg List.length h
    rw [List.length_append, List.length_cons] at htotal
    rw [List.length_append] at hrest
    obtain rfl : us = [] := List.length_eq_zero_iff.1 (by omega)
    have hone : (lowerBetween before u ([] ++ t)).length = [d].length := by
      rw [List.length_singleton]
      omega
    obtain ⟨hd, hds⟩ := List.append_inj h hone
    exact ⟨u, rfl, hd, hds⟩
  · rintro ⟨u, rfl, hd, hds⟩
    rw [List.singleton_append, lowerAfter_cons, hd, hds, List.singleton_append]

/-- A character stays what it is if it is in lower case. -/
theorem lowerBetween_eq_self_iff : lowerBetween before c after = [c] ↔ lowerChar c = [c] := by
  by_cases hsigma : c = 'Σ'
  · subst hsigma
    rw [lowerBetween_sigma, lowerChar_sigma]
    have hother : 'σ' ≠ 'Σ' := by decide
    simp [sigmaBetween_ne, hother]
  · rw [lowerBetween_of_ne hsigma]

theorem lowerAfter_eq_self_iff : lowerAfter before t = t ↔ ∀ c ∈ t, lowerChar c = [c] := by
  induction t generalizing before with
  | nil => simp [lowerAfter]
  | cons c cs ih =>
    have hfirst : lowerAfter before (c :: cs) = c :: cs ↔
        ∃ u, [c] = [u] ∧ lowerBetween before u cs = [c] ∧ lowerAfter (u :: before) cs = cs :=
      lowerAfter_append_eq_cons_iff (List.cons_ne_nil c []) (Nat.le_refl cs.length)
    rw [hfirst]
    simp [lowerBetween_eq_self_iff, ih]

/-- **Texts in lower case.** -/
theorem isLower_iff : isLower t = true ↔ ∀ c ∈ t, lowerChar c = [c] := by
  rw [isLower, beq_iff_eq, eq_comm, toLower, lowerAfter_eq_self_iff]

/-! ### Back from upper case -/

theorem toUpper_cons (c : Char) (cs : Text) : toUpper (c :: cs) = upperChar c ++ toUpper cs := rfl

/-- **Upper-case forms are in upper case.** -/
theorem isUpper_toUpper (t : Text) : isUpper (toUpper t) = true := by
  have hforms : ∀ d ∈ toUpper t, upperChar d = [d] := by
    intro d hd
    obtain ⟨c, -, hc⟩ := List.mem_flatMap.1 hd
    exact upperChar_of_mem_upperChar hc
  have hself : toUpper (toUpper t) = toUpper t :=
    (flatMap_eq_self_iff upperChar_ne_nil).2 hforms
  rw [isUpper, hself, beq_self_eq_true]

/-- Every letter comes back from the upper-case form of the text, and every sigma is the one that
its place there asks for. -/
structure ComesBackFromUpper (t : Text) : Prop where
  letters : ∀ c ∈ t, upperChar c = ['Σ'] ∨ ComesBack c
  sigmas : ∀ l c r, t = l ++ c :: r → upperChar c = ['Σ'] →
    c = sigmaBetween (toUpper l).reverse (toUpper r)

/-- What a character must be to come back from between two texts. -/
private theorem exists_lowerBetween_iff :
    (∃ u, upperChar c = [u] ∧ lowerBetween before u after = [c]) ↔
      (upperChar c = ['Σ'] ∨ ComesBack c) ∧
        (upperChar c = ['Σ'] → c = sigmaBetween before after) := by
  by_cases hsigma : upperChar c = ['Σ']
  · simp [hsigma, lowerBetween_sigma, eq_comm]
  · simp only [hsigma, false_or, false_imp_iff, and_true, comesBack_iff]
    refine exists_congr fun u => and_congr_right fun hu => ?_
    have hne : u ≠ 'Σ' := by
      rintro rfl
      exact hsigma hu
    rw [lowerBetween_of_ne hne]

/-- The places of sigmas are told by what stands before the text, too. -/
private theorem lowerAfter_toUpper_eq_self_iff :
    lowerAfter before (toUpper t) = t ↔
      (∀ c ∈ t, upperChar c = ['Σ'] ∨ ComesBack c) ∧
        ∀ l c r, t = l ++ c :: r → upperChar c = ['Σ'] →
          c = sigmaBetween ((toUpper l).reverse ++ before) (toUpper r) := by
  induction t generalizing before with
  | nil => simp [toUpper, lowerAfter]
  | cons c cs ih =>
    have hlength : cs.length ≤ (toUpper cs).length := length_le_length_flatMap upperChar_ne_nil cs
    rw [toUpper_cons, lowerAfter_append_eq_cons_iff (upperChar_ne_nil c) hlength]
    constructor
    · rintro ⟨u, hu, hc, hcs⟩
      obtain ⟨hletter, hsigma⟩ := exists_lowerBetween_iff.1 ⟨u, hu, hc⟩
      obtain ⟨hletters, hsigmas⟩ := ih.1 hcs
      refine ⟨List.forall_mem_cons.2 ⟨hletter, hletters⟩, fun l d r h hd => ?_⟩
      obtain ⟨rfl, h⟩ | ⟨l', rfl, rfl⟩ := List.cons_eq_append_iff.1 h
      · cases h
        exact hsigma hd
      · rw [toUpper_cons, hu]
        simpa using hsigmas l' d r rfl hd
    · rintro ⟨hletters, hsigmas⟩
      obtain ⟨hletter, hletters⟩ := List.forall_mem_cons.1 hletters
      obtain ⟨u, hu, hc⟩ := exists_lowerBetween_iff.2 ⟨hletter, hsigmas [] c cs rfl⟩
      refine ⟨u, hu, hc, ih.2 ⟨hletters, fun l d r h hd => ?_⟩⟩
      subst h
      simpa [toUpper_cons, hu] using hsigmas (c :: l) d r rfl hd

/-- **Back from upper case.** -/
theorem toLower_toUpper_eq_self_iff : toLower (toUpper t) = t ↔ ComesBackFromUpper t := by
  rw [toLower, lowerAfter_toUpper_eq_self_iff]
  simp only [List.append_nil]
  exact ⟨fun h => ⟨h.1, h.2⟩, fun h => ⟨h.letters, h.sigmas⟩⟩

/-! ### Back from the capitalized form -/

/-- The first letter comes back from its upper-case form, and the others are in lower case. -/
def ComesBackFromCapital : Text → Prop
  | [] => True
  | c :: cs => ComesBack c ∧ ∀ d ∈ cs, lowerChar d = [d]

theorem capitalize_cons (c : Char) (cs : Text) :
    capitalize (c :: cs) = upperChar c ++ cs.flatMap lowerChar := rfl

/-- A sigma that begins a text is not final. -/
theorem lowerBetween_nil (c : Char) (after : Text) : lowerBetween [] c after = lowerChar c := by
  by_cases hsigma : c = 'Σ'
  · rw [hsigma, lowerBetween_sigma, lowerChar_sigma]
    rfl
  · exact lowerBetween_of_ne hsigma

/-- Lower-casing changes nothing in characters that are in lower case by themselves. -/
theorem lowerAfter_flatMap_lowerChar :
    lowerAfter before (t.flatMap lowerChar) = t.flatMap lowerChar := by
  rw [lowerAfter_eq_self_iff]
  intro d hd
  obtain ⟨c, -, hc⟩ := List.mem_flatMap.1 hd
  exact lowerChar_of_mem_lowerChar hc

/-- **Back from the capitalized form.** -/
theorem toLower_capitalize_eq_self_iff :
    toLower (capitalize t) = t ↔ ComesBackFromCapital t := by
  cases t with
  | nil => simp [capitalize, toLower, lowerAfter, ComesBackFromCapital]
  | cons c cs =>
    rw [capitalize_cons, toLower, lowerAfter_append_eq_cons_iff (upperChar_ne_nil c)
      (length_le_length_flatMap lowerChar_ne_nil cs), ComesBackFromCapital, comesBack_iff]
    simp only [lowerBetween_nil, lowerAfter_flatMap_lowerChar,
      flatMap_eq_self_iff lowerChar_ne_nil, ← and_assoc, exists_and_right]

/-- The capitalized form of a text that comes back from it is capitalized. -/
theorem isCapitalized_capitalize (h : ComesBackFromCapital t) :
    isCapitalized (capitalize t) = true := by
  cases t with
  | nil => rfl
  | cons c cs =>
    obtain ⟨hc, hcs⟩ := h
    obtain ⟨u, hu, -⟩ := comesBack_iff.1 hc
    have hself : upperChar u = [u] := upperChar_of_mem_upperChar (by rw [hu, List.mem_singleton])
    have hrest := (flatMap_eq_self_iff lowerChar_ne_nil).2 hcs
    rw [isCapitalized, capitalize_cons, hu, hrest, List.singleton_append, capitalize_cons, hself,
      hrest, List.singleton_append, beq_self_eq_true]

/-- In a text in lower case, only the first letter is in question. -/
theorem comesBackFromCapital_iff_of_isLower (h : isLower t = true) :
    ComesBackFromCapital t ↔ ∀ c ∈ t.head?, ComesBack c := by
  cases t with
  | nil => simp [ComesBackFromCapital]
  | cons c cs =>
    have hcs : ∀ d ∈ cs, lowerChar d = [d] :=
      fun d hd => isLower_iff.1 h d (List.mem_cons_of_mem c hd)
    rw [ComesBackFromCapital, and_iff_left hcs]
    simp

end Text

end AffixSpeller
