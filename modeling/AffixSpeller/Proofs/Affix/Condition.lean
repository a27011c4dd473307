import AffixSpeller.Affix.Condition
import AffixSpeller.Proofs.Text.CharSet
import Mathlib.Data.List.Forall2

/-!
# What the pattern of a condition says

A pattern is a sequence of items: a full stop, a group in brackets, or a single character. Each
item says which characters it allows, and a condition holds of a word if every character that faces
an item is one that the item allows. The slots of a condition are the items of its pattern one by
one; a group that lists nothing has no slot, and a pattern with such a group is refused.

## Main definitions

* `PatternItem`: what a pattern says of one position.
* `PatternItem.ofPattern`: the items of a pattern.
* `PatternItem.Allows`, `PatternItem.ListsNothing`: the characters that an item allows, and the
  groups that list none.
* `PatternItem.HoldAt`: when the items hold of a word at one of its ends.

## Main results

* `PatternItem.sequence_eq`: the slots of a pattern are those of its items.
* `Condition.admits_iff`, `Condition.admits_reverse_iff`: which characters the slots face at the
  start of a word and at its end.
* `Condition.compile_means_items`: which patterns are refused, and which words satisfy the condition of
  any other.
-/

namespace AffixSpeller

/-- What a pattern says of one position. -/
inductive PatternItem where
  | any
  | literal (c : Char)
  | group (body : List Char)
  deriving DecidableEq, Repr

namespace PatternItem

/-- The items of a pattern, read from left to right. The body of a group ends at the first closing
bracket, or with the pattern if there is none. -/
def ofPattern : Text → List PatternItem
  | [] => []
  | c :: cs =>
    if c = '.' then any :: ofPattern cs
    else if c = '[' then
      group (cs.takeWhile (· != ']')) :: ofPattern (cs.dropWhile (· != ']')).tail
    else literal c :: ofPattern cs
termination_by pattern => pattern.length
decreasing_by
  · simp
  · have hrest := (List.dropWhile_suffix (· != ']') (l := cs)).length_le
    simp only [List.length_tail, List.length_cons]
    omega
  · simp

/-- The group lists no character, once a caret that begins it is taken off. -/
def ListsNothing : PatternItem → Prop
  | group body => body = [] ∨ body = ['^']
  | _ => False

/-- The characters that the item allows. A group that begins with a caret allows those that it does
not list behind the caret. -/
def Allows : PatternItem → Char → Prop
  | any, _ => True
  | literal d, c => c = d
  | group body, c => if body.head? = some '^' then c ∉ body.tail else c ∈ body

instance : DecidablePred ListsNothing := fun item => by
  cases item <;> unfold ListsNothing <;> infer_instance

/-- The place in a word that the first of `count` items faces: at the start of the word the first
character, and at its end the one that lets the last item face the last character. -/
def firstPlace (word : Text) (count : Nat) : Anchor → Nat
  | .start => 0
  | .finish => word.length - count

/-- The items hold of the word at the given end: the word is too short for them, or each of them
allows the character that it faces. -/
def HoldAt (items : List PatternItem) (word : Text) (anchor : Anchor) : Prop :=
  word.length < items.length ∨
    ∀ (k : Nat) (item : PatternItem) (c : Char), items[k]? = some item →
      word[firstPlace word items.length anchor + k]? = some c → item.Allows c

/-! ### Slots of items -/

/-- The slot of an item. -/
def slot? : PatternItem → Option Slot
  | any => some .any
  | literal c => some (.oneOf (.singleton c))
  | group body => Slot.ofGroup body

variable {item : PatternItem} {items : List PatternItem} {slot : Slot} {slots : List Slot}

theorem slot?_eq_none_iff : item.slot? = none ↔ item.ListsNothing := by
  cases item with
  | any => simp [slot?, ListsNothing]
  | literal c => simp [slot?, ListsNothing]
  | group body =>
    simp only [slot?, ListsNothing]
    unfold Slot.ofGroup
    split <;> simp_all

/-- **A slot admits what its item allows.** -/
theorem accepts_of_slot? (h : item.slot? = some slot) (c : Char) :
    slot.accepts c = true ↔ item.Allows c := by
  cases item with
  | any =>
    cases h
    simp [Slot.accepts, Allows]
  | literal d =>
    cases h
    simp [Slot.accepts, Allows]
  | group body =>
    simp only [slot?, Slot.ofGroup] at h
    split at h
    · cases h
    · cases h
    · cases h
      simp [Slot.accepts, Allows, ← Bool.not_eq_true]
    · rename_i hcaret
      cases h
      have hhead : body.head? ≠ some '^' := by
        intro hhead
        obtain ⟨cs, rfl⟩ := List.head?_eq_some_iff.1 hhead
        exact hcaret cs rfl
      simp [Slot.accepts, Allows, hhead]

/-- Inside a group the rest of its body is read, up to the closing bracket. -/
theorem sequence_group (body : List Char) (cs : Text) :
    Slot.sequence (some body) cs =
      (Slot.ofGroup (body ++ cs.takeWhile (· != ']'))).bind fun slot =>
        (Slot.sequence none (cs.dropWhile (· != ']')).tail).map (slot :: ·) := by
  induction cs generalizing body with
  | nil =>
    simp only [Slot.sequence, List.takeWhile_nil, List.append_nil, List.dropWhile_nil,
      List.tail_nil]
    cases Slot.ofGroup body <;> rfl
  | cons c cs ih =>
    by_cases hc : c = ']'
    · simp [Slot.sequence, hc]
    · simp [Slot.sequence, hc, ih]

theorem mapM_slot?_cons (item : PatternItem) (items : List PatternItem) :
    (item :: items).mapM slot? =
      item.slot?.bind fun slot => (items.mapM slot?).map (slot :: ·) := by
  rw [List.mapM_cons]
  cases item.slot? <;> cases items.mapM slot? <;> rfl

/-- **The slots of a pattern** are those of its items. -/
theorem sequence_eq (pattern : Text) :
    Slot.sequence none pattern = (ofPattern pattern).mapM slot? := by
  fun_induction ofPattern pattern with
  | case1 => rfl
  | case2 cs ih =>
    simp only [Slot.sequence, ↓reduceIte, ih, mapM_slot?_cons, slot?, Option.bind_some]
  | case3 cs hdot ih =>
    simp only [Slot.sequence, hdot, ↓reduceIte, sequence_group, List.nil_append, ih,
      mapM_slot?_cons, slot?]
  | case4 c cs hdot hgroup ih =>
    simp only [Slot.sequence, hdot, hgroup, ↓reduceIte, ih, mapM_slot?_cons, slot?,
      Option.bind_some]

theorem mapM_slot?_eq_none_iff : items.mapM slot? = none ↔ ∃ item ∈ items, item.ListsNothing := by
  induction items with
  | nil => simp
  | cons item items ih =>
    rw [mapM_slot?_cons]
    cases hslot : item.slot? with
    | none => simp [slot?_eq_none_iff.1 hslot]
    | some slot =>
      have hlists : ¬item.ListsNothing := by simp [← slot?_eq_none_iff, hslot]
      simp [ih, hlists]

/-- There is a slot for each item, in the order of the items. -/
theorem forall₂_of_mapM_slot? (h : items.mapM slot? = some slots) :
    List.Forall₂ (fun item slot => item.slot? = some slot) items slots := by
  induction items generalizing slots with
  | nil =>
    cases h
    exact .nil
  | cons item items ih =>
    rw [mapM_slot?_cons] at h
    obtain ⟨slot, hslot, h⟩ := Option.bind_eq_some_iff.1 h
    obtain ⟨rest, hrest, rfl⟩ := Option.map_eq_some_iff.1 h
    exact .cons hslot (ih hrest)

end PatternItem

/-! ### Characters that slots face -/

namespace Condition

variable {slots : List Slot} {word : Text}

/-- From the start, every slot admits the character at its own place. -/
theorem admits_iff :
    admits slots word = true ↔
      ∀ (k : Nat) (slot : Slot) (c : Char), slots[k]? = some slot → word[k]? = some c →
        slot.accepts c = true := by
  simp only [admits, List.all_eq_true, List.mem_iff_getElem?, forall_exists_index]
  constructor
  · intro h k slot c hslot hc
    exact h (slot, c) k (List.getElem?_zip_eq_some.2 ⟨hslot, hc⟩)
  · rintro h ⟨slot, c⟩ k hzip
    obtain ⟨hslot, hc⟩ := List.getElem?_zip_eq_some.1 hzip
    exact h k slot c hslot hc

/-- From the end, the last slot faces the last character. -/
theorem admits_reverse_iff (h : slots.length ≤ word.length) :
    admits slots.reverse word.reverse = true ↔
      ∀ (k : Nat) (slot : Slot) (c : Char), slots[k]? = some slot →
        word[word.length - slots.length + k]? = some c → slot.accepts c = true := by
  rw [admits_iff]
  -- counted from the end, the place `k` is the place `slots.length - 1 - k`
  have hplace {k : Nat} (hk : k < slots.length) :
      slots.reverse[slots.length - 1 - k]? = slots[k]? ∧
        word.reverse[slots.length - 1 - k]? = word[word.length - slots.length + k]? := by
    rw [List.getElem?_reverse (by omega), List.getElem?_reverse (by omega)]
    constructor <;> congr 1 <;> omega
  constructor
  · intro hall k slot c hslot hc
    obtain ⟨hk, -⟩ := List.getElem?_eq_some_iff.1 hslot
    obtain ⟨hs, hw⟩ := hplace hk
    exact hall _ slot c (hs.trans hslot) (hw.trans hc)
  · intro hall k slot c hslot hc
    obtain ⟨hk, -⟩ := List.getElem?_eq_some_iff.1 hslot
    rw [List.length_reverse] at hk
    obtain ⟨hs, hw⟩ := hplace (k := slots.length - 1 - k) (by omega)
    have hback : slots.length - 1 - (slots.length - 1 - k) = k := by omega
    rw [hback] at hs hw
    exact hall _ slot c (hs.symm.trans hslot) (hw.symm.trans hc)

/-- A condition holds of a word that is too short for it; on any other word every slot admits the
character that it faces. -/
theorem accepts_iff (condition : Condition) (word : Text) (anchor : Anchor) :
    condition.accepts word anchor = true ↔
      word.length < condition.slots.length ∨
        ∀ (k : Nat) (slot : Slot) (c : Char), condition.slots[k]? = some slot →
          word[PatternItem.firstPlace word condition.slots.length anchor + k]? = some c →
          slot.accepts c = true := by
  unfold accepts
  by_cases hshort : word.length < condition.slots.length
  · simp [hshort]
  · cases hslots : condition.slots with
    | nil => simp
    | cons slot slots =>
      rw [hslots] at hshort
      rw [if_neg (by simpa using hshort)]
      simp only [hshort, false_or]
      cases anchor with
      | start => simp only [PatternItem.firstPlace, Nat.zero_add, admits_iff]
      | finish => exact admits_reverse_iff (by omega)

/-- **A condition holds where the items of its pattern do.** -/
theorem accepts_iff_holdAt {items : List PatternItem} {slots : List Slot}
    (h : items.mapM PatternItem.slot? = some slots) (word : Text) (anchor : Anchor) :
    accepts ⟨slots⟩ word anchor = true ↔ PatternItem.HoldAt items word anchor := by
  have hslots := PatternItem.forall₂_of_mapM_slot? h
  obtain ⟨hlength, hslot⟩ := List.forall₂_iff_get.1 hslots
  rw [accepts_iff, PatternItem.HoldAt, hlength]
  refine or_congr_right ⟨fun hall k item c hitem hc => ?_, fun hall k slot c hfaced hc => ?_⟩
  · obtain ⟨hk, rfl⟩ := List.getElem?_eq_some_iff.1 hitem
    have hk' : k < slots.length := hlength ▸ hk
    have haccepts := hall k slots[k] c (List.getElem?_eq_getElem hk') hc
    exact (PatternItem.accepts_of_slot? (hslot k hk hk') c).1 haccepts
  · obtain ⟨hk, rfl⟩ := List.getElem?_eq_some_iff.1 hfaced
    have hk' : k < items.length := hlength ▸ hk
    have hallows := hall k items[k] c (List.getElem?_eq_getElem hk') hc
    exact (PatternItem.accepts_of_slot? (hslot k hk' hk) c).2 hallows

/-- A lone full stop holds of every word, so that asking nothing is all the same. -/
private theorem holdAt_fullStop (word : Text) (anchor : Anchor) :
    PatternItem.HoldAt (PatternItem.ofPattern ['.']) word anchor := by
  have hitems : PatternItem.ofPattern ['.'] = [.any] := by simp [PatternItem.ofPattern]
  refine Or.inr fun k item c hitem _ => ?_
  rw [hitems] at hitem
  rw [List.mem_singleton.1 (List.mem_of_getElem? hitem)]
  trivial

/-- **What a pattern means.** It is refused if and only if one of its groups lists nothing. Any
other pattern has a condition, which holds of a word at either end if and only if the word is too
short for the items of the pattern or each item allows the character that it faces. -/
theorem compile_means_items (pattern : Text) :
    (∀ error, compile pattern = .error error ↔
      error = ⟨pattern⟩ ∧ ∃ item ∈ PatternItem.ofPattern pattern, item.ListsNothing) ∧
    ((∀ item ∈ PatternItem.ofPattern pattern, ¬item.ListsNothing) →
      ∃ condition, compile pattern = .ok condition ∧ ∀ word anchor,
        condition.accepts word anchor = true ↔
          PatternItem.HoldAt (PatternItem.ofPattern pattern) word anchor) := by
  have hslots := PatternItem.sequence_eq pattern
  by_cases hstop : pattern = ['.']
  · subst hstop
    have hcompile : compile ['.'] = .ok trivial := rfl
    refine ⟨fun error => ?_, fun _ => ⟨trivial, hcompile, fun word anchor => ?_⟩⟩
    · simp [hcompile, PatternItem.ofPattern, PatternItem.ListsNothing]
    · exact iff_of_true rfl (holdAt_fullStop word anchor)
  · unfold compile
    rw [if_neg hstop]
    cases hsequence : Slot.sequence none pattern with
    | none =>
      rw [hsequence] at hslots
      have hnothing := PatternItem.mapM_slot?_eq_none_iff.1 hslots.symm
      refine ⟨fun error => ?_, fun hall => ?_⟩
      · simp only [Except.error.injEq, hnothing, and_true]
        exact eq_comm
      · obtain ⟨item, hitem, hlists⟩ := hnothing
        exact absurd hlists (hall item hitem)
    | some slots =>
      rw [hsequence] at hslots
      refine ⟨fun error => ?_, fun _ => ⟨_, rfl, accepts_iff_holdAt hslots.symm⟩⟩
      simp [← PatternItem.mapM_slot?_eq_none_iff, ← hslots]

/-- A group that is not closed and lists a caret, and one that lists nothing. -/
theorem compile_means_items_carets :
    (∃ condition, compile "x[^^é".toList = .ok condition ∧
      PatternItem.ofPattern "x[^^é".toList = [.literal 'x', .group "^^é".toList] ∧
      condition.accepts "axb".toList .finish = true ∧
      PatternItem.HoldAt (PatternItem.ofPattern "x[^^é".toList) "axb".toList .finish ∧
      condition.accepts "ax^".toList .finish = false ∧
      ¬PatternItem.HoldAt (PatternItem.ofPattern "x[^^é".toList) "ax^".toList .finish) ∧
    compile "a[^]b".toList = .error ⟨"a[^]b".toList⟩ := by
  constructor
  · obtain ⟨condition, hcompile, haccepts⟩ :=
      (compile_means_items "x[^^é".toList).2 (by decide +kernel)
    have hcomputed : (compile "x[^^é".toList).toOption.any (fun condition =>
        condition.accepts "axb".toList .finish && !condition.accepts "ax^".toList .finish) = true :=
      by decide +kernel
    rw [hcompile] at hcomputed
    obtain ⟨hyes, hno⟩ : condition.accepts "axb".toList .finish = true ∧
        condition.accepts "ax^".toList .finish = false := by
      simpa [Except.toOption] using hcomputed
    refine ⟨condition, hcompile, by decide +kernel, hyes, (haccepts _ _).1 hyes, hno, ?_⟩
    rw [← haccepts, hno]
    decide
  · exact ((compile_means_items _).1 _).2 ⟨rfl, by decide +kernel⟩

end Condition

end AffixSpeller
