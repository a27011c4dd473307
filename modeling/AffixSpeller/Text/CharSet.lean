/-!
# Sets of characters

The members of a set of characters are kept in their order and each of them once, so that a set
has one form and halving finds a member.

## Main definitions

* `CharSet`: a set of characters.
* `CharSet.singleton`, `CharSet.ofList`: the set of one character, and of some characters.
* `CharSet.contains`: membership of a character.
-/

namespace AffixSpeller

/-- A set of characters, given by the increasing array of its members. -/
structure CharSet where
  members : Array Char
  increasing : members.toList.Pairwise (· < ·)
  deriving DecidableEq, Repr

namespace CharSet

/-! ### Increasing lists -/

/-- An increasing list with one more member; a member that it has already is not added again. -/
def insertOrdered (c : Char) : List Char → List Char
  | [] => [c]
  | d :: ds => if c < d then c :: d :: ds else if c = d then d :: ds else d :: insertOrdered c ds

@[simp] theorem mem_insertOrdered {b c : Char} {cs : List Char} :
    b ∈ insertOrdered c cs ↔ b = c ∨ b ∈ cs := by
  induction cs with
  | nil => simp [insertOrdered]
  | cons d ds ih =>
    simp only [insertOrdered]
    split
    · simp
    · split
      · rename_i h
        simp [h]
      · simp only [List.mem_cons, ih, or_left_comm]

theorem pairwise_insertOrdered {c : Char} {cs : List Char} (h : cs.Pairwise (· < ·)) :
    (insertOrdered c cs).Pairwise (· < ·) := by
  induction cs with
  | nil => exact List.pairwise_singleton _ c
  | cons d ds ih =>
    obtain ⟨hd, hds⟩ := List.pairwise_cons.1 h
    simp only [insertOrdered]
    split
    · rename_i hcd
      refine List.pairwise_cons.2 ⟨fun b hb => ?_, h⟩
      obtain rfl | hb := List.mem_cons.1 hb
      · exact hcd
      · exact Char.lt_trans hcd (hd b hb)
    · rename_i hcd
      split
      · exact h
      · rename_i hne
        have hdc : d < c := Char.not_le.1 fun hle =>
          hne (Char.le_antisymm hle (Char.not_lt.1 hcd))
        refine List.pairwise_cons.2 ⟨fun b hb => ?_, ih hds⟩
        obtain rfl | hb := mem_insertOrdered.1 hb
        · exact hdc
        · exact hd b hb

theorem pairwise_foldr_insertOrdered (cs : List Char) :
    (cs.foldr insertOrdered []).Pairwise (· < ·) := by
  induction cs with
  | nil => exact .nil
  | cons c cs ih => exact pairwise_insertOrdered ih

/-! ### Sets -/

/-- The set of one character. -/
def singleton (c : Char) : CharSet where
  members := #[c]
  increasing := List.pairwise_singleton _ c

/-- The set of some characters: they are sorted, and repetitions are left out. -/
def ofList (cs : List Char) : CharSet where
  members := (cs.foldr insertOrdered []).toArray
  increasing := pairwise_foldr_insertOrdered cs

/-- Whether the character is a member; every comparison halves the members that are left. -/
def contains (s : CharSet) (c : Char) : Bool :=
  s.members.binSearchContains c (· < ·)

end CharSet

end AffixSpeller
