/-!
# Sets of code points

A property of characters is a set of code points. The set is stored as the increasing list of
the places where membership changes, the first being the first member. A character belongs to
the set when an odd number of those places lie at or before it. Places beyond the last code point
are left out, so a set has one form.

## Main definitions

* `CodeSet`: a set of code points.
* `CodeSet.contains`: membership of a character.
* `CodeSet.union`, `CodeSet.inter`, `CodeSet.diff`, `CodeSet.symmDiff`, `CodeSet.compl`: the
  operations on sets.
* `CodeSet.only?`: the member of a set that has one.
-/

namespace AffixSpeller

/-- A set of code points, given by the increasing list of the places where membership turns:
on at the first place, off at the second, on at the third, and so on. -/
structure CodeSet where
  turns : List Nat
  deriving DecidableEq, Repr

namespace CodeSet

/-- Whether the number of turns at or before `code` is odd; `turns` is increasing, so the count
stops at the first turn beyond `code`. -/
def holdsAt (code : Nat) : List Nat → Bool
  | [] => false
  | turn :: turns => if code < turn then false else !holdsAt code turns

/-- Whether the character belongs to the set. -/
def contains (s : CodeSet) (c : Char) : Bool :=
  holdsAt c.toNat s.turns

/-- The set without members. -/
def empty : CodeSet :=
  ⟨[]⟩

/-- The code points from `first` to `last`. -/
def range (first last : Nat) : CodeSet :=
  if last < first then empty else ⟨if last < 0x10FFFF then [first, last + 1] else [first]⟩

/-- The set of one code point. -/
def single (code : Nat) : CodeSet :=
  range code code

/-- The turns of a set whose membership at every place is `f` of the memberships in two sets. The
memberships before the first turns are `inA`, `inB` and `f inA inB`. -/
def mergeTurns (f : Bool → Bool → Bool) (inA inB : Bool) : List Nat → List Nat → List Nat
  | [], [] => []
  | a :: as, [] =>
    let rest := mergeTurns f (!inA) inB as []
    if f (!inA) inB = f inA inB then rest else a :: rest
  | [], b :: bs =>
    let rest := mergeTurns f inA (!inB) [] bs
    if f inA (!inB) = f inA inB then rest else b :: rest
  | a :: as, b :: bs =>
    if a < b then
      let rest := mergeTurns f (!inA) inB as (b :: bs)
      if f (!inA) inB = f inA inB then rest else a :: rest
    else if b < a then
      let rest := mergeTurns f inA (!inB) (a :: as) bs
      if f inA (!inB) = f inA inB then rest else b :: rest
    else
      let rest := mergeTurns f (!inA) (!inB) as bs
      if f (!inA) (!inB) = f inA inB then rest else a :: rest
termination_by as bs => as.length + bs.length

/-- The set whose membership is `f` of the memberships in two sets, where `f` excludes what is in
neither. -/
def combine (f : Bool → Bool → Bool) (a b : CodeSet) : CodeSet :=
  ⟨mergeTurns f false false a.turns b.turns⟩

/-- The members of either set. -/
def union : CodeSet → CodeSet → CodeSet :=
  combine (· || ·)

/-- The members of both sets. -/
def inter : CodeSet → CodeSet → CodeSet :=
  combine (· && ·)

/-- The members of the first set that are not in the second. -/
def diff : CodeSet → CodeSet → CodeSet :=
  combine fun inA inB => inA && !inB

/-- The members of one of the sets but not of the other. -/
def symmDiff : CodeSet → CodeSet → CodeSet :=
  combine (· != ·)

/-- The code points that are not in the set. -/
def compl (s : CodeSet) : CodeSet :=
  match s.turns with
  | 0 :: turns => ⟨turns⟩
  | turns => ⟨0 :: turns⟩

/-- The set of some code points. -/
def ofList (codes : List Nat) : CodeSet :=
  codes.foldl (fun s code => s.union (single code)) empty

/-- The member of a set that has one. -/
def only? (s : CodeSet) : Option Char :=
  s.turns.head?.bind fun code => if s = single code then some (Char.ofNat code) else none

end CodeSet

end AffixSpeller
