import AffixSpeller.Pattern.Expression

/-!
# Weights of expressions

A counted repetition stands for many copies of what it repeats, so a short pattern may be large.
The weight of an expression is the number of bytes that it takes when it is written out for texts
in UTF-8: 32 bytes for a step, and 4 for each way that a choice has. A pattern may weigh ten
mebibytes and no more.

A set of characters is written out as rows of byte ranges, one row for the characters whose bytes
lie in those ranges. Rows that begin alike share their beginnings.

## Main definitions

* `CodeSet.byteRows`: the characters of a set as rows of byte ranges.
* `Expression.weight`: the number of bytes that an expression takes.
* `Expression.weightLimit`: the greatest weight of a pattern.
-/

namespace AffixSpeller

/-- The characters from `first` to `last` as rows of byte ranges. A row has a first byte, which
counts from `lead`, and `n` bytes more with six bits each; `first` and `last` are the bits of all
of them. -/
def byteRows (lead first last : Nat) : Nat → List (List (Nat × Nat))
  | 0 => [[(lead + first, lead + last)]]
  | n + 1 =>
    let block := Nat.pow 64 (n + 1)
    let a := first / block
    let b := last / block
    let within := fun (byte first last : Nat) =>
      (byteRows 0x80 first last n).map ((lead + byte, lead + byte) :: ·)
    if a = b then within a (first % block) (last % block)
    else
      let cutBelow := first % block ≠ 0
      let cutAbove := last % block ≠ block - 1
      let a' := if cutBelow then a + 1 else a
      let b' := if cutAbove then b - 1 else b
      let whole := (lead + a', lead + b') :: List.replicate (n + 1) (0x80, 0xBF)
      (if cutBelow then within a (first % block) (block - 1) else [])
        ++ (if a' ≤ b' then [whole] else [])
        ++ if cutAbove then within b 0 (last % block) else []

namespace CodeSet

/-- The first and the last members of the stretches of a set. -/
def stretches : List Nat → List (Nat × Nat)
  | [] => []
  | [first] => [(first, 0x10FFFF)]
  | first :: turn :: turns => (first, turn - 1) :: stretches turns

/-- The ranges of characters with equally many bytes: the first and the last character, the least
first byte, and the number of further bytes. -/
def utf8Lengths : List (Nat × Nat × Nat × Nat) :=
  [(0, 0x7F, 0, 0), (0x80, 0x7FF, 0xC0, 1), (0x800, 0xD7FF, 0xE0, 2), (0xE000, 0xFFFF, 0xE0, 2),
    (0x10000, 0x10FFFF, 0xF0, 3)]

/-- The characters of a set as rows of byte ranges, in increasing order. -/
def byteRows (s : CodeSet) : List (List (Nat × Nat)) :=
  (stretches s.turns).flatMap fun (first, last) =>
    utf8Lengths.flatMap fun (least, greatest, lead, n) =>
      let first := max first least
      let last := min last greatest
      if first ≤ last then AffixSpeller.byteRows lead first last n else []

/-- The length of what two rows begin with. -/
def sharedLength : List (Nat × Nat) → List (Nat × Nat) → Nat
  | a :: as, b :: bs => if a = b then sharedLength as bs + 1 else 0
  | _, _ => 0

/-- The number of byte ranges in the rows that follow a row, without those shared with the row
before. -/
def countRanges (row : List (Nat × Nat)) : List (List (Nat × Nat)) → Nat
  | [] => 0
  | next :: rows => next.length - sharedLength row next + countRanges next rows

/-- The number of bytes that a set takes. A set of ASCII characters takes two steps, and eight
bytes for each stretch. -/
def weight (s : CodeSet) : Nat :=
  if s.byteRows.all (·.length = 1) then 64 + 8 * (stretches s.turns).length
  else 64 + 4 * s.byteRows.length + 32 * countRanges [] s.byteRows

end CodeSet

namespace Expression

/-- The greatest weight of a pattern. -/
def weightLimit : Nat := 10485760

/-- The number of bytes that an expression takes. -/
def weight : Expression → Nat
  | empty => 32
  | literal text => 32 * text.utf8Length
  | oneOf set => set.weight
  | assertion _ => 32
  | seq a b => weight a + weight b
  | alt a b =>
    let choice := match b with
      | alt _ _ => 4
      | _ => 72
    choice + weight a + weight b
  | repeated _ least most a =>
    match most, least with
    | some 1, 0 => 72 + weight a
    | some most, 0 => 64 + most * (40 + weight a)
    | some most, least =>
      least * weight a + if least < most then 32 + (most - least) * (40 + weight a) else 0
    | none, 0 => (if a.minLength?.getD 0 = 0 then 112 else 40) + weight a
    | none, least => least * weight a + 40
  | group _ a => 64 + weight a

end Expression

end AffixSpeller
