/-!
# Runs of letters with a common case shift

A simple case mapping sends one code point to one code point. Neighbouring letters mostly move
by the same distance, so the mapping is stored as runs: every first or every second code point
between two ends moves by one shift.

## Main definitions

* `CaseRun`: code points that move together.
* `CaseRun.lookup`: where a sorted list of runs sends a code point.
* `CaseRun.pairs`: the code points of a run, each with its image.
-/

namespace AffixSpeller.Unicode

/-- The code points `first`, `first + stride`, … up to `last`, which all move by `shift`. -/
structure CaseRun where
  first : Nat
  last : Nat
  stride : Nat
  shift : Int

namespace CaseRun

/-- The image of `code` under runs that are sorted and do not overlap, if some run holds it. -/
def lookup (code : Nat) : List CaseRun → Option Nat
  | [] => none
  | run :: runs =>
    if code < run.first then none
    else if code ≤ run.last then
      if (code - run.first) % run.stride = 0 then some (code + run.shift).toNat else none
    else lookup code runs

/-- The code points of a run, each with its image. -/
def pairs (run : CaseRun) : List (Nat × Nat) :=
  (List.range ((run.last - run.first) / run.stride + 1)).map fun i =>
    let code := run.first + i * run.stride
    (code, (code + run.shift).toNat)

end CaseRun

end AffixSpeller.Unicode
