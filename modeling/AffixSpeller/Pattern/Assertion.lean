import AffixSpeller.Unicode.PatternClass

/-!
# Assertions of patterns

An assertion is a condition on a place between two characters. It looks at no more than the
characters on both sides.

## Main definitions

* `Place`: the characters on both sides of a place.
* `Assertion`: a condition on a place.
* `Assertion.holds`: whether the condition holds.
-/

namespace AffixSpeller

/-- The characters on both sides of a place; there is none at an end of the text. -/
structure Place where
  before : Option Char
  after : Option Char

/-- A condition on a place between characters. -/
inductive Assertion where
  | textStart
  | textEnd
  | lineStart
  | lineEnd
  | wordBoundary
  | noWordBoundary
  | wordStart
  | wordEnd
  | noWordBefore
  | noWordAfter
  deriving DecidableEq, Repr

namespace Assertion

/-- Whether there is a word character on a side. -/
def inWord (side : Option Char) : Bool :=
  side.any Unicode.patternWord.contains

/-- Whether the condition holds at the place. -/
def holds (p : Place) : Assertion → Bool
  | textStart => p.before.isNone
  | textEnd => p.after.isNone
  | lineStart => p.before.all (· == '\n')
  | lineEnd => p.after.all (· == '\n')
  | wordBoundary => inWord p.before != inWord p.after
  | noWordBoundary => inWord p.before == inWord p.after
  | wordStart => !inWord p.before && inWord p.after
  | wordEnd => inWord p.before && !inWord p.after
  | noWordBefore => !inWord p.before
  | noWordAfter => !inWord p.after

end Assertion

end AffixSpeller
