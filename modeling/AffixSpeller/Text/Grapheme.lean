import AffixSpeller.Text.Basic
import AffixSpeller.Unicode.GraphemeBreak

/-!
# Grapheme clusters

What a reader takes for one character may be several: a letter with marks, a Hangul syllable made
of its parts, a pair of regional indicators, or pictographs held together by joiners. The rules for
extended grapheme clusters say where one cluster ends and the next begins; whether there is a
boundary in front of a character depends on the characters before it through a small state.

## Main definitions

* `Grapheme.State`: what the rules remember of the characters before a place.
* `Grapheme.joins`: whether a character continues the cluster before it.
* `Text.graphemes`: the clusters of a text.
-/

namespace AffixSpeller

namespace Grapheme

open Unicode

/-- How far the characters before a place go towards a pictograph that a joiner ties on. -/
inductive PictographState where
  | none
  /-- A pictograph, then extenders. -/
  | pictograph
  /-- The same with a joiner at its end. -/
  | joined
  deriving DecidableEq, Repr

/-- How far the characters before a place go towards an Indic conjunct. -/
inductive ConjunctState where
  | none
  /-- A consonant, then extenders. -/
  | consonant
  /-- The same with a linker among the extenders. -/
  | linked
  deriving DecidableEq, Repr

/-- What the rules remember of the characters before a place: the class of the last one, whether
the regional indicators at the end are odd in number, and the progress towards the longer
clusters. -/
structure State where
  last : BreakClass
  oddIndicators : Bool
  pictographs : PictographState
  conjunct : ConjunctState
  deriving DecidableEq, Repr

/-- The progress towards a tied pictograph after one more character. -/
def PictographState.next (s : PictographState) (c : Char) : PictographState :=
  if isPictograph c then .pictograph
  else
    match s, breakClass c with
    | .pictograph, .extend => .pictograph
    | .pictograph, .joiner => .joined
    | _, _ => .none

/-- The progress towards a conjunct after one more character. -/
def ConjunctState.next (s : ConjunctState) (c : Char) : ConjunctState :=
  match conjunctRole c, s with
  | .consonant, _ => .consonant
  | .linker, .consonant | .linker, .linked => .linked
  | .extend, s => s
  | _, _ => .none

/-- The state after one more character. -/
def State.next (s : State) (c : Char) : State where
  last := breakClass c
  oddIndicators := breakClass c == .regionalIndicator && !s.oddIndicators
  pictographs := s.pictographs.next c
  conjunct := s.conjunct.next c

/-- The state after the first character of a text. -/
def State.first (c : Char) : State :=
  State.next ⟨.control, false, .none, .none⟩ c

/-- Whether a class of character is a cluster of its own. -/
def isolated : BreakClass → Bool
  | .control | .carriageReturn | .lineFeed => true
  | _ => false

/-- Whether the parts of a Hangul syllable follow each other. -/
def hangulJoins : BreakClass → BreakClass → Bool
  | .hangulL, .hangulL | .hangulL, .hangulV | .hangulL, .hangulLV | .hangulL, .hangulLVT => true
  | .hangulLV, .hangulV | .hangulLV, .hangulT | .hangulV, .hangulV | .hangulV, .hangulT => true
  | .hangulLVT, .hangulT | .hangulT, .hangulT => true
  | _, _ => false

/-- Whether the character continues the cluster of the characters before it. -/
def joins (s : State) (c : Char) : Bool :=
  let next := breakClass c
  if s.last = .carriageReturn && next = .lineFeed then true
  else if isolated s.last || isolated next then false
  else if hangulJoins s.last next then true
  else if next = .extend || next = .joiner || next = .spacingMark then true
  else if s.last = .prepend then true
  else if s.conjunct = .linked && conjunctRole c = .consonant then true
  else if s.pictographs = .joined && isPictograph c then true
  else s.oddIndicators && next = .regionalIndicator

/-- The clusters of a text that goes on after the characters that `s` remembers; the first one
continues the cluster of those and may be empty. -/
def clustersAfter (s : State) : Text → List Text
  | [] => [[]]
  | c :: cs =>
    let rest := (clustersAfter (s.next c) cs).modifyHead (c :: ·)
    if joins s c then rest else [] :: rest

end Grapheme

/-- The extended grapheme clusters of a text. -/
def Text.graphemes : Text → List Text
  | [] => []
  | c :: cs => (Grapheme.clustersAfter (.first c) cs).modifyHead (c :: ·)

end AffixSpeller
