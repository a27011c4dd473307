import AffixSpeller.Pattern.Program

/-!
# Matching

A match is looked for by going through the text once. On the way there are several threads, each of
them a beginning of a match that stands before a step of the program. They are kept in order of
preference: a match that begins earlier is preferred, and of those that begin at one place the one
whose choices are. Two threads before one step would go on alike, so only the preferred one of
them is kept; a loop that takes no characters therefore ends by itself. A complete match puts an
end to the threads that are less preferred.

## Main definitions

* `Span`: a stretch of a text.
* `Regex`: a regular expression, ready to be matched.
* `Regex.find?`: the preferred match in a text.
* `Regex.spans`: the matches in a text, none overlapping the one before.
* `Regex.isMatch`: whether a text has a match.
-/

namespace AffixSpeller

/-- A stretch of a text, from the byte `start` up to the byte `stop`. -/
structure Span where
  start : Nat
  stop : Nat
  deriving DecidableEq, Repr

/-- Whether the byte lies in the stretch. -/
def Span.contains (s : Span) (offset : Nat) : Bool :=
  s.start ≤ offset && offset < s.stop

/-- The beginning of a match, from the byte `start` on, that stands before a step. -/
structure Thread where
  step : Nat
  start : Nat
  deriving DecidableEq, Repr

/-- What becomes of the threads at a place: the marks of the steps that were visited, the threads
that took the next character, and where the complete match that ended the others begins. -/
structure Advance where
  marks : Array Nat
  threads : List Thread
  complete : Option Nat

/-- A match, with the character before its end and the text after it. -/
structure Match where
  span : Span
  before : Option Char
  rest : Text

namespace Program

/-- The number of steps that do not bear the mark of a place. -/
def unmarked (mark : Nat) (marks : Array Nat) : Nat :=
  marks.countP (· != mark)

/-- Marking a step that bears another mark leaves fewer steps to visit. -/
theorem unmarked_set_lt {mark i : Nat} {marks : Array Nat} (h : i < marks.size)
    (hne : marks[i] ≠ mark) : unmarked mark (marks.set i mark) < unmarked mark marks := by
  have hpos : 0 < marks.countP (· != mark) :=
    Array.countP_pos_iff.2 ⟨marks[i], Array.getElem_mem h, bne_iff_ne.2 hne⟩
  have hset : (marks.set i mark).countP (· != mark) = marks.countP (· != mark) - 1 := by
    rw [Array.countP_set, if_pos (bne_iff_ne.2 hne), if_neg (by rw [bne_self_eq_false]; decide)]
    rfl
  unfold unmarked
  omega

/-- Follows the threads in `pending`, the preferred one first, up to the steps that take the next
character. `moved` are the threads that took it, the latest one first. A step bears the mark of
the place once it was visited there, and is not visited again. -/
def advance (p : Program) (place : Place) (mark : Nat) (marks : Array Nat)
    (moved pending : List Thread) : Advance :=
  match pending with
  | [] => ⟨marks, moved.reverse, none⟩
  | thread :: pending =>
    if h : thread.step < marks.size then
      if hm : marks[thread.step] = mark then advance p place mark marks moved pending
      else
        let marks' := marks.set thread.step mark
        have := unmarked_set_lt h hm
        match p.steps[thread.step]? with
        | none => advance p place mark marks' moved pending
        | some .done => ⟨marks', moved.reverse, some thread.start⟩
        | some (.take set next) =>
          let moved :=
            if place.after.any set.contains then ⟨next, thread.start⟩ :: moved else moved
          advance p place mark marks' moved pending
        | some (.check a next) =>
          if a.holds place then
            advance p place mark marks' moved (⟨next, thread.start⟩ :: pending)
          else advance p place mark marks' moved pending
        | some (.choose first second) =>
          advance p place mark marks' moved
            (⟨first, thread.start⟩ :: ⟨second, thread.start⟩ :: pending)
    else advance p place mark marks moved pending
termination_by 2 * unmarked mark marks + pending.length
decreasing_by all_goals grind

/-- The preferred match in a text that follows the character `before` and `offset` bytes. `threads`
are those that come from earlier places and `best` is the match found so far; without one, a match
may begin here too. -/
def search (p : Program) (mark : Nat) (marks : Array Nat) (threads : List Thread)
    (best : Option Match) (before : Option Char) (offset : Nat) : Text → Option Match
  | [] =>
    let pending := if best.isNone then threads ++ [⟨p.start, offset⟩] else threads
    let complete := (p.advance ⟨before, none⟩ mark marks [] pending).complete
    (complete.map fun start => ⟨⟨start, offset⟩, before, []⟩).or best
  | c :: cs =>
    let pending := if best.isNone then threads ++ [⟨p.start, offset⟩] else threads
    match pending with
    | [] => best
    | pending =>
      match p.advance ⟨before, some c⟩ mark marks [] pending with
      | ⟨marks, threads, complete⟩ =>
        let best := (complete.map fun start => ⟨⟨start, offset⟩, before, c :: cs⟩).or best
        search p (mark + 1) marks threads best (some c) (offset + c.utf8Size) cs

end Program

/-- A regular expression, ready to be matched. -/
structure Regex where
  program : Program
  deriving Repr

namespace Regex

/-- The preferred match in a text that follows the character `before` and `offset` bytes. -/
def findFrom? (r : Regex) (before : Option Char) (offset : Nat) (t : Text) : Option Match :=
  r.program.search 1 (Array.replicate r.program.steps.size 0) [] none before offset t

/-- The preferred match in a text. -/
def find? (r : Regex) (t : Text) : Option Match :=
  r.findFrom? none 0 t

/-- The matches from a place on. `offset` bytes come before the place and `last` is the end of the
match before it; an empty match may not touch that end. Every second round goes on past a
character, so `fuel` is twice the number of the places. -/
def spansFrom (r : Regex) : Nat → Option Char → Nat → Option Nat → Text → List Span
  | 0, _, _, _, _ => []
  | fuel + 1, before, offset, last, t =>
    match r.findFrom? before offset t with
    | none => []
    | some ⟨span, before, rest⟩ =>
      if span.start = span.stop ∧ last = some span.stop then
        match t with
        | [] => []
        | c :: cs => spansFrom r fuel (some c) (offset + c.utf8Size) last cs
      else span :: spansFrom r fuel before span.stop (some span.stop) rest

/-- The matches in a text, from left to right, none overlapping the one before. -/
def spans (r : Regex) (t : Text) : List Span :=
  r.spansFrom (2 * (t.length + 1)) none 0 none t

/-- Whether a text has a match. -/
def isMatch (r : Regex) (t : Text) : Bool :=
  (r.find? t).isSome

end Regex

end AffixSpeller
