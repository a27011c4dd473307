import AffixSpeller.Text.Basic
import AffixSpeller.Text.CharSet

/-!
# Conditions of affix rules

A condition such as `[^aeiou]y` has one slot per position: any character, a literal, or a group of
characters that are asked for or excluded. It is held against one end of a word. A word shorter
than the condition satisfies it, for it reaches no position that it could violate.

## Main definitions

* `Slot`: what a condition asks of one position.
* `Condition`: a sequence of slots.
* `Condition.compile`: the condition that a pattern describes.
* `Condition.accepts`: whether a word satisfies a condition at one of its ends.
-/

namespace AffixSpeller

/-- The end of a word that a condition is held against. -/
inductive Anchor where
  | start
  | finish
  deriving DecidableEq, Repr

/-- What a condition asks of one position. -/
inductive Slot where
  | any
  | oneOf (members : CharSet)
  | noneOf (members : CharSet)
  deriving DecidableEq, Repr

namespace Slot

/-- Whether the slot admits the character. -/
def accepts : Slot → Char → Bool
  | any, _ => true
  | oneOf members, c => members.contains c
  | noneOf members, c => !members.contains c

/-- The slot of a group with the given body. A caret that begins the body excludes the members
that follow; a group without members is no slot, since nothing could satisfy it. -/
def ofGroup : List Char → Option Slot
  | [] => none
  | ['^'] => none
  | '^' :: members => some (noneOf (.ofList members))
  | members => some (oneOf (.ofList members))

/-- The slots of a pattern, read from left to right. Inside a group, `group` holds the body read
so far; a group is closed by the first bracket after it, or by the end of the pattern. -/
def sequence (group : Option (List Char)) : List Char → Option (List Slot)
  | [] =>
    match group with
    | none => some []
    | some body => (ofGroup body).map ([·])
  | c :: cs =>
    match group with
    | some body =>
      if c = ']' then (ofGroup body).bind fun slot => (sequence none cs).map (slot :: ·)
      else sequence (some (body ++ [c])) cs
    | none =>
      if c = '.' then (sequence none cs).map (any :: ·)
      else if c = '[' then sequence (some []) cs
      else (sequence none cs).map (oneOf (.singleton c) :: ·)

end Slot

/-- A pattern with a group that nothing could satisfy. -/
structure ConditionError where
  pattern : Text
  deriving DecidableEq, Repr

/-- The text of the error. -/
def ConditionError.message (e : ConditionError) : String :=
  "invalid condition `" ++ String.ofList e.pattern ++ "`: empty character class"

/-- A sequence of slots, one per position. -/
structure Condition where
  slots : List Slot
  deriving DecidableEq, Repr

namespace Condition

/-- The condition that asks nothing. -/
def trivial : Condition := ⟨[]⟩

/-- The condition that a pattern describes. A lone full stop asks nothing, not even that there is
a character. -/
def compile (pattern : Text) : Except ConditionError Condition :=
  if pattern = ['.'] then .ok trivial
  else
    match Slot.sequence none pattern with
    | some slots => .ok ⟨slots⟩
    | none => .error ⟨pattern⟩

/-- Whether the slots admit the characters they face, position by position. -/
def admits (slots : List Slot) (word : Text) : Bool :=
  (slots.zip word).all fun (slot, c) => slot.accepts c

/-- Whether the word satisfies the condition at the given end. -/
def accepts (condition : Condition) (word : Text) (anchor : Anchor) : Bool :=
  if condition.slots.isEmpty || word.length < condition.slots.length then true
  else
    match anchor with
    | .start => admits condition.slots word
    | .finish => admits condition.slots.reverse word.reverse

/-- The number of positions that the condition speaks about. -/
def slotCount (condition : Condition) : Nat :=
  condition.slots.length

/-- Whether the condition asks nothing. -/
def isTrivial (condition : Condition) : Bool :=
  condition.slots.isEmpty

end Condition

end AffixSpeller
