import AffixSpeller.Pattern.Assertion
import AffixSpeller.Text.Basic
import AffixSpeller.Unicode.CodeSet

/-!
# Regular expressions

An expression is kept in a plain form. A sequence has no empty parts, and no sequences or two
neighbouring texts among its parts; the branches of an alternation are no alternations, and what
all of them begin with stands before it. The constructing functions below keep that form. It counts
for more than neatness: which of several matches is preferred is said of the plain form.

## Main definitions

* `Expression`: regular expressions.
* `Expression.minLength?`, `Expression.maxLength?`: bounds on the length of a match.
* `Expression.ofSet`, `Expression.sequence`, `Expression.alternation`, `Expression.repetition`: the
  plain forms of a set, of parts in a row, of branches, and of a repeated expression.
-/

namespace AffixSpeller

/-- A regular expression. -/
inductive Expression where
  | empty
  /-- The characters of a text in a row. -/
  | literal (text : Text)
  /-- A character of a set. -/
  | oneOf (set : CodeSet)
  | assertion (a : Assertion)
  /-- The first part and then the rest, which is a sequence again if it has several parts. -/
  | seq (first rest : Expression)
  /-- Either branch, the first one preferred; the rest is an alternation again if there are several
  further branches. -/
  | alt (first rest : Expression)
  /-- From `least` rounds up to `most`, or without limit. More rounds are preferred if `greedy`. -/
  | repeated (greedy : Bool) (least : Nat) (most : Option Nat) (body : Expression)
  /-- A group that stands for itself, told from others by its place in the pattern. -/
  | group (place : Nat) (body : Expression)
  deriving DecidableEq, Repr

namespace Expression

/-- The least length of a match, unless there may be no match at all. -/
def minLength? : Expression → Option Nat
  | empty => some 0
  | literal text => some text.length
  | oneOf set => if set = .empty then none else some 1
  | assertion _ => some 0
  | seq a b => (minLength? a).bind fun m => (minLength? b).map (m + ·)
  | alt a b => (minLength? a).bind fun m => (minLength? b).map (min m)
  | repeated _ least _ a => (minLength? a).map (least * ·)
  | group _ a => minLength? a

/-- The greatest length of a match, if there is one. -/
def maxLength? : Expression → Option Nat
  | empty => some 0
  | literal text => some text.length
  | oneOf set => if set = .empty then none else some 1
  | assertion _ => some 0
  | seq a b => (maxLength? a).bind fun m => (maxLength? b).map (m + ·)
  | alt a b => (maxLength? a).bind fun m => (maxLength? b).map (max m)
  | repeated _ _ most a => (maxLength? a).bind fun m => most.map (· * m)
  | group _ a => maxLength? a

/-- The plain form of a set: a set of one character is a text. -/
def ofSet (set : CodeSet) : Expression :=
  match set.only? with
  | some c => literal [c]
  | none => oneOf set

/-- The parts of an expression that follow each other. -/
def parts : Expression → List Expression
  | empty => []
  | seq a b => a :: parts b
  | a => [a]

/-- The parts with neighbouring texts made one. -/
def joinTexts : List Expression → List Expression
  | [] => []
  | a :: rest =>
    match a, joinTexts rest with
    | literal s, literal t :: rest => literal (s ++ t) :: rest
    | a, rest => a :: rest

/-- The expression with the given parts. -/
def ofParts : List Expression → Expression
  | [] => empty
  | [a] => a
  | a :: rest => seq a (ofParts rest)

/-- The plain form of expressions in a row. -/
def sequence (items : List Expression) : Expression :=
  ofParts (joinTexts (items.flatMap parts))

/-- The branches of an expression. -/
def branches : Expression → List Expression
  | alt a b => a :: branches b
  | a => [a]

/-- The expression with the given branches; nothing matches if there are none. -/
def ofBranches : List Expression → Expression
  | [] => oneOf .empty
  | [a] => a
  | a :: rest => alt a (ofBranches rest)

/-- The code point of the character that an expression stands for, if it is one. -/
def code? : Expression → Option Nat
  | literal [c] => some c.toNat
  | _ => none

/-- The set that an expression stands for, if it is one. -/
def set? : Expression → Option CodeSet
  | oneOf set => some set
  | _ => none

/-- The branches as one expression: characters only, or sets only, make one set. -/
def joinBranches : List Expression → Expression
  | [a] => a
  | all =>
    match all.mapM code?, all.mapM set? with
    | some codes, _ => ofSet (.ofList codes)
    | none, some sets => ofSet (sets.foldl .union .empty)
    | none, none => ofBranches all

/-- What both lists begin with. -/
def commonStart : List Expression → List Expression → List Expression
  | a :: as, b :: bs => if a = b then a :: commonStart as bs else []
  | _, _ => []

/-- The parts that all of the expressions begin with, if each of them has several parts. -/
def commonParts : List Expression → List Expression
  | [] => []
  | a :: rest =>
    if (a :: rest).all (2 ≤ ·.parts.length) then
      rest.foldl (fun start b => commonStart start b.parts) a.parts
    else []

/-- The plain form of an alternation. What all of several branches begin with stands before it. -/
def alternation (items : List Expression) : Expression :=
  match items.flatMap branches with
  | [a] => a
  | all =>
    match commonParts all with
    | [] => joinBranches all
    | start =>
      let ends := all.map fun a => ofParts (a.parts.drop start.length)
      sequence (start ++ [joinBranches (ends.flatMap branches)])

/-- The plain form of a repetition. What takes no characters is repeated once at most. -/
def repetition (greedy : Bool) (least : Nat) (most : Option Nat) (body : Expression) :
    Expression :=
  let still := body.maxLength? == some 0
  let least := if still then min least 1 else least
  let most := if still then some (min (most.getD 1) 1) else most
  if most = some 0 then empty
  else if least = 1 ∧ most = some 1 then body
  else repeated greedy least most body

end Expression

end AffixSpeller
