import AffixSpeller.Pattern.Expression

/-!
# Programs of expressions

To be matched, an expression is written out as numbered steps. A step takes a character, checks
an assertion, or leaves a choice between two other steps of which the first one is preferred.
The steps are written from the end of the expression to its beginning, so that a step knows where
its match goes on; only the choice at the end of a round comes before the round.

## Main definitions

* `Step`: what a match may do next.
* `Program`: the steps of an expression.
* `Program.ofExpression`: writes an expression out.
-/

namespace AffixSpeller

/-- What a match may do next, with the numbers of the steps that follow. -/
inductive Step where
  /-- The match is complete. -/
  | done
  /-- Take a character of the set. -/
  | take (set : CodeSet) (next : Nat)
  /-- Go on if the assertion holds. -/
  | check (a : Assertion) (next : Nat)
  /-- Go on with either step, the first one preferred. -/
  | choose (first second : Nat)
  deriving DecidableEq, Repr

/-- Numbered steps, and the number of the one that a match begins with. -/
structure Program where
  steps : Array Step
  start : Nat
  deriving Repr

namespace Program

/-- The program with one more step, at which it starts. -/
def push : Program → Step → Program
  | ⟨steps, _⟩, step =>
    let start := steps.size
    ⟨steps.push step, start⟩

/-- A choice of another round, which starts at `round`, or of what follows at `next`. -/
def roundOr (greedy : Bool) (round next : Nat) : Step :=
  if greedy then .choose round next else .choose next round

/-- The program that takes the characters of a text and then goes on as `p`. -/
def pushText (p : Program) (text : Text) : Program :=
  text.foldr (fun c p => let next := p.start; p.push (.take (.single c.toNat) next)) p

/-- The program of one round or more. `round` writes a round out in front of a program. The choice
at the end of the round is written first, and filled in when the round is there. -/
def pushPlus (round : Program → Program) (greedy : Bool) (p : Program) : Program :=
  let next := p.start
  let again := p.steps.size
  match round (p.push .done) with
  | ⟨steps, start⟩ => ⟨steps.setIfInBounds again (roundOr greedy start next), start⟩

/-- The program of any number of rounds that take at least one character each. One choice serves
before the first round and after every round. -/
def pushStar (round : Program → Program) (greedy : Bool) (p : Program) : Program :=
  let again := p.steps.size
  { pushPlus round greedy p with start := again }

/-- The program of a round, or of none of it, with `next` the start of what follows. -/
def pushOptional (round : Program → Program) (greedy : Bool) (next : Nat) (p : Program) :
    Program :=
  let body := round p
  let start := body.start
  body.push (roundOr greedy start next)

/-- The program of from `least` rounds up to `most`, or without limit. `still` says that a round
may take no characters; any number of such rounds is one round or more, or none. -/
def pushRounds (round : Program → Program) (greedy still : Bool) (least : Nat)
    (most : Option Nat) (p : Program) : Program :=
  let next := p.start
  match most, least with
  | some most, least =>
    least.repeat round ((most - least).repeat (pushOptional round greedy next) p)
  | none, 0 =>
    if still then pushOptional (pushPlus round greedy) greedy next p
    else pushStar round greedy p
  | none, least + 1 => least.repeat round (pushPlus round greedy p)

/-- The program that matches the expression and then goes on as `p`. -/
def pushExpression : Expression → Program → Program
  | .empty, p => p
  | .literal text, p => p.pushText text
  | .oneOf set, p => let next := p.start; p.push (.take set next)
  | .assertion a, p => let next := p.start; p.push (.check a next)
  | .seq a b, p => pushExpression a (pushExpression b p)
  | .alt a b, p =>
    let next := p.start
    let p := pushExpression b p
    let second := p.start
    let p := pushExpression a { p with start := next }
    let first := p.start
    p.push (.choose first second)
  | .repeated greedy least most a, p =>
    let still := a.minLength?.getD 0 == 0
    pushRounds (pushExpression a) greedy still least most p
  | .group _ a, p => pushExpression a p

/-- The program of an expression. -/
def ofExpression (e : Expression) : Program :=
  pushExpression e ⟨#[.done], 0⟩

end Program

end AffixSpeller
