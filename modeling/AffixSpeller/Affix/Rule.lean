import AffixSpeller.Affix.Condition
import AffixSpeller.Affix.Flag

/-!
# Affix rules

A rule makes a form of a word: it takes one text off an end of the word and puts another one in
its place, provided that the word satisfies a condition at that end. Rules are declared in groups,
each of which has a kind and a flag.

## Main definitions

* `AffixKind`: whether rules work at the start or at the end of a word.
* `AffixRule`, `AffixRule.apply`: a rule and the form that it makes.
* `AffixGroup`: the rules under one header.
* `AffixGroup.maxRules`: how many rules a group has room for.
-/

namespace AffixSpeller

/-- The end of a word that a rule works at. -/
inductive AffixKind where
  | leading
  | trailing
  deriving DecidableEq, Repr

namespace AffixKind

/-- The end that the conditions of such rules are held against. -/
def anchor : AffixKind → Anchor
  | leading => .start
  | trailing => .finish

/-- The directive that declares such rules. -/
def tag : AffixKind → Text
  | leading => "PFX".toList
  | trailing => "SFX".toList

end AffixKind

/-- A rule that makes one form of a word. -/
structure AffixRule where
  kind : AffixKind
  strip : Text
  append : Text
  condition : Condition
  crossProduct : Bool
  deriving DecidableEq, Repr

/-- The form that the rule makes of the word. There is none if the condition rejects the word, if
the word does not carry the strip text at its end, or if nothing would remain. -/
def AffixRule.apply (rule : AffixRule) (word : Text) : Option Text :=
  if rule.condition.accepts word rule.kind.anchor then
    let form := match rule.kind with
      | .leading => (rule.strip.isPrefixOf? word).map fun stem => rule.append ++ stem
      | .trailing => (rule.strip.isSuffixOf? word).map fun stem => stem ++ rule.append
    form.filter (!·.isEmpty)
  else none

/-- The rules declared under one header. -/
structure AffixGroup where
  kind : AffixKind
  flag : Flag
  crossProduct : Bool
  declared : Nat
  rules : List AffixRule
  deriving DecidableEq, Repr

/-- The greatest number of rules for which a group can ask for room: a rule takes eighty bytes, and
no piece of memory has more than `2 ^ 63 - 1`. A smaller piece is taken to be there. -/
def AffixGroup.maxRules : Nat := 9223372036854775807 / 80

end AffixSpeller
