import AffixSpeller.Pattern.Regex
import AffixSpeller.Pattern.Weight
import AffixSpeller.Text.Number
import AffixSpeller.Unicode.Alphabetic
import AffixSpeller.Unicode.CaseFolding
import AffixSpeller.Unicode.Numeric
import AffixSpeller.Unicode.WhiteSpace

/-!
# Reading patterns

Patterns are written with literals, classes in brackets, the named classes `\d`, `\s`, `\w` and
their complements, anchors and word boundaries, groups, alternation, and repetition. Flags at the
beginning of a group, or in the middle of it, change how the rest of the group is read. There is no
looking around and there are no references back, and a pattern may be neither too deep nor too
large.

## Main definitions

* `PatternFlags`: how letters, lines and repetition are understood.
* `Expression.ofPattern?`: the expression that a pattern describes, if it describes one.
* `Regex.ofPattern?`: the same, ready to be matched.
-/

namespace AffixSpeller

/-- How letters, lines and repetition are understood. -/
structure PatternFlags where
  ignoreCase : Bool := false
  multiLine : Bool := false
  dotMatchesNewline : Bool := false
  swapGreed : Bool := false

namespace Pattern

/-- What a backslash and the characters behind it stand for. -/
inductive Escaped where
  | literal (c : Char)
  | named (set : CodeSet)
  | anchor (a : Assertion)

/-- The character with the given code in hexadecimal. -/
def hexChar? (digits : Text) : Option Char :=
  (Text.numeral? 16 digits).bind fun code =>
    if code.isValidChar then some (Char.ofNat code) else none

/-- A character given by its code: `width` digits, or any number of digits in braces. -/
def readCode (width : Nat) : Text → Option (Char × Text)
  | '\x7b' :: cs =>
    (Text.cutAt '\x7d' cs).bind fun (digits, rest) => (hexChar? digits).map (·, rest)
  | cs =>
    if cs.length < width then none else (hexChar? (cs.take width)).map (·, cs.drop width)

/-- The word boundaries that have a name in braces after `\b`. -/
def namedBoundaries : List (String × Assertion) :=
  [("\x7bstart\x7d", .wordStart), ("\x7bend\x7d", .wordEnd),
    ("\x7bstart-half\x7d", .noWordBefore), ("\x7bend-half\x7d", .noWordAfter)]

/-- The word boundary after `\b`, which may be named in braces. -/
def readBoundary (cs : Text) : Assertion × Text :=
  let named := namedBoundaries.findSome? fun (name, a) =>
    (name.toList.isPrefixOf? cs).map fun rest => (a, rest)
  named.getD (.wordBoundary, cs)

/-- What follows a backslash. Letters and digits without a meaning of their own are refused. -/
def readEscape : Text → Option (Escaped × Text)
  | [] => none
  | c :: cs =>
    match c with
    | 'd' => some (.named Unicode.patternDigit, cs)
    | 'D' => some (.named Unicode.patternDigit.compl, cs)
    | 's' => some (.named Unicode.whiteSpace, cs)
    | 'S' => some (.named Unicode.whiteSpace.compl, cs)
    | 'w' => some (.named Unicode.patternWord, cs)
    | 'W' => some (.named Unicode.patternWord.compl, cs)
    | 'n' => some (.literal '\n', cs)
    | 't' => some (.literal '\t', cs)
    | 'r' => some (.literal '\r', cs)
    | 'a' => some (.literal '\x07', cs)
    | 'f' => some (.literal '\x0c', cs)
    | 'v' => some (.literal '\x0b', cs)
    | 'A' => some (.anchor .textStart, cs)
    | 'z' => some (.anchor .textEnd, cs)
    | 'b' => let (a, rest) := readBoundary cs; some (.anchor a, rest)
    | 'B' => some (.anchor .noWordBoundary, cs)
    | '<' => some (.anchor .wordStart, cs)
    | '>' => some (.anchor .wordEnd, cs)
    | 'x' => (readCode 2 cs).map fun (d, rest) => (.literal d, rest)
    | 'u' => (readCode 4 cs).map fun (d, rest) => (.literal d, rest)
    | 'U' => (readCode 8 cs).map fun (d, rest) => (.literal d, rest)
    | c => if c.toNat < 128 && !c.isAlphanum then some (.literal c, cs) else none

/-- The class of the characters from `first` to `last`. -/
def charRange (first last : Char) : CodeSet :=
  .range first.toNat last.toNat

/-- The class of one character. -/
def singleChar (c : Char) : CodeSet :=
  charRange c c

/-- The class with the given one taken as the flags say. -/
def fold (flags : PatternFlags) (set : CodeSet) : CodeSet :=
  if flags.ignoreCase then set.anyCase else set

/-- The classes that have a name between colons. -/
def asciiClasses : List (String × CodeSet) :=
  let capital := charRange 'A' 'Z'
  let small := charRange 'a' 'z'
  let figure := charRange '0' '9'
  let letter := capital.union small
  let visible := charRange '!' '~'
  [("alnum", letter.union figure), ("alpha", letter), ("ascii", charRange '\x00' '\x7f'),
    ("blank", (singleChar ' ').union (singleChar '\t')),
    ("cntrl", (charRange '\x00' '\x1f').union (singleChar '\x7f')), ("digit", figure),
    ("graph", visible), ("lower", small), ("print", charRange ' ' '~'),
    ("punct", visible.diff (letter.union figure)),
    ("space", (charRange '\t' '\r').union (singleChar ' ')), ("upper", capital),
    ("word", (letter.union figure).union (singleChar '_')),
    ("xdigit", figure.union ((charRange 'A' 'F').union (charRange 'a' 'f')))]

/-- A named class after its opening bracket and colon. -/
def readAsciiClass (cs : Text) : Option (CodeSet × Text) :=
  let (negated, cs) : Bool × Text := match cs with
    | '^' :: cs => (true, cs)
    | cs => (false, cs)
  match Text.cutAt ':' cs with
  | some (name, ']' :: rest) =>
    (asciiClasses.lookup (String.ofList name)).map fun set =>
      (if negated then .compl set else set, rest)
  | _ => none

/-- How deep a list of things is nested that are this deep each: the list adds a level if it has
several members. -/
def nest : List Nat → Nat
  | [] => 0
  | [depth] => depth
  | depths => depths.foldl max 0 + 1

/-- An operation between two parts of a class. -/
inductive SetOperation where
  | inter
  | diff
  | symmDiff

/-- Members of a class: their union, and how deep each of them is nested. -/
structure ClassPart where
  set : CodeSet := .empty
  depths : List Nat := []

/-- The part with one more member. -/
def ClassPart.insert (part : ClassPart) (set : CodeSet) (depth : Nat) : ClassPart where
  set := part.set.union set
  depths := depth :: part.depths

/-- A class, or what was read of it, and how deep it is nested. -/
structure ClassSoFar where
  set : CodeSet
  depth : Nat

/-- The part of a class read so far, joined to the parts before an operation. -/
def joinParts (earlier : Option (SetOperation × ClassSoFar)) (part : ClassPart) : ClassSoFar :=
  let right : ClassSoFar := ⟨part.set, nest part.depths⟩
  match earlier with
  | none => right
  | some (operation, left) =>
    let set := match operation with
      | .inter => left.set.inter right.set
      | .diff => left.set.diff right.set
      | .symmDiff => left.set.symmDiff right.set
    ⟨set, max left.depth right.depth + 1⟩

/-- A member of a class: a character, or a named class. -/
def readMember : Text → Option (Escaped × Text)
  | [] => none
  | '\\' :: cs => readEscape cs
  | c :: cs => some (.literal c, cs)

/-- A member of a class or a range from one character to another. A hyphen before the closing
bracket, or before another hyphen, makes no range. -/
def readRange (flags : PatternFlags) (cs : Text) : Option (CodeSet × Text) := do
  let (first, rest) ← readMember cs
  let whole : Option (CodeSet × Text) := match first with
    | .literal c => some (fold flags (singleChar c), rest)
    | .named set => some (set, rest)
    | .anchor _ => none
  match rest with
  | [] => none
  | '-' :: ']' :: _ | '-' :: '-' :: _ => whole
  | '-' :: more =>
    match first, ← readMember more with
    | .literal a, (.literal b, rest) =>
      if a ≤ b then some (fold flags (charRange a b), rest) else none
    | _, _ => none
  | _ => whole

/-- What stands at the beginning of a class: a caret that excludes the members, hyphens, or a
closing bracket, which is a member there. -/
def openClass (cs : Text) : Bool × ClassPart × Text :=
  let (negated, cs) : Bool × Text := match cs with
    | '^' :: cs => (true, cs)
    | cs => (false, cs)
  let hyphens := cs.takeWhile (· == '-')
  match hyphens, cs.drop hyphens.length with
  | [], ']' :: rest => (negated, ⟨singleChar ']', [0]⟩, rest)
  | [], rest => (negated, {}, rest)
  | _, rest => (negated, ⟨singleChar '-', hyphens.map fun _ => 0⟩, rest)

/-- The members of a class up to its closing bracket. `earlier` is what stands before an
operation, `part` the members read after it. Every round reads at least one character, so `fuel`
is the number of characters. -/
def readMembers (flags : PatternFlags) :
    Nat → Option (SetOperation × ClassSoFar) → ClassPart → Text → Option (ClassSoFar × Text)
  | 0, _, _, _ => none
  | fuel + 1, earlier, part, cs =>
    match cs with
    | [] => none
    | ']' :: rest => some (joinParts earlier part, rest)
    | '&' :: '&' :: rest => readMembers flags fuel (some (.inter, joinParts earlier part)) {} rest
    | '-' :: '-' :: rest => readMembers flags fuel (some (.diff, joinParts earlier part)) {} rest
    | '~' :: '~' :: rest =>
      readMembers flags fuel (some (.symmDiff, joinParts earlier part)) {} rest
    | '[' :: rest =>
      let named := match rest with
        | ':' :: more => readAsciiClass more
        | _ => none
      match named with
      | some (set, rest) => readMembers flags fuel earlier (part.insert (fold flags set) 0) rest
      | none =>
        let (negated, start, inner) := openClass rest
        match readMembers flags fuel none start inner with
        | none => none
        | some (⟨set, depth⟩, rest) =>
          let set := if negated then set.compl else set
          readMembers flags fuel earlier (part.insert set (depth + 1)) rest
    | _ =>
      match readRange flags cs with
      | none => none
      | some (set, rest) => readMembers flags fuel earlier (part.insert set 0) rest

/-- A class after its opening bracket. -/
def readClass (flags : PatternFlags) (cs : Text) : Option (ClassSoFar × Text) :=
  let (negated, start, rest) := openClass cs
  (readMembers flags (rest.length + 1) none start rest).map fun (⟨set, depth⟩, rest) =>
    (⟨if negated then set.compl else set, depth + 1⟩, rest)

/-- A number in a counted repetition, with blanks around it. -/
def readBound (cs : Text) : Option Nat × Text :=
  let cs := cs.dropWhile Unicode.isWhiteSpace
  let digits := cs.takeWhile Char.isDigit
  let rest := (cs.drop digits.length).dropWhile Unicode.isWhiteSpace
  ((Text.decimal? digits).filter (· ≤ 4294967295), rest)

/-- The bounds of a counted repetition after its opening brace. -/
def readBounds (cs : Text) : Option ((Nat × Option Nat) × Text) :=
  match readBound cs with
  | (some least, '\x7d' :: rest) => some ((least, some least), rest)
  | (some least, ',' :: rest) =>
    match rest with
    | '\x7d' :: rest => some ((least, none), rest)
    | rest =>
      match readBound rest with
      | (some most, '\x7d' :: rest) =>
        if least ≤ most then some ((least, some most), rest) else none
      | _ => none
  | _ => none

/-- The bounds of a repetition, if one stands at the beginning of the text: `none` if there is
none, `some none` if it is malformed. -/
def readRepetition : Text → Option (Option ((Nat × Option Nat) × Text))
  | '*' :: rest => some (some ((0, none), rest))
  | '+' :: rest => some (some ((1, none), rest))
  | '?' :: rest => some (some ((0, some 1), rest))
  | '\x7b' :: rest => some (readBounds rest)
  | _ => none

/-- The flags with one of them set or cleared. -/
def setFlag (flags : PatternFlags) (value : Bool) : Char → Option PatternFlags
  | 'i' => some { flags with ignoreCase := value }
  | 'm' => some { flags with multiLine := value }
  | 's' => some { flags with dotMatchesNewline := value }
  | 'U' => some { flags with swapGreed := value }
  | 'u' => if value then some flags else none
  | _ => none

/-- A list of flags, those after a hyphen to be cleared. No flag comes twice, and some flag comes
after the hyphen. -/
def readFlags (flags : PatternFlags) (written : Text) : Option PatternFlags :=
  match written.splitOn '-' with
  | [on] =>
    if on.eraseDups = on then on.foldlM (setFlag · true) flags else none
  | [on, off] =>
    if (on ++ off).eraseDups = on ++ off ∧ off ≠ [] then do
      let flags ← on.foldlM (setFlag · true) flags
      off.foldlM (setFlag · false) flags
    else none
  | _ => none

/-- Whether the text names a group. -/
def isGroupName : Text → Bool
  | [] => false
  | c :: cs =>
    let begins := fun d : Char => d == '_' || Unicode.isAlphabetic d
    begins c && cs.all fun d =>
      begins d || Unicode.isNumeric d || d == '.' || d == '[' || d == ']'

/-- What a group is for. -/
inductive GroupKind where
  /-- It holds an expression together. -/
  | plain
  /-- It stands for itself. -/
  | numbered
  /-- It stands for itself under a name that no other group has. -/
  | named (name : Text)

/-- What an opening parenthesis begins. -/
inductive Opening where
  /-- A group, read with the given flags. -/
  | group (kind : GroupKind) (flags : PatternFlags)
  /-- No group; the flags are those of the rest of the enclosing group. -/
  | flags (flags : PatternFlags)

/-- What an opening parenthesis begins, given what follows it. -/
def readOpening (flags : PatternFlags) (cs : Text) : Option (Opening × Text) :=
  let named := fun rest : Text =>
    (Text.cutAt '>' rest).bind fun (name, rest) =>
      if isGroupName name then some (.group (.named name) flags, rest) else none
  match cs with
  | '?' :: 'P' :: '<' :: rest => named rest
  | '?' :: '<' :: rest => named rest
  | '?' :: rest =>
    let written := rest.takeWhile fun c => c != ':' && c != ')'
    match rest.drop written.length with
    | ':' :: rest => (readFlags flags written).map fun flags => (.group .plain flags, rest)
    | ')' :: rest =>
      if written.isEmpty then none
      else (readFlags flags written).map fun flags => (.flags flags, rest)
    | _ => none
  | rest => some (.group .numbered flags, rest)

/-- An expression, how deep it is nested as it is written, and the names of its groups. -/
structure Nested where
  expression : Expression
  depth : Nat := 0
  names : List Text := []

/-- Items in a row as one expression. A setting of flags is an item without an expression. -/
def joinRow (items : List (Option Nested)) : Nested where
  expression := .sequence (items.reduceOption.map (·.expression))
  depth := nest (items.map fun item => (item.map (·.depth)).getD 0)
  names := items.reduceOption.flatMap (·.names)

/-- Branches as one expression. -/
def joinBranches (branches : List Nested) : Nested where
  expression := .alternation (branches.map (·.expression))
  depth := nest (branches.map (·.depth))
  names := branches.flatMap (·.names)

/-- An expression in a group that begins at the given place. -/
def joinGroup (place : Nat) (inner : Nested) : GroupKind → Nested
  | .plain => { inner with depth := inner.depth + 1 }
  | .numbered => ⟨.group place inner.expression, inner.depth + 1, inner.names⟩
  | .named name => ⟨.group place inner.expression, inner.depth + 1, name :: inner.names⟩

/-- A single character, class or assertion at the beginning of the text. -/
def readAtom (flags : PatternFlags) : Text → Option (Nested × Text)
  | [] => none
  | c :: cs =>
    match c with
    | '[' =>
      (readClass flags cs).map fun (⟨set, depth⟩, rest) =>
        ({ expression := .ofSet set, depth }, rest)
    | '\\' =>
      (readEscape cs).map fun
        | (.literal d, rest) => ({ expression := .ofSet (fold flags (singleChar d)) }, rest)
        | (.named set, rest) => ({ expression := .ofSet set }, rest)
        | (.anchor a, rest) => ({ expression := .assertion a }, rest)
    | '.' =>
      let newline := if flags.dotMatchesNewline then .empty else singleChar '\n'
      some ({ expression := .ofSet newline.compl }, cs)
    | '^' =>
      some ({ expression := .assertion (if flags.multiLine then .lineStart else .textStart) }, cs)
    | '$' =>
      some ({ expression := .assertion (if flags.multiLine then .lineEnd else .textEnd) }, cs)
    | c => some ({ expression := .ofSet (fold flags (singleChar c)) }, cs)

/-- The rest of a group up to its closing parenthesis, which is left over, or to the end.
`branches` are the finished branches and `items` those of the branch being read, the latest ones
first; a setting of flags is an item that cannot be repeated. Every round reads at least one
character, so `fuel` is the number of characters. -/
def readGroup : Nat → PatternFlags → List Nested → List (Option Nested) → Text →
    Option (Nested × Text)
  | 0, _, _, _, _ => none
  | fuel + 1, flags, branches, items, cs =>
    match cs with
    | [] | ')' :: _ => some (joinBranches (joinRow items.reverse :: branches).reverse, cs)
    | '|' :: rest => readGroup fuel flags (joinRow items.reverse :: branches) [] rest
    | '(' :: rest =>
      match readOpening flags rest with
      | none => none
      | some (.flags inner, rest) => readGroup fuel inner branches (none :: items) rest
      | some (.group kind inner, rest) =>
        match readGroup fuel inner [] [] rest with
        | some (group, ')' :: after) =>
          readGroup fuel flags branches (some (joinGroup rest.length group kind) :: items) after
        | _ => none
    | cs =>
      match readRepetition cs, items with
      | none, _ =>
        match readAtom flags cs with
        | none => none
        | some (atom, rest) => readGroup fuel flags branches (some atom :: items) rest
      | some (some ((least, most), rest)), some item :: earlier =>
        let (greedy, rest) := match rest with
          | '?' :: rest => (flags.swapGreed, rest)
          | rest => (!flags.swapGreed, rest)
        let repeated := Expression.repetition greedy least most item.expression
        let item := { item with expression := repeated, depth := item.depth + 1 }
        readGroup fuel flags branches (some item :: earlier) rest
      | _, _ => none

/-- How deep a pattern may be nested. -/
def depthLimit : Nat := 250

end Pattern

/-- The expression that a pattern describes, if it is well formed, not too deep and not too large,
and its groups have different names. -/
def Expression.ofPattern? (pattern : Text) : Option Expression :=
  match Pattern.readGroup (pattern.length + 1) {} [] [] pattern with
  | some (⟨e, depth, names⟩, []) =>
    if depth ≤ Pattern.depthLimit ∧ e.weight ≤ weightLimit ∧ names.eraseDups = names then some e
    else none
  | _ => none

/-- The regular expression that a pattern describes, ready to be matched. -/
def Regex.ofPattern? (pattern : Text) : Option Regex :=
  (Expression.ofPattern? pattern).map fun e => ⟨.ofExpression e⟩

end AffixSpeller
