import AffixSpeller.Text.Grapheme
import AffixSpeller.Unicode.Alphabetic

/-!
# Words of running text

Running text is cut into lines and these into grapheme clusters. A run of clusters that begin with
a letter, an apostrophe or a hyphen holds a word; the word goes from the first letter of the run
to its last one, so that apostrophes and hyphens count inside a word only.

## Main definitions

* `Token`: a word of running text with its place.
* `Token.ofText`: the words of a text.
-/

namespace AffixSpeller

/-- A word of running text. Lines and columns count from one, columns in characters; the offset
is the number of bytes before the word in the whole text. -/
structure Token where
  text : Text
  line : Nat
  column : Nat
  offset : Nat
  deriving DecidableEq, Repr

/-- A run of clusters in a line, with the characters and the bytes of the line before it. -/
structure Run where
  text : Text
  before : Nat
  offset : Nat
  deriving DecidableEq, Repr

namespace Run

/-- Whether a cluster belongs to a run: it begins with a letter, an apostrophe or a hyphen. -/
def joins (cluster : Text) : Bool :=
  match cluster with
  | [] => false
  | c :: _ => Unicode.isAlphabetic c || c == '\'' || c == '’' || c == '-'

/-- The runs among the clusters of a line, of which `before` characters and `offset` bytes have
gone by. -/
def ofClusters (before offset : Nat) : List Text → List Run
  | [] => []
  | cluster :: clusters =>
    let rest := ofClusters (before + cluster.length) (offset + Text.utf8Length cluster) clusters
    if joins cluster then
      match clusters.head?.any joins, rest with
      | true, run :: runs => ⟨cluster ++ run.text, before, offset⟩ :: runs
      | _, runs => ⟨cluster, before, offset⟩ :: runs
    else rest

/-- The word of a run: the run from its first letter to its last one, if it has a letter. -/
def token? (line : Nat) (run : Run) : Option Token :=
  let isOther := fun c => !Unicode.isAlphabetic c
  let leading := run.text.takeWhile isOther
  match Text.trimWhile isOther run.text with
  | [] => none
  | word =>
    some
      { text := word
        line
        column := run.before + leading.length + 1
        offset := run.offset + Text.utf8Length leading }

end Run

namespace Token

/-- The words of a line that `offset` bytes come before. Line ends are no part of the line. -/
def ofLine (line offset : Nat) (raw : Text) : List Token :=
  let clusters := Text.graphemes (Text.dropEndWhile (· == '\r') raw)
  (Run.ofClusters 0 offset clusters).filterMap (Run.token? line)

/-- The words of lines, the first of which has the given number and place. -/
def ofLines (line offset : Nat) : List Text → List Token
  | [] => []
  | raw :: raws =>
    ofLine line offset raw ++ ofLines (line + 1) (offset + Text.utf8Length raw + 1) raws

/-- The words of a text in their order. -/
def ofText (text : Text) : List Token :=
  ofLines 1 0 (Text.lines text)

end Token

end AffixSpeller
