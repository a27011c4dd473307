import AffixSpeller.Affix.Table

/-!
# Edits of a word

The neighbours of a word that a correction may be: texts with a letter left out, changed, put in,
or with two letters swapped; texts with an entry of the replacement table applied; and the ways of
cutting a word in two. Each list is in the order of the place in the word.

## Main definitions

* `Edits.deletions`, `Edits.substitutions`, `Edits.insertions`, `Edits.transpositions`: the
  neighbours by one letter.
* `Edits.replacements`: the neighbours by one entry of the replacement table.
* `Edits.cuts`: the ways of cutting a word into two parts.
* `Edits.truncations`: the beginnings and ends of a word.
-/

namespace AffixSpeller.Edits

/-- The texts with one character left out. -/
def deletions : Text → List Text
  | [] => []
  | c :: cs => cs :: (deletions cs).map (c :: ·)

/-- The texts with `letter` in place of another character. -/
def substitutions (letter : Char) : Text → List Text
  | [] => []
  | c :: cs =>
    let later := (substitutions letter cs).map (c :: ·)
    if c = letter then later else (letter :: cs) :: later

/-- The texts with `letter` put in: in front, between two characters, or at the end. -/
def insertions (letter : Char) : Text → List Text
  | [] => [[letter]]
  | c :: cs => (letter :: c :: cs) :: (insertions letter cs).map (c :: ·)

/-- The texts with two different neighbouring characters swapped. -/
def transpositions : Text → List Text
  | [] => []
  | [_] => []
  | c :: d :: cs =>
    let later := (transpositions (d :: cs)).map (c :: ·)
    if c = d then later else (d :: c :: cs) :: later

/-- The texts with one occurrence of the entry's pattern replaced, which may overlap others.
`isStart` says whether `text` is the whole word, at whose start alone an entry tied to the start
applies. -/
def replacementsFrom (entry : Replacement) (isStart : Bool) : Text → List Text
  | [] => []
  | c :: cs =>
    let later := (replacementsFrom entry false cs).map (c :: ·)
    match entry.pattern.isPrefixOf? (c :: cs) with
    | none => later
    | some rest =>
      if (entry.atStart && !isStart) || (entry.atEnd && !rest.isEmpty) then later
      else (entry.replacement ++ rest) :: later

/-- The texts with one occurrence of the entry's pattern replaced. -/
def replacements (entry : Replacement) (word : Text) : List Text :=
  replacementsFrom entry true word

/-- The ways of cutting a word into two non-empty parts, the shortest first part first. -/
def cuts : Text → List (Text × Text)
  | [] => []
  | [_] => []
  | c :: d :: cs => ([c], d :: cs) :: (cuts (d :: cs)).map fun (l, r) => (c :: l, r)

/-- The beginnings of a word, the longest first, and then its ends, the longest first; the word
itself is neither. -/
def truncations (word : Text) : List Text :=
  ((cuts word).map (·.1)).reverse ++ (cuts word).map (·.2)

end AffixSpeller.Edits
