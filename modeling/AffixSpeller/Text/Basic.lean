import AffixSpeller.Unicode.WhiteSpace

/-!
# Texts

A text is the list of its characters, so that positions, lengths and ends of words are those of
lists. This module cuts texts into lines and fields and takes blanks off their ends.

## Main definitions

* `Text`: a sequence of characters.
* `Text.lines`, `Text.fields`: the stretches between line feeds; the non-empty ones between blanks.
* `Text.trim`, `Text.content`: a line without the blanks, and the byte order marks, around it.
* `Text.cutAt`: the two sides of the first occurrence of a character.
* `Text.utf8Length`: the number of bytes of the UTF-8 form.
* `Text.isUpTo`: the order of texts by code points.
-/

namespace AffixSpeller

/-- A text is the sequence of its characters. -/
abbrev Text := List Char

namespace Text

/-- The stretches between line feeds; a line feed at the end is followed by an empty line. -/
def lines (t : Text) : List Text :=
  t.splitOn '\n'

/-- The non-empty stretches between white space. -/
def fields (t : Text) : List Text :=
  (t.splitOnP Unicode.isWhiteSpace).filter (!·.isEmpty)

/-- The text without the characters at its end that `p` holds of. -/
def dropEndWhile (p : Char → Bool) (t : Text) : Text :=
  (t.reverse.dropWhile p).reverse

/-- The text without the characters at either end that `p` holds of. -/
def trimWhile (p : Char → Bool) (t : Text) : Text :=
  dropEndWhile p (t.dropWhile p)

/-- The text without the white space at either end. -/
def trim (t : Text) : Text :=
  trimWhile Unicode.isWhiteSpace t

/-- What a line says: byte order marks that begin it are dropped, then the white space around. -/
def content (line : Text) : Text :=
  trim (line.dropWhile (· == '\ufeff'))

/-- What stands before and after the first `c`, if the text has one. -/
def cutAt (c : Char) : Text → Option (Text × Text)
  | [] => none
  | d :: ds => if d = c then some ([], ds) else (cutAt c ds).map fun (l, r) => (d :: l, r)

/-- The text with `new` in place of every `old`. -/
def replaceChar (old new : Char) (t : Text) : Text :=
  t.map fun c => if c = old then new else c

/-- The number of bytes of the UTF-8 form. -/
def utf8Length : Text → Nat
  | [] => 0
  | c :: cs => c.utf8Size + utf8Length cs

/-- Whether `a` comes no later than `b` in the order by code points. -/
def isUpTo : Text → Text → Bool
  | [], _ => true
  | _ :: _, [] => false
  | a :: as, b :: bs => a < b || (a == b && isUpTo as bs)

end Text

/-- The list with `a` at its end, unless it has `a` already. -/
def appendNew {α : Type} [BEq α] (l : List α) (a : α) : List α :=
  if l.contains a then l else l ++ [a]

end AffixSpeller
