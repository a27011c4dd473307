import AffixSpeller.Proofs.Spelling.LetterWords
import AffixSpeller.Proofs.Text.Place

/-!
# Words of texts one below the other

The words of two texts with a line feed between them are those of the first text and behind them
those of the second one. Of the first text only its lines and bytes bear upon the words behind it:
they move down by the lines and on by the bytes, and keep their columns. A line feed parts grapheme
clusters and lines alike, so nothing at the end of the first text reaches into the second one.

## Main definitions

* `Token.moved`: a word some lines further down and some bytes further on.

## Main results

* `Token.ofLine_moved`, `Token.ofLines_moved`: words of lines that stand somewhere else.
* `Token.ofLines_append`: the words of lines and of lines below them.
* `Token.ofText_append_newline`: the words of two texts, one below the other.
-/

namespace AffixSpeller

open Text (utf8Length)

/-! ### Words of lines -/

/-- The word, so many lines further down and so many bytes further on. -/
def Token.moved (lines bytes : Nat) (token : Token) : Token :=
  { token with line := token.line + lines, offset := token.offset + bytes }

namespace Run

variable {clusters : List Text} {run : Run}

/-- The run, so many bytes further on. -/
def moved (bytes : Nat) (run : Run) : Run :=
  { run with offset := run.offset + bytes }

theorem ofClusters_moved (before offset bytes : Nat) (clusters : List Text) :
    ofClusters before (offset + bytes) clusters =
      (ofClusters before offset clusters).map (moved bytes) := by
  induction clusters using stretch_induction generalizing before offset with
  | nil => rfl
  | gap cluster clusters hgap ih =>
    rw [ofClusters_gap hgap, ofClusters_gap hgap, Nat.add_right_comm, ih]
  | stretch ws clusters hne hws hnext ih =>
    rw [ofClusters_stretch hne hws hnext, ofClusters_stretch hne hws hnext, List.map_cons,
      Nat.add_right_comm, ih]
    rfl

theorem token?_moved (line lines bytes : Nat) (run : Run) :
    (run.moved bytes).token? (line + lines) = (run.token? line).map (Token.moved lines bytes) := by
  unfold token?
  simp only [moved]
  split
  · rfl
  · simp [Token.moved, Nat.add_right_comm]

end Run

namespace Token

variable {raws : List Text}

/-- **Words of a line that stands somewhere else.** -/
theorem ofLine_moved (line lines offset bytes : Nat) (raw : Text) :
    ofLine (line + lines) (offset + bytes) raw =
      (ofLine line offset raw).map (moved lines bytes) := by
  simp only [ofLine_eq, Run.ofClusters_moved, List.filterMap_map, List.map_filterMap,
    Function.comp_def, Run.token?_moved]

theorem ofLines_moved (line lines offset bytes : Nat) (raws : List Text) :
    ofLines (line + lines) (offset + bytes) raws =
      (ofLines line offset raws).map (moved lines bytes) := by
  induction raws generalizing line offset with
  | nil => rfl
  | cons raw raws ih =>
    have hrest : offset + bytes + utf8Length raw + 1 = offset + utf8Length raw + 1 + bytes := by
      omega
    rw [ofLines, ofLines, List.map_append, ofLine_moved, hrest, Nat.add_right_comm line lines 1, ih]

/-- **Words of lines and of lines below them.** -/
theorem ofLines_append (line offset : Nat) (raws raws' : List Text) :
    ofLines line offset (raws ++ raws') =
      ofLines line offset raws ++
        ofLines (line + raws.length) (offset + utf8Length (Text.ofLines raws)) raws' := by
  induction raws generalizing line offset with
  | nil => rfl
  | cons raw raws ih =>
    rw [List.cons_append, ofLines, ofLines, ih, List.append_assoc, Text.utf8Length_ofLines_cons,
      List.length_cons]
    congr 3 <;> omega

/-- **Words of two texts, one below the other.** With a line feed between two texts, the words of
the first one stay as they are, and those of the second one follow, further down by the lines and
further on by the bytes before it; what they say and their columns stay. -/
theorem ofText_append_newline (a b : Text) :
    ofText (a ++ '\n' :: b) =
      ofText a ++
        (ofText b).map (moved (1 + a.count '\n') (1 + a.utf8Encode.size)) := by
  have hbytes : utf8Length (Text.ofLines (Text.lines a)) = 1 + a.utf8Encode.size := by
    rw [Text.ofLines_lines, Text.utf8Length_append, Text.utf8Length_eq_size_utf8Encode a,
      Nat.add_comm]
    rfl
  rw [ofText, Text.lines_append_newline, ofLines_append, Text.length_lines, hbytes,
    Nat.add_comm (a.count '\n') 1, ofLines_moved]
  rfl

/-- A letter at a line's end, and a line that begins with the accent it would take. -/
example : ofText "e\r\n\u0301x".toList =
    [⟨"e".toList, 1, 1, 0⟩, ⟨"x".toList, 2, 2, 5⟩] := by decide +kernel

end Token

end AffixSpeller
