import AffixSpeller.Proofs.Spelling.LetterRuns
import AffixSpeller.Proofs.Text.Joining

/-!
# Words of letter runs

The words of a text are those of its letter runs, line by line. A run is a maximal stretch of
clusters that begin with a letter, an apostrophe or a hyphen; it has a word as soon as it has a
letter, and the word goes from the first letter of the run to the last one. So no letter that begins
a cluster is lost, and something that is no part of a word stands between two words of a line.

## Main definitions

* `Text.lineClusters`: the clusters of a line without its end.
* `Text.letterRuns`: the runs of a text, each with the number of its line.
* `Text.ClusterAt`: a cluster of a text with its line and column.

## Main results

* `Token.mem_ofLines`, `Token.pairwise_ofLines`: the words of lines are those of each line.
* `Token.words_eq_letterRuns`: the words of a text are those of its letter runs, none lost.
-/

namespace AffixSpeller

open Text (StandsAt utf8Length)

namespace Text

/-- The clusters of a line, which its end is no part of. -/
def lineClusters (raw : Text) : List Text :=
  graphemes (dropEndWhile (· == '\r') raw)

/-- The maximal runs of clusters of a text, line by line, each with the number of its line. -/
def letterRuns (text : Text) : List (Nat × Text) :=
  ((lines text).zipIdx 1).flatMap fun (raw, line) =>
    (Run.stretches (lineClusters raw)).map fun ws => (line, ws.flatten)

/-- The text has the cluster at the line and column, which count from one. -/
def ClusterAt (text : Text) (line column : Nat) (cluster : Text) : Prop :=
  ∃ i raw k, (lines text)[i]? = some raw ∧ StandsAt (lineClusters raw) k cluster ∧
    line = 1 + i ∧ column = k + 1

theorem utf8Length_ofLines_cons (line : Text) (ls : List Text) :
    utf8Length (ofLines (line :: ls)) = utf8Length line + 1 + utf8Length (ofLines ls) := by
  rw [ofLines_cons, utf8Length_append, utf8Length, ← Nat.add_assoc]
  rfl

end Text

namespace Token

variable {line offset : Nat} {raw : Text} {raws : List Text} {token : Token}

/-! ### Words of a line -/

theorem ofLine_eq (line offset : Nat) (raw : Text) :
    ofLine line offset raw =
      (Run.ofClusters 0 offset (Text.lineClusters raw)).filterMap (Run.token? line) :=
  rfl

theorem forall₂_ofLine (line offset : Nat) (raw : Text) :
    List.Forall₂ (fun run token => IsWordOf token run.1 run.2)
      (((Run.stretches (Text.lineClusters raw)).map fun ws => (line, ws.flatten)).filter
        fun run => run.2.any Unicode.isAlphabetic) (ofLine line offset raw) := by
  have hruns := congrArg (List.map fun run => (line, run))
    (Run.map_text_ofClusters 0 offset (Text.lineClusters raw))
  simp only [List.map_map, Function.comp_def] at hruns
  rw [← hruns]
  exact Run.forall₂_filterMap_token? line _

theorem line_of_mem_ofLine (h : token ∈ ofLine line offset raw) : token.line = line := by
  obtain ⟨run, -, htoken⟩ := List.mem_filterMap.1 h
  exact Run.line_of_token? htoken

/-- Every letter that begins a cluster of the line is in a word. -/
theorem exists_mem_ofLine_covers (line offset : Nat) {k : Nat} {c : Char} {cs : Text}
    (h : StandsAt (Text.lineClusters raw) k (c :: cs)) (hc : Unicode.isAlphabetic c = true) :
    ∃ token ∈ ofLine line offset raw, token.Covers line (k + 1) ∧
      token.text[k + 1 - token.column]? = some c := by
  have hjoins : Run.joins (c :: cs) = true := by simp [Run.joins, hc]
  obtain ⟨run, hrun, l, r, htext, hplace⟩ := Run.exists_mem_ofClusters 0 offset h hjoins
  obtain ⟨token, htoken, hcovers, hchar⟩ := Run.exists_token?_covers line htext hc
  rw [hplace, Nat.zero_add] at hcovers hchar
  exact ⟨token, List.mem_filterMap.2 ⟨run, hrun, htoken⟩, hcovers, hchar⟩

/-- Between two words of a line stands a cluster that belongs to no run. -/
theorem pairwise_apart_ofLine (line offset : Nat) (raw : Text) :
    (ofLine line offset raw).Pairwise fun a b =>
      ∃ k cluster, StandsAt (Text.lineClusters raw) k cluster ∧ Run.joins cluster = false ∧
        a.column + a.text.length ≤ k + 1 ∧ k + 1 + cluster.length ≤ b.column := by
  rw [ofLine_eq]
  refine List.Pairwise.filterMap _ ?_ (Run.pairwise_apart_ofClusters 0 offset _)
  rintro runA runB ⟨k, cluster, hstands, hjoins, hA, hB⟩ a ha b hb
  have ha := Run.column_of_token? ha
  have hb := Run.column_of_token? hb
  exact ⟨k, cluster, hstands, hjoins, by omega, by omega⟩

/-! ### Words of lines -/

/-- The words of lines are those of each line, the bytes of the lines before it gone by. -/
theorem mem_ofLines :
    token ∈ ofLines line offset raws ↔ ∃ i raw, raws[i]? = some raw ∧
      token ∈ ofLine (line + i) (offset + utf8Length (Text.ofLines (raws.take i))) raw := by
  induction raws generalizing line offset with
  | nil => simp [ofLines]
  | cons first raws ih =>
    have hbytes (i : Nat) : utf8Length (Text.ofLines ((first :: raws).take (i + 1))) =
        utf8Length first + 1 + utf8Length (Text.ofLines (raws.take i)) := by
      rw [List.take_succ_cons, Text.utf8Length_ofLines_cons]
    rw [ofLines, List.mem_append, ih]
    constructor
    · rintro (h | ⟨i, raw, hraw, h⟩)
      · exact ⟨0, first, rfl, h⟩
      · refine ⟨i + 1, raw, hraw, ?_⟩
        rw [hbytes]
        simpa only [Nat.add_assoc, Nat.add_comm 1 i] using h
    · rintro ⟨_ | i, raw, hraw, h⟩
      · obtain rfl : first = raw := by simpa using hraw
        exact .inl h
      · rw [hbytes] at h
        exact .inr ⟨i, raw, hraw, by simpa only [Nat.add_assoc, Nat.add_comm 1 i] using h⟩

/-- What relates the words of each line and words of different lines relates all words. -/
theorem pairwise_ofLines {R : Token → Token → Prop}
    (hline : ∀ i raw offset, raws[i]? = some raw → (ofLine (line + i) offset raw).Pairwise R)
    (hcross : ∀ a b : Token, a.line < b.line → R a b) : (ofLines line offset raws).Pairwise R := by
  induction raws generalizing line offset with
  | nil => exact .nil
  | cons first raws ih =>
    refine List.pairwise_append.2 ⟨hline 0 first offset rfl, ih fun i raw offset hraw => ?_,
      fun a ha b hb => ?_⟩
    · rw [Nat.add_assoc, Nat.add_comm 1 i]
      exact hline (i + 1) raw offset hraw
    · obtain ⟨i, raw, -, hb⟩ := mem_ofLines.1 hb
      have ha := line_of_mem_ofLine ha
      have hb := line_of_mem_ofLine hb
      exact hcross a b (by omega)

theorem forall₂_ofLines (line offset : Nat) (raws : List Text) :
    List.Forall₂ (fun run token => IsWordOf token run.1 run.2)
      (((raws.zipIdx line).flatMap fun (raw, line) =>
        (Run.stretches (Text.lineClusters raw)).map fun ws => (line, ws.flatten)).filter
          fun run => run.2.any Unicode.isAlphabetic)
      (ofLines line offset raws) := by
  induction raws generalizing line offset with
  | nil => exact .nil
  | cons raw raws ih =>
    rw [List.zipIdx_cons, List.flatMap_cons, List.filter_append, ofLines]
    exact List.rel_append (forall₂_ofLine line offset raw) (ih (line + 1) _)

/-! ### Words of a text -/

variable {text : Text}

/-- A word of a text is the word of a run of one of its lines. -/
theorem exists_run_of_mem_ofText (h : token ∈ ofText text) :
    ∃ i raw offset run, (Text.lines text)[i]? = some raw ∧
      run ∈ Run.ofClusters 0 offset (Text.lineClusters raw) ∧ run.token? (1 + i) = some token := by
  obtain ⟨i, raw, hraw, h⟩ := mem_ofLines.1 h
  obtain ⟨run, hrun, htoken⟩ := List.mem_filterMap.1 h
  exact ⟨i, raw, _, run, hraw, hrun, htoken⟩

theorem exists_mem_ofText_covers {line column : Nat} {c : Char} {cs : Text}
    (h : text.ClusterAt line column (c :: cs)) (hc : Unicode.isAlphabetic c = true) :
    ∃ token ∈ ofText text, token.Covers line column ∧
      token.text[column - token.column]? = some c := by
  obtain ⟨i, raw, k, hraw, hstands, rfl, rfl⟩ := h
  obtain ⟨token, htoken, hcovers, hchar⟩ := exists_mem_ofLine_covers (1 + i)
    (0 + utf8Length (Text.ofLines ((Text.lines text).take i))) hstands hc
  exact ⟨token, mem_ofLines.2 ⟨i, raw, hraw, htoken⟩, hcovers, hchar⟩

theorem pairwise_apart_ofText (text : Text) :
    (ofText text).Pairwise fun a b => a.line = b.line →
      ∃ column cluster, text.ClusterAt a.line column cluster ∧ Run.joins cluster = false ∧
        a.column + a.text.length ≤ column ∧ column + cluster.length ≤ b.column := by
  refine pairwise_ofLines (fun i raw offset hraw => ?_)
    (fun a b hlt heq => absurd heq hlt.ne)
  refine (pairwise_apart_ofLine (1 + i) offset raw).imp_of_mem ?_
  rintro a b ha - ⟨k, cluster, hstands, hjoins, hbefore, hbehind⟩ -
  exact ⟨k + 1, cluster, ⟨i, raw, k, hraw, hstands, line_of_mem_ofLine ha, rfl⟩, hjoins,
    hbefore, hbehind⟩

/-- No two words have a character in common. -/
theorem eq_of_covers {a b : Token} {line column : Nat} (ha : a ∈ ofText text)
    (hb : b ∈ ofText text) (hacovers : a.Covers line column) (hbcovers : b.Covers line column) :
    a = b := by
  have hapart : (ofText text).Pairwise
      fun a b => ¬(a.Covers line column ∧ b.Covers line column) := by
    refine (pairwise_apart_ofText text).imp ?_
    rintro a b h ⟨ha, hb⟩
    obtain ⟨k, cluster, -, -, hbefore, hbehind⟩ := h (ha.line_eq.trans hb.line_eq.symm)
    have hlt := ha.lt
    have hle := hb.le
    omega
  exact eq_of_pairwise_not_and hapart ha hb hacovers hbcovers

/-- **The words of a text are those of its letter runs, none lost.** In their order, there is one
word for each run that has a letter, and it goes from the first letter of the run to the last one.
Every letter that begins a cluster is in exactly one word, and two words of a line have a cluster
between them that belongs to no run. -/
theorem words_eq_letterRuns (text : Text) :
    List.Forall₂ (fun run token => IsWordOf token run.1 run.2)
        (text.letterRuns.filter fun run => run.2.any Unicode.isAlphabetic) (ofText text) ∧
      (∀ token ∈ ofText text, (∃ c ∈ token.text.head?, Unicode.isAlphabetic c = true) ∧
        ∃ c ∈ token.text.getLast?, Unicode.isAlphabetic c = true) ∧
      (∀ line column c cs, text.ClusterAt line column (c :: cs) → Unicode.isAlphabetic c = true →
        ∃ token ∈ ofText text, token.Covers line column ∧
          token.text[column - token.column]? = some c ∧
          ∀ other ∈ ofText text, other.Covers line column → other = token) ∧
      (ofText text).Pairwise fun a b => a.line = b.line →
        ∃ column cluster, text.ClusterAt a.line column cluster ∧ Run.joins cluster = false ∧
          a.column + a.text.length ≤ column ∧ column + cluster.length ≤ b.column := by
  refine ⟨forall₂_ofLines 1 0 (Text.lines text), fun token h => ?_,
    fun line column c cs h hc => ?_, pairwise_apart_ofText text⟩
  · obtain ⟨i, raw, offset, run, -, -, htoken⟩ := exists_run_of_mem_ofText h
    obtain ⟨leading, trailing, -, hpart, -⟩ := Run.exists_leading_of_token? htoken
    exact ⟨hpart.head, hpart.last⟩
  · obtain ⟨token, htoken, hcovers, hchar⟩ := exists_mem_ofText_covers h hc
    exact ⟨token, htoken, hcovers, hchar,
      fun other hother hothercovers => eq_of_covers hother htoken hothercovers hcovers⟩

/-- A run of three clusters with one letter, and a run of hyphens that has no word. -/
theorem words_eq_letterRuns_twoLines :
    Text.letterRuns "don't 'x-\r\n--".toList =
        [(1, "don't".toList), (1, "'x-".toList), (2, "--".toList)] ∧
      ofText "don't 'x-\r\n--".toList = [⟨"don't".toList, 1, 1, 0⟩, ⟨['x'], 1, 8, 7⟩] ∧
      Text.ClusterAt "don't 'x-\r\n--".toList 1 8 ['x'] ∧
      ∃ token ∈ ofText "don't 'x-\r\n--".toList, token.Covers 1 8 ∧
        ∀ other ∈ ofText "don't 'x-\r\n--".toList, other.Covers 1 8 → other = token := by
  have hat : Text.ClusterAt "don't 'x-\r\n--".toList 1 8 ['x'] :=
    ⟨0, "don't 'x-\r".toList, 7, rfl,
      ⟨"don't '".toList.map ([·]), [['-']], by decide, rfl⟩, rfl, rfl⟩
  obtain ⟨token, htoken, hcovers, -, hother⟩ :=
    (words_eq_letterRuns "don't 'x-\r\n--".toList).2.2.1 1 8 'x' [] hat (by decide)
  exact ⟨by decide, by decide, hat, token, htoken, hcovers, hother⟩

end Token

end AffixSpeller
