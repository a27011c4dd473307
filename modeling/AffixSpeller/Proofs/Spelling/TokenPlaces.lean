import AffixSpeller.Proofs.Spelling.LetterWords
import AffixSpeller.Proofs.Text.Grapheme

/-!
# Places of words

The words of a running text are cut out of it in their order, and each one names its true place:
the bytes before it, the lines that end before it, and the characters before it on its own line.
The clusters of a line are put together again to runs, so a run names what comes before it; what is
trimmed off in front of its word moves the place by as much; and the lines follow each other with a
line feed between them.

## Main definitions

* `Run.behind`, `Token.behind`: a run and a word with the place that the characters before give.

## Main results

* `Run.cutOut_ofClusters`: the runs of a line in their order, each at its place.
* `Token.cutOut_ofText`: the words of a text in their order, each at its place.
* `Token.place_of_mem_ofText`: what line, column and offset of a word say.
-/

namespace AffixSpeller

open Text (CutOut lastLine utf8Length)

/-! ### Runs -/

namespace Run

variable {before rest : Text} {clusters : List Text}

/-- A run with the place that the characters before it give. -/
def behind (before text : Text) : Run where
  text
  before := (lastLine before).length
  offset := utf8Length before

/-- **The runs of a line come in their order, each at its place.** -/
theorem cutOut_ofClusters (h : '\n' ∉ clusters.flatten) :
    CutOut behind before clusters.flatten
      (ofClusters (lastLine before).length (utf8Length before) clusters) := by
  induction clusters using stretch_induction generalizing before with
  | nil => exact .nil _ _
  | gap cluster clusters hgap ih =>
    simp only [List.flatten_cons, List.mem_append, not_or] at h
    have ih : CutOut behind (before ++ cluster) clusters.flatten _ := ih h.2
    simp only [Text.lastLine_append h.1, List.length_append, Text.utf8Length_append] at ih
    rw [ofClusters_gap hgap, List.flatten_cons]
    exact CutOut.append_left cluster ih
  | stretch ws clusters hne hws hnext ih =>
    simp only [List.flatten_append, List.mem_append, not_or] at h
    have ih : CutOut behind (before ++ ws.flatten) clusters.flatten _ := ih h.2
    simp only [Text.lastLine_append h.1, List.length_append, Text.utf8Length_append] at ih
    rw [ofClusters_stretch hne hws hnext, List.flatten_append]
    exact ih.cons_start

/-- The characters of a run come from clusters that belong to it. -/
theorem exists_mem_of_mem_ofClusters {n offset : Nat} {run : Run} {c : Char}
    (h : run ∈ ofClusters n offset clusters) (hc : c ∈ run.text) :
    ∃ cluster ∈ clusters, joins cluster = true ∧ c ∈ cluster := by
  obtain ⟨l, ws, r, rfl, hws, htext, -⟩ := exists_stretch_of_mem h
  rw [htext] at hc
  obtain ⟨cluster, hcluster, hc⟩ := List.mem_flatten.1 hc
  exact ⟨cluster, by simp [hcluster], hws cluster hcluster, hc⟩

end Run

/-! ### Words of runs -/

/-- A word with the place that the characters before it give. -/
def Token.behind (before word : Text) : Token where
  text := word
  line := before.count '\n' + 1
  column := (lastLine before).length + 1
  offset := utf8Length before

namespace Run

variable {before rest : Text} {line : Nat} {token : Token}

theorem token?_behind {text : Text} (htext : '\n' ∉ text)
    (h : (behind before text).token? (before.count '\n' + 1) = some token) :
    ∃ leading word trailing, text = leading ++ (word ++ trailing) ∧
      token = Token.behind (before ++ leading) word := by
  obtain ⟨leading, trailing, hsplit, -, htoken⟩ := exists_leading_of_token? h
  have hleading : '\n' ∉ leading := fun hmem =>
    htext ((show text = _ from hsplit) ▸ List.mem_append_left _ hmem)
  refine ⟨leading, token.text, trailing, hsplit, htoken.trans ?_⟩
  simp [behind, Token.behind, Text.lastLine_append hleading, List.count_eq_zero.2 hleading]

/-- **The words of a line come in their order, each at its place.** -/
theorem cutOut_filterMap_token? {runs : List Run} (h : CutOut behind before rest runs)
    (hrest : '\n' ∉ rest) (hline : before.count '\n' + 1 = line) :
    CutOut Token.behind before rest (runs.filterMap (token? line)) := by
  induction h with
  | nil => exact .nil _ _
  | @cons before rest runs gap piece h ih =>
    simp only [List.mem_append, not_or] at hrest
    obtain ⟨hgap, hpiece, hrest⟩ := hrest
    have hgapped : (before ++ gap).count '\n' + 1 = line := by
      simpa [List.count_eq_zero.2 hgap] using hline
    have ih := ih hrest (by
      simpa [List.count_eq_zero.2 hgap, List.count_eq_zero.2 hpiece] using hline)
    cases htoken : (behind (before ++ gap) piece).token? line with
    | none =>
      rw [List.filterMap_cons_none htoken, ← List.append_assoc]
      exact CutOut.append_left (gap ++ piece) ih
    | some token =>
      rw [List.filterMap_cons_some htoken]
      rw [← hgapped] at htoken
      obtain ⟨leading, word, trailing, rfl, rfl⟩ := token?_behind hpiece htoken
      have hlater : CutOut Token.behind (before ++ (gap ++ leading ++ word)) (trailing ++ rest)
          (runs.filterMap (token? line)) :=
        CutOut.append_left trailing (by simpa only [List.append_assoc] using ih)
      simpa only [List.append_assoc] using CutOut.cons (gap ++ leading) word hlater

end Run

/-! ### Words of lines -/

namespace Token

variable {before raw : Text}

theorem cutOut_ofLine (hbefore : lastLine before = []) (hraw : '\n' ∉ raw) :
    CutOut behind before raw
      (ofLine (before.count '\n' + 1) (utf8Length before) raw) := by
  have hsplit : Text.dropEndWhile (· == '\r') raw ++ raw.rtakeWhile (· == '\r') = raw :=
    List.rdropWhile_append_rtakeWhile
  have hkept : '\n' ∉ Text.dropEndWhile (· == '\r') raw := fun hmem =>
    hraw (hsplit ▸ List.mem_append_left _ hmem)
  have hflatten := Text.flatten_graphemes (Text.dropEndWhile (· == '\r') raw)
  have hruns : CutOut Run.behind before
      (Text.graphemes (Text.dropEndWhile (· == '\r') raw)).flatten _ :=
    Run.cutOut_ofClusters (by rwa [hflatten])
  rw [hflatten, hbefore] at hruns
  have hwords := Run.cutOut_filterMap_token? hruns hkept rfl
  have h := hwords.append (.nil _ (raw.rtakeWhile (· == '\r')))
  rwa [hsplit, List.append_nil] at h

theorem cutOut_ofLines {raws : List Text} (hbefore : lastLine before = [])
    (hraws : ∀ raw ∈ raws, '\n' ∉ raw) :
    CutOut behind before (['\n'].intercalate raws)
      (ofLines (before.count '\n' + 1) (utf8Length before) raws) := by
  induction raws generalizing before with
  | nil => exact .nil _ _
  | cons raw raws ih =>
    have hraw := hraws raw List.mem_cons_self
    have hline := cutOut_ofLine hbefore hraw
    cases raws with
    | nil => simpa [ofLines] using hline
    | cons next raws =>
      -- the line feed between two lines counts as a line, a byte, and no column
      have hend : CutOut behind before (raw ++ ['\n'])
          (ofLine (before.count '\n' + 1) (utf8Length before) raw) := by
        simpa using hline.append (.nil _ ['\n'])
      have ih : CutOut behind (before ++ (raw ++ ['\n'])) (['\n'].intercalate (next :: raws)) _ :=
        ih (by rw [← List.append_assoc, Text.lastLine_append_newline])
          (fun w hw => hraws w (List.mem_cons_of_mem raw hw))
      have hcount : (before ++ (raw ++ ['\n'])).count '\n' = before.count '\n' + 1 := by
        simp [List.count_eq_zero.2 hraw]
      have hlength : utf8Length (before ++ (raw ++ ['\n'])) =
          utf8Length before + utf8Length raw + 1 := by
        rw [Text.utf8Length_append, Text.utf8Length_append, Nat.add_assoc]
        rfl
      rw [hcount, hlength] at ih
      simpa only [ofLines, List.intercalate_cons_cons] using hend.append ih

/-- **The words of a text come in their order, each at its place.** -/
theorem cutOut_ofText (text : Text) : CutOut behind [] text (ofText text) := by
  have h : CutOut behind [] (['\n'].intercalate (Text.lines text)) (ofText text) :=
    cutOut_ofLines rfl fun raw => Text.newline_notMem_of_mem_lines
  rwa [Text.lines, List.intercalate_splitOn] at h

/-! ### Characters of words -/

theorem ne_nil_of_mem_ofText {text : Text} {token : Token} (h : token ∈ ofText text) :
    token.text ≠ [] := by
  obtain ⟨i, raw, offset, run, -, -, htoken⟩ := exists_run_of_mem_ofText h
  obtain ⟨leading, trailing, -, hpart, -⟩ := Run.exists_leading_of_token? htoken
  obtain ⟨c, hc, -⟩ := hpart.head
  exact List.ne_nil_of_mem (List.mem_of_head? hc)

/-- The characters of a word come from a cluster of a line that belongs to a run. -/
theorem exists_cluster_of_mem {text : Text} {token : Token} (h : token ∈ ofText text) {c : Char}
    (hc : c ∈ token.text) :
    ∃ raw ∈ Text.lines text, ∃ cluster ∈ Text.lineClusters raw,
      Run.joins cluster = true ∧ c ∈ cluster := by
  obtain ⟨i, raw, offset, run, hraw, hrun, htoken⟩ := exists_run_of_mem_ofText h
  obtain ⟨leading, trailing, htext, -⟩ := Run.exists_leading_of_token? htoken
  refine ⟨raw, List.mem_of_getElem? hraw, Run.exists_mem_of_mem_ofClusters hrun ?_⟩
  rw [htext]
  exact List.mem_append_right _ (List.mem_append_left _ hc)

/-- No character of a line end belongs to a word. -/
theorem lineEnd_notMem_of_mem_ofText {text : Text} {token : Token} (h : token ∈ ofText text) :
    '\n' ∉ token.text ∧ '\r' ∉ token.text := by
  refine ⟨fun hc => ?_, fun hc => ?_⟩
  · obtain ⟨raw, hraw, cluster, hcluster, -, hc⟩ := exists_cluster_of_mem h hc
    have hkept := List.mem_flatten_of_mem hcluster hc
    rw [Text.lineClusters, Text.flatten_graphemes] at hkept
    refine Text.newline_notMem_of_mem_lines hraw ?_
    exact (List.rdropWhile_prefix (· == '\r') raw).subset hkept
  · obtain ⟨raw, -, cluster, hcluster, hjoins, hc⟩ := exists_cluster_of_mem h hc
    have htail := Text.notMem_tail_of_mem_graphemes Grapheme.joins_carriageReturn hcluster
    cases cluster with
    | nil => cases hc
    | cons d cluster =>
      obtain rfl | hc := List.mem_cons.1 hc
      · have hfirst : Unicode.isAlphabetic '\r' = false := by decide
        simp [Run.joins, hfirst] at hjoins
      · exact htail hc

/-! ### Places of words -/

/-- The places of words go from line to line, and on a line from left to right. -/
theorem pairwise_place_ofText (text : Text) :
    (ofText text).Pairwise fun a b =>
      a.line < b.line ∨ (a.line = b.line ∧ a.column < b.column) := by
  refine (cutOut_ofText text).pairwise.imp_of_mem ?_
  rintro _ _ ha - ⟨l, word, m, other, rfl, rfl⟩
  have hword : word ≠ [] := ne_nil_of_mem_ofText ha
  rw [List.append_assoc]
  by_cases hend : '\n' ∈ word ++ m
  · left
    have hcount := List.count_pos_iff.2 hend
    simp only [behind, List.count_append] at hcount ⊢
    omega
  · right
    have hlength := List.length_pos_iff.2 hword
    simp only [behind, List.count_append, List.count_eq_zero.2 hend, Text.lastLine_append hend,
      List.length_append, true_and, Nat.add_zero]
    omega

/-- The place of a word tells it from the other words of the text. -/
theorem eq_of_place {text : Text} {a b : Token} (ha : a ∈ ofText text) (hb : b ∈ ofText text)
    (hline : a.line = b.line) (hcolumn : a.column = b.column) : a = b := by
  have hapart : (ofText text).Pairwise fun x y =>
      ¬((x.line = b.line ∧ x.column = b.column) ∧ y.line = b.line ∧ y.column = b.column) :=
    (pairwise_place_ofText text).imp fun h => by omega
  exact eq_of_pairwise_not_and hapart ha hb ⟨hline, hcolumn⟩ ⟨rfl, rfl⟩

/-- **The places of words are true.** A word stands at its offset in the UTF-8 form of the text;
its line and column count the line feeds before it and the characters since the last one. No word
goes over a line end, and every word ends before the next one begins. -/
theorem place_of_mem_ofText (text : Text) :
    (∀ token ∈ ofText text,
      text.utf8Encode.extract token.offset (token.offset + token.text.utf8Encode.size) =
          token.text.utf8Encode ∧
        (∃ before after, text = before ++ token.text ++ after ∧
          token.offset = before.utf8Encode.size ∧ token.line = 1 + before.count '\n' ∧
          token.column = 1 + (lastLine before).length) ∧
        token.text ≠ [] ∧ '\n' ∉ token.text ∧ '\r' ∉ token.text) ∧
    (ofText text).Pairwise fun a b => a.offset + a.text.utf8Encode.size ≤ b.offset := by
  refine ⟨fun token h => ?_, (cutOut_ofText text).pairwise.imp ?_⟩
  · obtain ⟨before, word, after, rfl, rfl⟩ := (cutOut_ofText text).exists_of_mem h
    have hoffset : (behind before word).offset = before.utf8Encode.size :=
      Text.utf8Length_eq_size_utf8Encode before
    have hbytes := Text.extract_utf8Encode before word after
    rw [Text.utf8Length_eq_size_utf8Encode word] at hbytes
    exact ⟨hbytes, ⟨before, after, rfl, hoffset, Nat.add_comm _ 1, Nat.add_comm _ 1⟩,
      ne_nil_of_mem_ofText h, lineEnd_notMem_of_mem_ofText h⟩
  · rintro _ _ ⟨l, word, m, other, rfl, rfl⟩
    rw [behind, behind, ← Text.utf8Length_eq_size_utf8Encode]
    simp only [Text.utf8Length_append, Nat.le_add_right]

end Token

end AffixSpeller
