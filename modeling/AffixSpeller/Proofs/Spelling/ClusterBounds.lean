import AffixSpeller.Proofs.Spelling.LetterWords

/-!
# Words and the bounds of clusters

Runs are made of whole clusters, but their words are trimmed character by character. A word keeps
the cluster of its first letter whole unless other characters of this cluster stand before the
letter, and that of its last letter unless others stand behind it: a letter with a mark that is no
letter loses the mark at the end of a word. Inside a word no cluster is cut, as a word has all
characters between its ends.

## Main definitions

* `Text.BoundaryAt`: a line and column where a cluster begins or ends.

## Main results

* `Text.ClusterAt.not_boundaryAt`: no boundary lies inside a cluster.
* `Token.boundaryAt_of_mem_ofText`: when a word begins and ends at a boundary.
-/

namespace AffixSpeller

namespace Text

/-! ### Boundaries -/

/-- At the line and column of the text, which count from one, a cluster begins or ends. -/
def BoundaryAt (text : Text) (line column : Nat) : Prop :=
  ∃ i raw l r, (lines text)[i]? = some raw ∧ lineClusters raw = l ++ r ∧
    line = 1 + i ∧ column = l.flatten.length + 1

namespace ClusterAt

variable {text cluster : Text} {line column k : Nat}

theorem boundaryAt_begin (h : text.ClusterAt line column cluster) :
    text.BoundaryAt line column := by
  obtain ⟨i, raw, -, hraw, ⟨l, r, hclusters, rfl⟩, hline, hcolumn⟩ := h
  exact ⟨i, raw, l, cluster :: r, hraw, hclusters, hline, hcolumn⟩

theorem boundaryAt_end (h : text.ClusterAt line column cluster) :
    text.BoundaryAt line (column + cluster.length) := by
  obtain ⟨i, raw, -, hraw, ⟨l, r, hclusters, rfl⟩, hline, rfl⟩ := h
  refine ⟨i, raw, l ++ [cluster], r, hraw, by simp [hclusters], hline, ?_⟩
  simp only [List.flatten_append, List.flatten_singleton, List.length_append]
  omega

/-- No boundary lies inside a cluster. -/
theorem not_boundaryAt (h : text.ClusterAt line column cluster) (hlt : column < k)
    (hgt : k < column + cluster.length) : ¬text.BoundaryAt line k := by
  obtain ⟨i, raw, -, hraw, ⟨l, r, hclusters, rfl⟩, rfl, rfl⟩ := h
  rintro ⟨j, raw', before, behind, hraw', hclusters', hline, rfl⟩
  obtain rfl : i = j := Nat.add_left_cancel hline
  obtain rfl : raw = raw' := Option.some.inj (hraw.symm.trans hraw')
  obtain ⟨m, rfl, -⟩ | ⟨m, rfl, -⟩ := append_eq_append_cons (hclusters'.symm.trans hclusters)
  · -- the boundary would be behind the whole cluster
    simp only [List.flatten_append, List.flatten_cons, List.length_append] at hgt
    omega
  · simp only [List.flatten_append, List.length_append] at hlt
    omega

/-- A boundary in front of a character of a cluster is where the cluster begins. -/
theorem boundaryAt_front_iff {pre post : Text} {c : Char}
    (h : text.ClusterAt line column (pre ++ c :: post)) :
    text.BoundaryAt line (column + pre.length) ↔ pre = [] := by
  refine ⟨fun hbound => ?_, ?_⟩
  · by_contra hpre
    have := List.length_pos_iff.2 hpre
    exact h.not_boundaryAt (by omega) (by simp) hbound
  · rintro rfl
    exact h.boundaryAt_begin

/-- A boundary behind a character of a cluster is where the cluster ends. -/
theorem boundaryAt_behind_iff {pre post : Text} {c : Char}
    (h : text.ClusterAt line column (pre ++ c :: post)) :
    text.BoundaryAt line (column + pre.length + 1) ↔ post = [] := by
  refine ⟨fun hbound => ?_, ?_⟩
  · by_contra hpost
    have := List.length_pos_iff.2 hpost
    refine h.not_boundaryAt (by omega) ?_ hbound
    simp only [List.length_append, List.length_cons]
    omega
  · rintro rfl
    simpa [Nat.add_assoc] using h.boundaryAt_end

end ClusterAt

/-- A character of clusters put together comes from one of them. -/
theorem exists_eq_of_flatten_eq {ws : List Text} {s t : Text} {c : Char}
    (h : ws.flatten = s ++ c :: t) :
    ∃ l pre post r, ws = l ++ (pre ++ c :: post) :: r ∧ s = l.flatten ++ pre ∧
      t = post ++ r.flatten := by
  induction ws generalizing s with
  | nil => simp at h
  | cons w ws ih =>
    rw [List.flatten_cons] at h
    obtain ⟨post, rfl, rfl⟩ | ⟨s, rfl, hws⟩ := append_eq_append_cons h
    · exact ⟨[], s, post, ws, rfl, rfl, rfl⟩
    · obtain ⟨l, pre, post, r, rfl, rfl, rfl⟩ := ih hws
      exact ⟨w :: l, pre, post, r, rfl, by simp, rfl⟩

end Text

namespace Token

variable {text : Text} {token : Token}

/-! ### Words between boundaries -/

/-- A character of the run of a word comes from a cluster of the line of the word. -/
theorem exists_clusterAt_of_run {i offset : Nat} {raw s t : Text} {run : Run} {c : Char}
    (hraw : (Text.lines text)[i]? = some raw)
    (hrun : run ∈ Run.ofClusters 0 offset (Text.lineClusters raw))
    (htext : run.text = s ++ c :: t) :
    ∃ column pre post before behind, text.ClusterAt (1 + i) column (pre ++ c :: post) ∧
      s = before ++ pre ∧ t = post ++ behind ∧
      run.before + s.length + 1 = column + pre.length := by
  obtain ⟨l, ws, r, hclusters, -, hws, hbefore⟩ := Run.exists_stretch_of_mem hrun
  obtain ⟨us, pre, post, vs, rfl, rfl, rfl⟩ := Text.exists_eq_of_flatten_eq (hws.symm.trans htext)
  refine ⟨(l ++ us).flatten.length + 1, pre, post, us.flatten, vs.flatten,
    ⟨i, raw, _, hraw, ⟨l ++ us, vs ++ r, by simp [hclusters], rfl⟩, rfl, rfl⟩, rfl, rfl, ?_⟩
  simp only [hbefore, List.flatten_append, List.length_append]
  omega

/-- **A word begins and ends at boundaries of clusters as far as its outer letters do.** In the
cluster that the first letter of a word comes from, no letter stands before it, and the word begins
at a boundary exactly if nothing does; likewise behind its last letter. -/
theorem boundaryAt_of_mem_ofText (h : token ∈ ofText text) :
    (∃ column pre c post, text.ClusterAt token.line column (pre ++ c :: post) ∧
      token.text.head? = some c ∧ Unicode.isAlphabetic c = true ∧
      (∀ d ∈ pre, Unicode.isAlphabetic d = false) ∧
      token.column = column + pre.length ∧
      (text.BoundaryAt token.line token.column ↔ pre = [])) ∧
    ∃ column pre c post, text.ClusterAt token.line column (pre ++ c :: post) ∧
      token.text.getLast? = some c ∧ Unicode.isAlphabetic c = true ∧
      (∀ d ∈ post, Unicode.isAlphabetic d = false) ∧
      token.column + token.text.length = column + pre.length + 1 ∧
      (text.BoundaryAt token.line (token.column + token.text.length) ↔ post = []) := by
  obtain ⟨i, raw, offset, run, hraw, hrun, htoken⟩ := exists_run_of_mem_ofText h
  obtain ⟨leading, trailing, htext, hpart, hplaced⟩ := Run.exists_leading_of_token? htoken
  have hline : token.line = 1 + i := Run.line_of_token? htoken
  have hcolumn : token.column = run.before + leading.length + 1 := congrArg Token.column hplaced
  obtain ⟨c, hc, hletter⟩ := hpart.head
  obtain ⟨d, hd, hletter'⟩ := hpart.last
  constructor
  · obtain ⟨w, hw⟩ := List.head?_eq_some_iff.1 hc
    have hfirst : run.text = leading ++ c :: (w ++ trailing) := by simp [htext, hw]
    obtain ⟨column, pre, post, before, behind, hat, rfl, -, hplace⟩ :=
      exists_clusterAt_of_run hraw hrun hfirst
    have hbegin : token.column = column + pre.length := hcolumn.trans hplace
    rw [hline, hbegin]
    exact ⟨column, pre, c, post, hat, hc, hletter, fun e he => hpart.leading e (by simp [he]),
      rfl, hat.boundaryAt_front_iff⟩
  · obtain ⟨w, hw⟩ := List.getLast?_eq_some_iff.1 hd
    have hlast : run.text = (leading ++ w) ++ d :: trailing := by simp [htext, hw]
    obtain ⟨column, pre, post, before, behind, hat, -, rfl, hplace⟩ :=
      exists_clusterAt_of_run hraw hrun hlast
    have hend : token.column + token.text.length = column + pre.length + 1 := by
      rw [← hplace, hcolumn, hw]
      simp only [List.length_append, List.length_singleton]
      omega
    rw [hline, hend]
    exact ⟨column, pre, d, post, hat, hd, hletter', fun e he => hpart.trailing e (by simp [he]),
      rfl, hat.boundaryAt_behind_iff⟩

theorem boundaryAt_of_mem_ofText_acute :
    (⟨"cafe".toList, 1, 1, 0⟩ : Token) ∈ ofText "cafe\u0301".toList ∧
      ∃ column pre c post, Text.ClusterAt "cafe\u0301".toList 1 column (pre ++ c :: post) ∧
        c = 'e' ∧ 5 = column + pre.length + 1 ∧
        (Text.BoundaryAt "cafe\u0301".toList 1 5 ↔ post = []) := by
  have hmem : (⟨"cafe".toList, 1, 1, 0⟩ : Token) ∈ ofText "cafe\u0301".toList := by decide
  obtain ⟨column, pre, c, post, hat, hlast, -, -, hplace, hbound⟩ :=
    (boundaryAt_of_mem_ofText hmem).2
  exact ⟨hmem, column, pre, c, post, hat, (Option.some.inj hlast).symm, hplace, hbound⟩

/-- An acute accent is no letter, so it is cut off from the letter at the end of a word. -/
theorem exists_mem_ofText_not_boundaryAt :
    ∃ token ∈ ofText "cafe\u0301".toList,
      ¬Text.BoundaryAt "cafe\u0301".toList token.line (token.column + token.text.length) := by
  have hat : Text.ClusterAt "cafe\u0301".toList 1 4 "e\u0301".toList :=
    ⟨0, "cafe\u0301".toList, 3, rfl, ⟨["c".toList, "a".toList, "f".toList], [], by decide, rfl⟩,
      rfl, rfl⟩
  exact ⟨⟨"cafe".toList, 1, 1, 0⟩, by decide, hat.not_boundaryAt (by decide) (by decide)⟩

end Token

end AffixSpeller
