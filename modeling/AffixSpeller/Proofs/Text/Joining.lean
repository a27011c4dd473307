import AffixSpeller.Proofs.Text.Solid

/-!
# Joining lines and fields

Lines are written one below the other, each with a line feed behind it, and the fields of a line
with a blank between them. Cutting the text again gives the lines and the fields back.

## Main definitions

* `Text.ofLines`, `Text.ofFields`: the text of lines, and the line of fields.

## Main results

* `Text.lines_ofLines`: the lines of such a text, and the empty one behind the last line feed.
* `Text.ofLines_lines`, `Text.lines_append_newline`: a text from its lines, and the lines of two
  texts.
* `Text.fields_ofFields`: the fields of such a line.
* `Text.content_ofFields`: nothing around such a line is dropped.
-/

namespace AffixSpeller.Text

/-- The text of lines, each with a line feed behind it. -/
def ofLines (ls : List Text) : Text :=
  ls.flatMap (· ++ ['\n'])

/-- The line of fields, with a blank between them. -/
def ofFields (fs : List Text) : Text :=
  [' '].intercalate fs

/-! ### Lines -/

theorem newline_notMem_of_mem_lines {t line : Text} (h : line ∈ lines t) : '\n' ∉ line := by
  rw [lines, List.splitOn_eq_splitOnP] at h
  intro hmem
  simpa using not_of_mem_splitOnP h '\n' hmem

theorem ofLines_cons (line : Text) (ls : List Text) :
    ofLines (line :: ls) = line ++ '\n' :: ofLines ls := by
  simp [ofLines]

theorem lines_ofLines {ls : List Text} (h : ∀ line ∈ ls, '\n' ∉ line) :
    lines (ofLines ls) = ls ++ [[]] := by
  induction ls with
  | nil => rfl
  | cons line ls ih =>
    rw [ofLines_cons, lines, List.splitOn_append_cons_self_of_not_mem (h line List.mem_cons_self)]
    exact congrArg (line :: ·) (ih fun l hl => h l (List.mem_cons_of_mem line hl))

theorem lines_append_newline (a b : Text) : lines (a ++ '\n' :: b) = lines a ++ lines b :=
  List.splitOn_append_cons_self a b

/-- A text has one line more than line feeds. -/
theorem length_lines (t : Text) : (lines t).length = t.count '\n' + 1 := by
  induction t with
  | nil => rfl
  | cons c t ih =>
    rw [lines, List.splitOn_cons_eq_if_modifyHead, List.count_cons]
    rw [lines] at ih
    split_ifs
    · rw [List.length_cons, ih]
    · rw [List.length_modifyHead, ih, Nat.add_zero]

theorem ofLines_eq_intercalate {ls : List Text} (h : ls ≠ []) :
    ofLines ls = ['\n'].intercalate ls ++ ['\n'] := by
  induction ls with
  | nil => exact absurd rfl h
  | cons line ls ih =>
    cases ls with
    | nil => simp [ofLines]
    | cons next ls =>
      rw [ofLines_cons, ih (List.cons_ne_nil _ _), List.intercalate_cons_cons]
      simp

/-- The lines of a text with a line feed behind each are the text with one behind it. -/
theorem ofLines_lines (t : Text) : ofLines (lines t) = t ++ ['\n'] := by
  have hne : lines t ≠ [] := List.splitOn_ne_nil '\n' t
  rw [ofLines_eq_intercalate hne, lines, List.intercalate_splitOn]

/-! ### Fields -/

theorem ofFields_cons_cons (f g : Text) (fs : List Text) :
    ofFields (f :: g :: fs) = f ++ ' ' :: ofFields (g :: fs) := by
  simp [ofFields, List.intercalate]

theorem fields_ofFields {fs : List Text} (h : ∀ f ∈ fs, f ≠ [] ∧ Solid f) :
    fields (ofFields fs) = fs := by
  induction fs with
  | nil => rfl
  | cons f fs ih =>
    obtain ⟨hne, hsolid⟩ := h f List.mem_cons_self
    cases fs with
    | nil => simp [ofFields, fields, List.splitOnP_eq_singleton hsolid, hne]
    | cons g fs =>
      have hblank : Unicode.isWhiteSpace ' ' = true := by decide
      have ih := ih fun w hw => h w (List.mem_cons_of_mem f hw)
      rw [fields] at ih ⊢
      rw [ofFields_cons_cons, List.splitOnP_append_cons_of_forall_mem hsolid ' ' hblank,
        List.filter_cons_of_pos (by simpa using hne), ih]

theorem newline_notMem_ofFields {fs : List Text} (h : ∀ f ∈ fs, Solid f) :
    '\n' ∉ ofFields fs := by
  induction fs with
  | nil => simp [ofFields]
  | cons f fs ih =>
    cases fs with
    | nil => simpa [ofFields] using (h f List.mem_cons_self).newline_notMem
    | cons g fs =>
      simp only [ofFields_cons_cons, List.mem_append, List.mem_cons, not_or]
      exact ⟨(h f List.mem_cons_self).newline_notMem, by decide,
        ih fun w hw => h w (List.mem_cons_of_mem f hw)⟩

/-! ### Contents -/

theorem trim_eq_self {t : Text} (hhead : ∀ c ∈ t.head?, Unicode.isWhiteSpace c = false)
    (hlast : ∀ c ∈ t.getLast?, Unicode.isWhiteSpace c = false) : trim t = t := by
  have hdrop {s : Text} (h : ∀ c ∈ s.head?, Unicode.isWhiteSpace c = false) :
      s.dropWhile Unicode.isWhiteSpace = s := by
    cases s with
    | nil => rfl
    | cons c s => exact List.dropWhile_cons_of_neg (by simp [h c rfl])
  rw [trim, trimWhile, dropEndWhile, hdrop hhead, hdrop (by rwa [List.head?_reverse]),
    List.reverse_reverse]

theorem head?_ofFields {f : Text} (hf : f ≠ []) (fs : List Text) :
    (ofFields (f :: fs)).head? = f.head? := by
  cases fs with
  | nil => simp [ofFields]
  | cons g fs =>
    obtain ⟨c, cs, rfl⟩ := List.exists_cons_of_ne_nil hf
    rw [ofFields_cons_cons]
    rfl

theorem ofFields_ne_nil {f : Text} (hf : f ≠ []) (fs : List Text) : ofFields (f :: fs) ≠ [] := by
  intro hnil
  have hhead := head?_ofFields hf fs
  rw [hnil] at hhead
  exact hf (List.head?_eq_none_iff.1 hhead.symm)

theorem not_isWhiteSpace_getLast?_ofFields {fs : List Text} (h : ∀ f ∈ fs, f ≠ [] ∧ Solid f) :
    ∀ c ∈ (ofFields fs).getLast?, Unicode.isWhiteSpace c = false := by
  induction fs with
  | nil => simp [ofFields]
  | cons f fs ih =>
    cases fs with
    | nil =>
      have hsingle : ofFields [f] = f := by simp [ofFields]
      rw [hsingle]
      exact fun c hc => (h f List.mem_cons_self).2 c (List.mem_of_getLast? hc)
    | cons g fs =>
      have hg := (h g (by simp)).1
      obtain ⟨c, cs, hline⟩ := List.exists_cons_of_ne_nil (ofFields_ne_nil hg fs)
      have ih := ih fun w hw => h w (List.mem_cons_of_mem f hw)
      rw [hline] at ih
      simpa [ofFields_cons_cons, hline, List.getLast?_append] using ih

/-- Nothing around a line of fields is dropped, unless the first field has a byte order mark. -/
theorem content_ofFields {f : Text} {fs : List Text} (h : ∀ w ∈ f :: fs, w ≠ [] ∧ Solid w)
    (hmark : f.head? ≠ some '\ufeff') : content (ofFields (f :: fs)) = ofFields (f :: fs) := by
  obtain ⟨hne, hsolid⟩ := h f List.mem_cons_self
  have hhead := head?_ofFields hne fs
  have hdrop : (ofFields (f :: fs)).dropWhile (· == '\ufeff') = ofFields (f :: fs) := by
    cases hline : ofFields (f :: fs) with
    | nil => rfl
    | cons c cs =>
      rw [hline] at hhead
      refine List.dropWhile_cons_of_neg fun hc => hmark ?_
      rw [← hhead, List.head?_cons, eq_of_beq hc]
  rw [content, hdrop, trim_eq_self _ (not_isWhiteSpace_getLast?_ofFields h)]
  rw [hhead]
  exact fun c hc => hsolid c (List.mem_of_head? hc)

/-! ### Lines of one field -/

theorem content_of_solid {t : Text} (hne : t ≠ []) (hsolid : Solid t)
    (hmark : t.head? ≠ some '\ufeff') : content t = t := by
  have hline : content (ofFields [t]) = ofFields [t] :=
    content_ofFields (by simpa using ⟨hne, hsolid⟩) hmark
  simpa [ofFields] using hline

theorem fields_of_solid {t : Text} (hne : t ≠ []) (hsolid : Solid t) : fields t = [t] := by
  have hline : fields (ofFields [t]) = [t] := fields_ofFields (by simpa using ⟨hne, hsolid⟩)
  simpa [ofFields] using hline

end AffixSpeller.Text
