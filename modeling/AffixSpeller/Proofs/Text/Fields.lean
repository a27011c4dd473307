import AffixSpeller.Proofs.Text.Place
import AffixSpeller.Proofs.Text.Solid

/-!
# Fields and the white space around them

The fields of a line do not depend on how much white space there is before, behind and between
them. Everything follows from one equation: white space cuts a text in two, and the fields of the
text are those of both sides.

## Main definitions

* `Text.Blank`: all characters of the text are white space.

## Main results

* `Text.fields_append_blank_append`: the fields on both sides of white space.
* `Text.fields_trim`: white space at the ends of a text does not matter to its fields.
* `Text.fields_cons_of_not_white`: a text that does not begin with white space begins with a field.
* `Text.dropWhile_mark_append`: which byte order marks are dropped at the beginning of a text.
-/

namespace AffixSpeller.Text

/-- All characters of the text are white space. -/
def Blank (t : Text) : Prop :=
  ∀ c ∈ t, Unicode.isWhiteSpace c = true

instance (t : Text) : Decidable t.Blank :=
  List.decidableBAll (fun c => Unicode.isWhiteSpace c = true) t

variable {s t gap : Text} {c : Char}

theorem blank_cons : Blank (c :: t) ↔ Unicode.isWhiteSpace c = true ∧ Blank t := by
  simp [Blank]

/-! ### Fields -/

/-- White space parts fields. -/
theorem fields_append_cons_white (hc : Unicode.isWhiteSpace c = true) (s t : Text) :
    fields (s ++ c :: t) = fields s ++ fields t := by
  rw [fields, List.splitOnP_append_cons s t hc, List.filter_append]
  rfl

theorem fields_blank_append (hgap : Blank gap) (t : Text) : fields (gap ++ t) = fields t := by
  induction gap with
  | nil => rfl
  | cons c gap ih =>
    obtain ⟨hc, hgap⟩ := blank_cons.1 hgap
    exact (fields_append_cons_white hc [] (gap ++ t)).trans (ih hgap)

/-- **White space between two texts** parts their fields, however much there is. -/
theorem fields_append_blank_append (hgap : Blank gap) (hne : gap ≠ []) (s t : Text) :
    fields (s ++ (gap ++ t)) = fields s ++ fields t := by
  obtain ⟨c, gap, rfl⟩ := List.exists_cons_of_ne_nil hne
  obtain ⟨hc, hgap⟩ := blank_cons.1 hgap
  rw [List.cons_append, fields_append_cons_white hc, fields_blank_append hgap]

theorem fields_append_blank (hgap : Blank gap) (s : Text) : fields (s ++ gap) = fields s := by
  by_cases hne : gap = []
  · rw [hne, List.append_nil]
  · have h := fields_append_blank_append hgap hne s []
    rw [List.append_nil] at h
    exact h.trans (List.append_nil _)

/-- A text that does not begin with white space begins with a field. -/
theorem fields_cons_of_not_white (hc : Unicode.isWhiteSpace c = false) (t : Text) :
    ∃ f fs, fields (c :: t) = (c :: f) :: fs := by
  obtain ⟨w, ws, hsplit⟩ := List.exists_cons_of_ne_nil
    (List.splitOnP_ne_nil Unicode.isWhiteSpace t)
  refine ⟨w, ws.filter (!·.isEmpty), ?_⟩
  rw [fields, List.splitOnP_cons_eq_if_modifyHead, hsplit]
  simp [hc]

/-! ### Trimming -/

theorem fields_trim (t : Text) : fields (trim t) = fields t := by
  obtain ⟨trailing, ht, htrailing⟩ :=
    exists_eq_takeWhile_append_trimWhile Unicode.isWhiteSpace t
  have hleading : Blank (t.takeWhile Unicode.isWhiteSpace) := fun c => List.mem_takeWhile_imp
  calc fields (trim t)
      = fields (t.takeWhile Unicode.isWhiteSpace ++ (trim t ++ trailing)) := by
        rw [fields_blank_append hleading, fields_append_blank htrailing]
    _ = fields t := congrArg fields ht.symm

theorem dropEndWhile_append_blank {after : Text} (hafter : Blank after) (t : Text) :
    dropEndWhile Unicode.isWhiteSpace (t ++ after) = dropEndWhile Unicode.isWhiteSpace t := by
  rw [dropEndWhile, List.reverse_append, List.dropWhile_append_of_pos, dropEndWhile]
  exact fun c hc => hafter c (List.mem_reverse.1 hc)

/-- White space around a text is trimmed with that of the text. -/
theorem trim_blank_append_blank {before after : Text} (hbefore : Blank before)
    (hafter : Blank after) (t : Text) : trim (before ++ t ++ after) = trim t := by
  rw [trim, trimWhile, List.append_assoc, List.dropWhile_append_of_pos hbefore,
    List.dropWhile_append, trim, trimWhile]
  split_ifs with hblank
  · -- nothing is left of the text
    rw [List.isEmpty_iff.1 hblank, List.dropWhile_eq_nil_iff.2 hafter]
  · exact dropEndWhile_append_blank hafter _

theorem not_isWhiteSpace_of_mem_head?_trim (h : c ∈ (trim t).head?) :
    Unicode.isWhiteSpace c = false := by
  have hne : trimWhile Unicode.isWhiteSpace t ≠ [] := by
    rintro hnil
    simp [trim, hnil] at h
  obtain ⟨⟨d, hd, hsolid⟩, -⟩ := exists_ends_of_trimWhile_ne_nil hne
  rwa [Option.mem_unique h hd]

theorem not_isWhiteSpace_of_mem_getLast?_trim (h : c ∈ (trim t).getLast?) :
    Unicode.isWhiteSpace c = false := by
  have hne : trimWhile Unicode.isWhiteSpace t ≠ [] := by
    rintro hnil
    simp [trim, hnil] at h
  obtain ⟨-, d, hd, hsolid⟩ := exists_ends_of_trimWhile_ne_nil hne
  rwa [Option.mem_unique h hd]

/-- What trimming leaves does not begin with white space. -/
theorem trim_eq_nil_or_cons (t : Text) :
    trim t = [] ∨ ∃ c rest, trim t = c :: rest ∧ Unicode.isWhiteSpace c = false := by
  cases htrim : trim t with
  | nil => exact .inl rfl
  | cons c rest =>
    have hhead : c ∈ (trim t).head? := by rw [htrim, List.head?_cons, Option.mem_some]
    exact .inr ⟨c, rest, rfl, not_isWhiteSpace_of_mem_head?_trim hhead⟩

/-! ### Byte order marks -/

theorem isWhiteSpace_mark : Unicode.isWhiteSpace '\ufeff' = false := by decide

/-- Byte order marks at the beginning end where something else stands. -/
theorem dropWhile_mark_append (s : Text) (ht : t.head? ≠ some '\ufeff') :
    (s ++ t).dropWhile (· == '\ufeff') = s.dropWhile (· == '\ufeff') ++ t := by
  have hself : t.dropWhile (· == '\ufeff') = t := by
    cases t with
    | nil => rfl
    | cons c t => exact List.dropWhile_cons_of_neg (by simpa using ht)
  rw [List.dropWhile_append, hself]
  split_ifs with hmarks
  · rw [List.isEmpty_iff.1 hmarks, List.nil_append]
  · rfl

theorem Blank.head?_append_ne (hgap : Blank gap) (hne : gap ≠ []) (t : Text) :
    (gap ++ t).head? ≠ some '\ufeff' := by
  obtain ⟨c, gap, rfl⟩ := List.exists_cons_of_ne_nil hne
  rintro ⟨⟩
  exact Bool.false_ne_true (isWhiteSpace_mark.symm.trans (hgap _ List.mem_cons_self))

end AffixSpeller.Text
