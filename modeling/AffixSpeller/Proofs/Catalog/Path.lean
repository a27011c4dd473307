import AffixSpeller.Catalog.Path
import AffixSpeller.Proofs.Text.Basic

/-!
# Names along paths

Going on from a path to a name below it adds that name to its components, so a path tells the names
that were gone through. Paths are ordered by their components, and a name divides at its last full
stop.

## Main definitions

* `Path.IsName`: the names that files and directories can have.

## Main results

* `Path.components_join_of_not_isAbsolute`: going on to a name that is not absolute.
* `Path.components_foldl_join`: the components of a path that goes through names.
* `Path.isUpTo_iff`: the order of paths is the lexicographic one of their components.
* `Path.extension?_eq_some_iff`, `Path.stem_append`: the parts of a name around its last full stop.
-/

namespace AffixSpeller.Path

variable {base name stem extension : Text}

/-! ### Components -/

/-- The text can be the name of a file or a directory. -/
structure IsName (name : Text) : Prop where
  ne_nil : name ≠ []
  slash_notMem : '/' ∉ name
  ne_here : name ≠ ['.']
  ne_above : name ≠ ['.', '.']

instance (name : Text) : Decidable (IsName name) :=
  decidable_of_iff (name ≠ [] ∧ '/' ∉ name ∧ name ≠ ['.'] ∧ name ≠ ['.', '.'])
    ⟨fun ⟨hne, hslash, hhere, habove⟩ => ⟨hne, hslash, hhere, habove⟩,
      fun h => ⟨h.ne_nil, h.slash_notMem, h.ne_here, h.ne_above⟩⟩

theorem components_append_slash (a b : Text) :
    components (a ++ '/' :: b) = components a ++ components b := by
  rw [components, List.splitOn_append_cons_self, List.filter_append]
  rfl

theorem IsName.components_eq (h : IsName name) : components name = [name] := by
  rw [components, List.splitOn_eq_singleton h.slash_notMem]
  simp [h.ne_nil, h.ne_here]

/-- What a path becomes when it goes on: a slash at its end is the one before the name. -/
theorem exists_join_eq (hbase : base ≠ []) (hname : isAbsolute name = false) :
    ∃ front, join base name = front ++ '/' :: name ∧ (base = front ∨ base = front ++ ['/']) := by
  unfold join
  split
  · simp [isAbsolute] at hname
  · split_ifs with hend
    · have hslash : base.getLast? = some '/' := by simpa [hbase] using hend
      obtain ⟨front, rfl⟩ := List.getLast?_eq_some_iff.1 hslash
      exact ⟨front, by simp, .inr rfl⟩
    · exact ⟨base, rfl, .inl rfl⟩

theorem components_join_of_not_isAbsolute (base : Text) (hname : isAbsolute name = false) :
    components (join base name) = components base ++ components name := by
  by_cases hbase : base = []
  · subst hbase
    unfold join
    split <;> simp_all [isAbsolute, components]
  · obtain ⟨front, hjoin, rfl | rfl⟩ := exists_join_eq hbase hname
    · rw [hjoin, components_append_slash]
    · rw [hjoin, components_append_slash, components_append_slash]
      exact congrArg (· ++ components name) (List.append_nil _).symm

theorem isAbsolute_join (hbase : base ≠ []) (hname : isAbsolute name = false) :
    isAbsolute (join base name) = isAbsolute base := by
  obtain ⟨front, hjoin, rfl | rfl⟩ := exists_join_eq hbase hname
  · rw [hjoin, isAbsolute, List.head?_append_of_ne_nil _ hbase, isAbsolute]
  · rw [hjoin, isAbsolute, isAbsolute, List.head?_append, List.head?_append]
    rfl

theorem IsName.not_isAbsolute (h : IsName name) : isAbsolute name = false := by
  refine beq_eq_false_iff_ne.2 fun hhead => h.slash_notMem ?_
  exact List.mem_of_mem_head? hhead

/-- A path that goes on to a name may end at a file. -/
theorem endsAsDirectory_join (hbase : base ≠ []) (h : IsName name) :
    endsAsDirectory (join base name) = false := by
  obtain ⟨front, hjoin, -⟩ := exists_join_eq hbase h.not_isAbsolute
  rw [hjoin, endsAsDirectory, List.splitOn_append_cons_self,
    List.splitOn_eq_singleton h.slash_notMem, List.getLast?_concat]
  simp [h.ne_nil, h.ne_here, h.ne_above]

/-- **Going on to a name** adds it to the components of the path. -/
theorem components_join (base : Text) (h : IsName name) :
    components (join base name) = components base ++ [name] := by
  rw [components_join_of_not_isAbsolute base h.not_isAbsolute, h.components_eq]

theorem components_foldl_join (base : Text) {names : List Text} (h : ∀ name ∈ names, IsName name) :
    components (names.foldl join base) = components base ++ names := by
  induction names generalizing base with
  | nil => simp
  | cons name names ih =>
    rw [List.foldl_cons, ih _ fun n hn => h n (List.mem_cons_of_mem name hn),
      components_join base (h name List.mem_cons_self), List.append_assoc, List.singleton_append]

/-! ### The order of paths -/

theorem namesUpTo_iff {a b : List Text} : namesUpTo a b = true ↔ a ≤ b := by
  rw [← not_lt]
  induction a generalizing b with
  | nil => simp [namesUpTo]
  | cons s a ih =>
    cases b with
    | nil => simp [namesUpTo]
    | cons t b =>
      rw [namesUpTo, List.cons_lt_cons_iff]
      rcases lt_trichotomy s t with hlt | heq | hgt
      · simp [hlt.ne, hlt.ne', hlt.not_gt, Text.isUpTo_iff, hlt.le]
      · simp [heq, ih]
      · simp [hgt.ne', hgt, Text.isUpTo_iff, hgt.not_ge]

/-- **The order of paths** is the lexicographic one of their components. -/
theorem isUpTo_iff {a b : Text} : isUpTo a b = true ↔ components a ≤ components b :=
  namesUpTo_iff

/-! ### Stem and extension -/

theorem divide_eq_some_iff {front back : Text} :
    divide name = some (front, back) ↔ name = front ++ '.' :: back ∧ '.' ∉ back := by
  simp only [divide, Option.map_eq_some_iff, Prod.mk.injEq, Prod.exists, Text.cutAt_eq_some_iff]
  constructor
  · rintro ⟨l, r, ⟨hname, hl⟩, rfl, rfl⟩
    refine ⟨?_, by simpa using hl⟩
    rw [← List.reverse_reverse name, hname]
    simp
  · rintro ⟨rfl, hback⟩
    exact ⟨back.reverse, front.reverse, ⟨by simp, by simpa using hback⟩, by simp, by simp⟩

theorem extension?_eq_some_iff :
    extension? name = some extension ↔
      '.' ∉ extension ∧ ∃ stem, stem ≠ [] ∧ name = stem ++ '.' :: extension := by
  constructor
  · intro h
    unfold extension? at h
    split at h
    · rename_i c cs back hdivide
      obtain ⟨hname, hback⟩ := divide_eq_some_iff.1 hdivide
      cases h
      exact ⟨hback, c :: cs, List.cons_ne_nil c cs, hname⟩
    · contradiction
  · rintro ⟨hextension, stem, hne, hname⟩
    obtain ⟨c, cs, rfl⟩ := List.exists_cons_of_ne_nil hne
    rw [extension?, divide_eq_some_iff.2 ⟨hname, hextension⟩]

theorem stem_append (hne : stem ≠ []) (hextension : '.' ∉ extension) :
    Path.stem (stem ++ '.' :: extension) = stem := by
  obtain ⟨c, cs, rfl⟩ := List.exists_cons_of_ne_nil hne
  rw [Path.stem, divide_eq_some_iff.2 ⟨rfl, hextension⟩]

/-- A name is its stem and behind it the extension, if there is one. -/
theorem stem_append_extension? (name : Text) :
    Path.stem name ++ (extension? name).elim [] ('.' :: ·) = name := by
  unfold Path.stem extension?
  split
  · rename_i c cs back hdivide
    exact (divide_eq_some_iff.1 hdivide).1.symm
  · exact List.append_nil name

/-- A name is determined by its stem and extension. -/
theorem eq_of_stem_eq {a b : Text} (hstem : Path.stem a = Path.stem b)
    (hextension : extension? a = extension? b) : a = b := by
  rw [← stem_append_extension? a, ← stem_append_extension? b, hstem, hextension]

end AffixSpeller.Path
