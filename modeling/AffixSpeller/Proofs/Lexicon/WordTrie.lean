import AffixSpeller.Lexicon.WordTrie
import Mathlib.Data.List.Nodup

/-!
# The map that a trie is

A trie is a finite map from non-empty words, seen through `WordTrie.get?`: altering it at a word
changes the value of that word and of no other. Its list of words agrees with this view as long as
no letter comes twice among the letters of one position, which altering keeps up.

## Main definitions

* `WordTrie.letters`: the letters that a trie offers for its first position.
* `WordTrie.Unambiguous`: no letter is offered twice for a position.

## Main results

* `WordTrie.get?_alter`: the values after one of them is altered.
* `WordTrie.Unambiguous.alter`: altering keeps a trie unambiguous.
* `WordTrie.letters_mapWithWord`, `WordTrie.size_mapWithWord`: other values leave the words.
* `WordTrie.mem_toList_iff`: the words of an unambiguous trie are those it has a value for.
* `WordTrie.Unambiguous.nodup_words`, `WordTrie.size_eq_length_toList`: each of them comes once, and
  the size counts them.
-/

namespace AffixSpeller.WordTrie

variable {α β : Type} {t : WordTrie α} {letter : Char} {value : Option α}
  {below beside : WordTrie α}

/-! ### Values -/

@[simp] theorem get?_empty (word : Text) : (empty : WordTrie α).get? word = none := rfl

@[simp] theorem get?_nil (t : WordTrie α) : t.get? [] = none := by
  cases t <;> rfl

theorem get?_node_cons (c : Char) (cs : Text) :
    (node letter value below beside).get? (c :: cs) =
      if c = letter then if cs = [] then value else below.get? cs else beside.get? (c :: cs) := by
  cases cs <;> simp [get?]

theorem singleton_cons (a : α) (c : Char) (cs : Text) :
    singleton a (c :: cs) =
      if cs = [] then node c (some a) empty empty else node c none (singleton a cs) empty := by
  cases cs <;> simp [singleton]

theorem alter_node_cons (f : Option α → α) (c : Char) (cs : Text) :
    (node letter value below beside).alter f (c :: cs) =
      if c = letter then
        if cs = [] then node letter (some (f value)) below beside
        else node letter value (below.alter f cs) beside
      else node letter value below (beside.alter f (c :: cs)) := by
  cases cs <;> simp [alter]

theorem get?_singleton (a : α) {w : Text} (hw : w ≠ []) (v : Text) :
    (singleton a w).get? v = if v = w then some a else none := by
  induction w generalizing v with
  | nil => exact absurd rfl hw
  | cons c cs ih =>
    cases v with
    | nil => simp
    | cons x xs =>
      rw [singleton_cons]
      by_cases hcs : cs = []
      · simp only [hcs, ↓reduceIte, get?_node_cons, get?_empty, List.cons.injEq]
        split_ifs <;> simp_all
      · simp only [hcs, ↓reduceIte, get?_node_cons, get?_empty, List.cons.injEq, ih hcs]
        split_ifs <;> simp_all

/-- **Altering a trie at a word changes the value of that word only.** -/
theorem get?_alter (f : Option α → α) (t : WordTrie α) {w : Text} (hw : w ≠ []) (v : Text) :
    (t.alter f w).get? v = if v = w then some (f (t.get? w)) else t.get? v := by
  induction t generalizing w v with
  | empty => exact get?_singleton (f none) hw v
  | node letter value below beside ihBelow ihBeside =>
    obtain ⟨c, cs, rfl⟩ := List.exists_cons_of_ne_nil hw
    cases v with
    | nil => simp
    | cons x xs =>
      rw [alter_node_cons]
      by_cases hc : c = letter
      · by_cases hcs : cs = []
        · simp only [hc, hcs, ↓reduceIte, get?_node_cons, List.cons.injEq]
          split_ifs <;> simp_all
        · simp only [hc, hcs, ↓reduceIte, get?_node_cons, List.cons.injEq, ihBelow hcs]
          split_ifs <;> simp_all
      · simp only [hc, ↓reduceIte, get?_node_cons, List.cons.injEq,
          ihBeside (List.cons_ne_nil c cs)]
        split_ifs <;> simp_all

theorem contains_insert (t : WordTrie α) {w : Text} (hw : w ≠ []) (a : α) (v : Text) :
    (t.insert w a).contains v = (v == w || t.contains v) := by
  unfold contains insert
  rw [get?_alter _ _ hw]
  by_cases h : v = w <;> simp [h]

/-! ### Words -/

/-- The letters that a trie offers for its first position. -/
def letters : WordTrie α → List Char
  | empty => []
  | node letter _ _ beside => letter :: beside.letters

/-- No letter is offered twice for a position. -/
def Unambiguous : WordTrie α → Prop
  | empty => True
  | node letter _ below beside =>
    letter ∉ beside.letters ∧ below.Unambiguous ∧ beside.Unambiguous

theorem unambiguous_singleton (a : α) (w : Text) : (singleton a w).Unambiguous := by
  induction w with
  | nil => trivial
  | cons c cs ih =>
    rw [singleton_cons]
    split_ifs <;> simp [Unambiguous, letters, ih]

theorem letters_alter (f : Option α → α) (t : WordTrie α) (w : Text) :
    ∀ c ∈ (t.alter f w).letters, c ∈ t.letters ∨ w.head? = some c := by
  induction t generalizing w with
  | empty =>
    cases w with
    | nil => simp [alter, singleton, letters]
    | cons c cs =>
      rw [alter, singleton_cons]
      split_ifs <;> simp [letters]
  | node letter value below beside _ ihBeside =>
    cases w with
    | nil => simp [alter]
    | cons c cs =>
      rw [alter_node_cons]
      split_ifs with hc hcs
      · exact fun d hd => Or.inl hd
      · exact fun d hd => Or.inl hd
      · intro d hd
        obtain rfl | hd := List.mem_cons.1 hd
        · exact Or.inl List.mem_cons_self
        · exact (ihBeside (c :: cs) d hd).imp_left (List.mem_cons_of_mem letter)

/-- Altering keeps a trie unambiguous. -/
theorem Unambiguous.alter (f : Option α → α) (ht : t.Unambiguous) (w : Text) :
    (t.alter f w).Unambiguous := by
  induction t generalizing w with
  | empty => exact unambiguous_singleton (f none) w
  | node letter value below beside ihBelow ihBeside =>
    obtain ⟨hletter, hbelow, hbeside⟩ := ht
    cases w with
    | nil => exact ⟨hletter, hbelow, hbeside⟩
    | cons c cs =>
      rw [alter_node_cons]
      split_ifs with hc hcs
      · exact ⟨hletter, hbelow, hbeside⟩
      · exact ⟨hletter, ihBelow hbelow cs, hbeside⟩
      · refine ⟨fun hmem => ?_, hbelow, ihBeside hbeside (c :: cs)⟩
        obtain h | h := letters_alter f beside (c :: cs) letter hmem
        · exact hletter h
        · exact hc (by simpa using h)

theorem mem_toList_node {w : Text} {a : α} :
    (w, a) ∈ (node letter value below beside).toList ↔
      (w = [letter] ∧ value = some a) ∨ (∃ cs, w = letter :: cs ∧ (cs, a) ∈ below.toList) ∨
        (w, a) ∈ beside.toList := by
  simp only [toList, List.mem_append, Option.mem_toList, Option.map_eq_some_iff, List.mem_map,
    Prod.mk.injEq, Prod.exists]
  constructor
  · rintro ((⟨b, hb, rfl, rfl⟩ | ⟨cs, b, hcs, rfl, rfl⟩) | h)
    · exact Or.inl ⟨rfl, hb⟩
    · exact Or.inr (Or.inl ⟨cs, rfl, hcs⟩)
    · exact Or.inr (Or.inr h)
  · rintro (⟨rfl, hb⟩ | ⟨cs, rfl, hcs⟩ | h)
    · exact Or.inl (Or.inl ⟨a, hb, rfl, rfl⟩)
    · exact Or.inl (Or.inr ⟨cs, a, hcs, rfl, rfl⟩)
    · exact Or.inr h

/-- A word of a trie is not empty and begins with a letter of the first position. -/
theorem head_mem_letters {w : Text} {a : α} (h : (w, a) ∈ t.toList) :
    ∃ c cs, w = c :: cs ∧ c ∈ t.letters := by
  induction t generalizing w with
  | empty => simp [toList] at h
  | node letter value below beside _ ihBeside =>
    obtain ⟨rfl, -⟩ | ⟨cs, rfl, -⟩ | h := mem_toList_node.1 h
    · exact ⟨letter, [], rfl, List.mem_cons_self⟩
    · exact ⟨letter, cs, rfl, List.mem_cons_self⟩
    · obtain ⟨c, cs, rfl, hc⟩ := ihBeside h
      exact ⟨c, cs, rfl, List.mem_cons_of_mem letter hc⟩

/-- **The words of an unambiguous trie are those that it has a value for.** -/
theorem mem_toList_iff (ht : t.Unambiguous) {w : Text} {a : α} :
    (w, a) ∈ t.toList ↔ t.get? w = some a := by
  induction t generalizing w with
  | empty => simp [toList]
  | node letter value below beside ihBelow ihBeside =>
    obtain ⟨hletter, hbelow, hbeside⟩ := ht
    have hnil (s : WordTrie α) : ([], a) ∉ s.toList := fun h => by
      obtain ⟨c, cs, heq, -⟩ := head_mem_letters h
      cases heq
    rw [mem_toList_node]
    cases w with
    | nil => simp [hnil]
    | cons c cs =>
      rw [get?_node_cons]
      obtain rfl | hc := eq_or_ne c letter
      · -- the words beside this node begin with other letters
        have hother : (c :: cs, a) ∉ beside.toList := fun h => by
          obtain ⟨d, ds, heq, hd⟩ := head_mem_letters h
          cases heq
          exact hletter hd
        obtain rfl | hcs := eq_or_ne cs []
        · simp [hnil, hother]
        · simp [hcs, hother, ihBelow hbelow]
      · simp [hc, ihBeside hbeside]

/-! ### The number of words -/

theorem size_eq_length_toList (t : WordTrie α) : t.size = t.toList.length := by
  induction t with
  | empty => rfl
  | node letter value below beside ihBelow ihBeside =>
    cases value with
    | none => simp [size, toList, ihBelow, ihBeside]
    | some a =>
      simp only [size, toList, ihBelow, ihBeside, Option.isSome_some, ↓reduceIte, Option.map_some,
        Option.toList_some, List.length_append, List.length_singleton, List.length_map]

theorem nil_notMem_words (t : WordTrie α) : [] ∉ t.toList.map Prod.fst := by
  intro h
  obtain ⟨⟨w, a⟩, hmem, rfl⟩ := List.mem_map.1 h
  obtain ⟨c, cs, heq, -⟩ := head_mem_letters hmem
  cases heq

/-- The words of a trie begin with letters of the first position. -/
theorem cons_notMem_words {c : Char} (hc : c ∉ t.letters) (cs : Text) :
    c :: cs ∉ t.toList.map Prod.fst := by
  intro h
  obtain ⟨⟨w, a⟩, hmem, rfl⟩ := List.mem_map.1 h
  obtain ⟨d, ds, heq, hd⟩ := head_mem_letters hmem
  cases heq
  exact hc hd

/-- No word comes twice in an unambiguous trie. -/
theorem Unambiguous.nodup_words (ht : t.Unambiguous) : (t.toList.map Prod.fst).Nodup := by
  induction t with
  | empty => exact List.nodup_nil
  | node letter value below beside ihBelow ihBeside =>
    obtain ⟨hletter, hbelow, hbeside⟩ := ht
    have hwords : (node letter value below beside).toList.map Prod.fst =
        (value.map fun _ => [letter]).toList ++
          ((below.toList.map Prod.fst).map (letter :: ·) ++ beside.toList.map Prod.fst) := by
      cases value <;> simp [toList, Function.comp_def]
    rw [hwords, List.nodup_append, List.nodup_append]
    refine ⟨by cases value <;> simp, ⟨(ihBelow hbelow).map fun _ _ h => (List.cons.inj h).2,
      ihBeside hbeside, ?_⟩, ?_⟩
    · rintro v hv w hw rfl
      obtain ⟨cs, -, rfl⟩ := List.mem_map.1 hv
      exact cons_notMem_words hletter cs hw
    · rintro v hv w hw rfl
      obtain rfl : v = [letter] := by cases value <;> simp_all
      obtain hw | hw := List.mem_append.1 hw
      · obtain ⟨cs, hcs, heq⟩ := List.mem_map.1 hw
        cases heq
        exact nil_notMem_words below hcs
      · exact cons_notMem_words hletter [] hw

/-! ### Other values -/

@[simp] theorem letters_mapWithWord (f : Text → α → β) (t : WordTrie α) :
    (t.mapWithWord f).letters = t.letters := by
  induction t generalizing f with
  | empty => rfl
  | node letter value below beside _ ihBeside => rw [mapWithWord, letters, letters, ihBeside]

/-- Other values leave a trie unambiguous. -/
theorem Unambiguous.mapWithWord (f : Text → α → β) (ht : t.Unambiguous) :
    (t.mapWithWord f).Unambiguous := by
  induction t generalizing f with
  | empty => trivial
  | node letter value below beside ihBelow ihBeside =>
    obtain ⟨hletter, hbelow, hbeside⟩ := ht
    exact ⟨by simpa using hletter, ihBelow _ hbelow, ihBeside _ hbeside⟩

@[simp] theorem size_mapWithWord (f : Text → α → β) (t : WordTrie α) :
    (t.mapWithWord f).size = t.size := by
  induction t generalizing f with
  | empty => rfl
  | node letter value below beside ihBelow ihBeside =>
    rw [WordTrie.mapWithWord, size, size, ihBelow, ihBeside, Option.isSome_map]

end AffixSpeller.WordTrie
