import AffixSpeller.Proofs.Logged
import AffixSpeller.Proofs.Text.Solid

/-!
# Well-formed tables

Reading a grammar makes only *well-formed* tables: every rule is of the kind that the header of its
group says and moves solid texts, no replacement looks for the empty text, and the characters to
try are no blanks. The line reader keeps this up line by line, whatever the order of the lines.

## Main definitions

* `AffixRule.WellFormed`: the rule agrees with a header and moves solid texts.
* `AffixTable.WellFormed`: what holds of every table that is read.

## Main results

* `Draft.readHeader_eq_ok_iff`: the headers that can be read, and the groups that they open.
* `Draft.wellFormed_read`: one line keeps the table well-formed.
* `Draft.wellFormed_readLines`: so do any number of lines.
* `AffixTable.wellFormed_of_parse`: a table that is read is well-formed.
-/

namespace AffixSpeller

/-- The rule is of the kind that its header says, takes over the mark for cross products, and moves
solid texts. What it appends has no slash. -/
structure AffixRule.WellFormed (rule : AffixRule) (kind : AffixKind) (crossProduct : Bool) :
    Prop where
  kind_eq : rule.kind = kind
  crossProduct_eq : rule.crossProduct = crossProduct
  solid_strip : Text.Solid rule.strip
  solid_append : Text.Solid rule.append
  slash_notMem_append : '/' ∉ rule.append

/-- What holds of every table that is read from a grammar. -/
structure AffixTable.WellFormed (table : AffixTable) : Prop where
  rules : ∀ g ∈ table.groups, ∀ rule ∈ g.rules, rule.WellFormed g.kind g.crossProduct
  solid_tryCharacters : Text.Solid table.tryCharacters
  pattern_ne_nil : ∀ entry ∈ table.replacements, entry.pattern ≠ []
  replacement_ne_nil : ∀ entry ∈ table.replacements, entry.replacement ≠ []
  one_le_compoundMin : 1 ≤ table.compoundMin
  compoundMin_le : table.compoundMin ≤ 50

/-! ### Replacement entries -/

namespace Replacement

private theorem replaceChar_eq_nil_iff {old new : Char} {t : Text} :
    Text.replaceChar old new t = [] ↔ t = [] := by
  simp [Text.replaceChar]

/-- An anchor is taken off a pattern only if something is left. -/
theorem pattern_ofFields_ne_nil {pattern : Text} (h : pattern ≠ []) (replacement : Text) :
    (ofFields pattern replacement).pattern ≠ [] := by
  have hdrop (t : Text) (ht : t ≠ []) :
      (if 1 < t.length && t.getLast? == some '$' then (true, t.dropLast)
        else (false, t)).2 ≠ [] := by
    split_ifs with hlast
    · have hlength : 1 < t.length := by simp_all
      exact List.ne_nil_of_length_pos (by simp; omega)
    · exact ht
  simp only [ofFields, ne_eq, replaceChar_eq_nil_iff]
  split
  · exact hdrop _ (by simp)
  · exact hdrop _ h

theorem replacement_ofFields_ne_nil (pattern : Text) {replacement : Text}
    (h : replacement ≠ []) : (ofFields pattern replacement).replacement ≠ [] := by
  simpa [ofFields, replaceChar_eq_nil_iff] using h

end Replacement

/-! ### Growing tables -/

@[simp] theorem AffixGroup.mem_insertInto {g h : AffixGroup} {hs : List AffixGroup} :
    h ∈ g.insertInto hs ↔ h = g ∨ h ∈ hs := by
  induction hs with
  | nil => simp [insertInto]
  | cons k hs ih =>
    unfold insertInto
    split_ifs
    · simp
    · simp only [List.mem_cons, ih]
      tauto

namespace AffixTable

variable {table : AffixTable}

theorem wellFormed_empty : WellFormed {} := by
  constructor <;> simp

theorem WellFormed.addGroup (h : table.WellFormed) {g : AffixGroup} (hg : g.rules = []) :
    (table.addGroup g).WellFormed where
  rules k hk := by
    obtain rfl | hk := AffixGroup.mem_insertInto.1 hk
    · simp [hg]
    · exact h.rules k hk
  solid_tryCharacters := h.solid_tryCharacters
  pattern_ne_nil := h.pattern_ne_nil
  replacement_ne_nil := h.replacement_ne_nil
  one_le_compoundMin := h.one_le_compoundMin
  compoundMin_le := h.compoundMin_le

theorem WellFormed.addRule (h : table.WellFormed) (kind : AffixKind) (flag : Flag)
    {strip append : Text} (hstrip : Text.Solid strip) (happend : Text.Solid append)
    (hslash : '/' ∉ append) (condition : Condition) :
    (table.addRule kind flag strip append condition).WellFormed where
  rules k hk := by
    obtain ⟨g, hg, rfl⟩ := List.mem_map.1 hk
    split_ifs with hkey
    · obtain ⟨hkind, -⟩ : g.kind = kind ∧ g.flag = flag := by simpa using hkey
      intro rule hrule
      obtain hrule | hrule := List.mem_append.1 hrule
      · exact h.rules g hg rule hrule
      · rw [List.mem_singleton.1 hrule]
        exact ⟨hkind.symm, rfl, hstrip, happend, hslash⟩
    · exact h.rules g hg
  solid_tryCharacters := h.solid_tryCharacters
  pattern_ne_nil := h.pattern_ne_nil
  replacement_ne_nil := h.replacement_ne_nil
  one_le_compoundMin := h.one_le_compoundMin
  compoundMin_le := h.compoundMin_le

end AffixTable

/-! ### Reading lines -/

namespace Draft

variable {draft next : Draft}

theorem one_le_compoundMinOf (value : Int) : 1 ≤ compoundMinOf value := by
  unfold compoundMinOf
  split_ifs <;> omega

theorem compoundMinOf_le (value : Int) : compoundMinOf value ≤ 50 := by
  unfold compoundMinOf
  split_ifs <;> omega

/-- A setting whose argument is a field keeps the table well-formed. -/
theorem wellFormed_readSetting (h : draft.table.WellFormed) {setting : Setting} {argument : Text}
    (harg : Text.Solid argument) (hread : draft.readSetting setting argument = .ok next) :
    next.table.WellFormed := by
  obtain ⟨hrules, htry, hpattern, hreplacement, hone, hle⟩ := h
  cases setting with
  | tryCharacters =>
    simp only [readSetting] at hread
    split_ifs at hread
    cases hread
    exact ⟨hrules, harg, hpattern, hreplacement, hone, hle⟩
  | compoundFlag =>
    simp only [readSetting] at hread
    split_ifs at hread
    cases hread
    exact ⟨hrules, htry, hpattern, hreplacement, hone, hle⟩
  | compoundMin =>
    simp only [readSetting] at hread
    split_ifs at hread
    split at hread
    · cases hread
    · rename_i value _
      cases hread
      exact ⟨hrules, htry, hpattern, hreplacement, one_le_compoundMinOf value,
        compoundMinOf_le value⟩
  | flagEncoding =>
    simp only [readSetting] at hread
    split at hread
    · cases hread
    · cases hread
      exact ⟨hrules, htry, hpattern, hreplacement, hone, hle⟩
  | charset =>
    cases hread
    exact ⟨hrules, htry, hpattern, hreplacement, hone, hle⟩

/-- A replacement entry whose arguments are fields keeps the table well-formed. -/
theorem wellFormed_readReplacement (h : draft.table.WellFormed) {arguments : List Text}
    (harg : ∀ field ∈ arguments, field ≠ [])
    (hread : draft.readReplacement arguments = .ok next) : next.table.WellFormed := by
  unfold readReplacement at hread
  split at hread
  · split at hread
    · cases hread
    · cases hread
      exact h
  · cases hread
  · rename_i pattern replacement _ _
    cases hread
    have hpattern := Replacement.pattern_ofFields_ne_nil (harg pattern (by simp)) replacement
    have hreplacement :=
      Replacement.replacement_ofFields_ne_nil pattern (harg replacement (by simp))
    refine ⟨h.rules, h.solid_tryCharacters, ?_, ?_, h.one_le_compoundMin, h.compoundMin_le⟩
    all_goals
      intro entry hentry
      obtain hentry | hentry := List.mem_append.1 hentry
    · exact h.pattern_ne_nil entry hentry
    · rwa [List.mem_singleton.1 hentry]
    · exact h.replacement_ne_nil entry hentry
    · rwa [List.mem_singleton.1 hentry]
  · cases hread

section Headers

variable {kind : AffixKind} {flag : Flag} {arguments : List Text} {g : AffixGroup}
  {cross count : Text} {declared : Nat}

/-- A letter and a number make a header, if there is room for so many rules. -/
theorem readHeader_of_count (hcross : cross = ['Y'] ∨ cross = ['N'])
    (hcount : Text.count? count = some declared) :
    readHeader kind flag [cross, count] =
      if AffixGroup.maxRules < declared then .error .capacityOverflow
      else .ok ⟨kind, flag, cross == ['Y'], declared, []⟩ := by
  have hletter : ¬(cross ≠ ['Y'] ∧ cross ≠ ['N']) := by tauto
  simp only [readHeader, hletter, if_false, hcount]

/-- Anything else is a syntax error. -/
theorem exists_count_of_readHeader
    (h : ∀ fault, readHeader kind flag arguments = .error fault → fault.breaksOff = true) :
    ∃ cross count declared, arguments = [cross, count] ∧ (cross = ['Y'] ∨ cross = ['N']) ∧
      Text.count? count = some declared := by
  unfold readHeader at h
  split at h
  · rename_i cross count
    split_ifs at h with hother
    · exact absurd (h _ rfl) (by decide)
    · cases hcount : Text.count? count with
      | none => exact absurd (h .ruleCount (by rw [hcount])) (by decide)
      | some declared =>
        exact ⟨cross, count, declared, rfl, by simpa [or_iff_not_imp_left] using hother, hcount⟩
  · exact absurd (h _ rfl) (by cases kind <;> decide)

/-- **Headers.** A header has a letter for cross products and a number for which there is room, and
opens a group without rules. -/
theorem readHeader_eq_ok_iff :
    readHeader kind flag arguments = .ok g ↔
      ∃ cross count declared, arguments = [cross, count] ∧ (cross = ['Y'] ∨ cross = ['N']) ∧
        Text.count? count = some declared ∧ declared ≤ AffixGroup.maxRules ∧
        g = ⟨kind, flag, cross == ['Y'], declared, []⟩ := by
  constructor
  · intro hread
    have hfault : ∀ fault, readHeader kind flag arguments = .error fault →
        fault.breaksOff = true := by simp [hread]
    obtain ⟨cross, count, declared, rfl, hcross, hcount⟩ := exists_count_of_readHeader hfault
    rw [readHeader_of_count hcross hcount] at hread
    split_ifs at hread with hroom
    exact ⟨cross, count, declared, rfl, hcross, hcount, not_lt.1 hroom,
      (Except.ok.inj hread).symm⟩
  · rintro ⟨cross, count, declared, rfl, hcross, hcount, hroom, rfl⟩
    rw [readHeader_of_count hcross hcount, if_neg (not_lt.2 hroom)]

/-- A header with a number for which there is no room breaks off the run. -/
theorem readHeader_eq_capacityOverflow_iff :
    readHeader kind flag arguments = .error .capacityOverflow ↔
      ∃ cross count declared, arguments = [cross, count] ∧ (cross = ['Y'] ∨ cross = ['N']) ∧
        Text.count? count = some declared ∧ AffixGroup.maxRules < declared := by
  constructor
  · intro hread
    have hfault : ∀ fault, readHeader kind flag arguments = .error fault →
        fault.breaksOff = true := by simp [hread, Fault.breaksOff]
    obtain ⟨cross, count, declared, rfl, hcross, hcount⟩ := exists_count_of_readHeader hfault
    rw [readHeader_of_count hcross hcount] at hread
    split_ifs at hread with hroom
    exact ⟨cross, count, declared, rfl, hcross, hcount, hroom⟩
  · rintro ⟨cross, count, declared, rfl, hcross, hcount, hroom⟩
    rw [readHeader_of_count hcross hcount, if_pos hroom]

end Headers

theorem rules_readHeader {kind : AffixKind} {flag : Flag} {arguments : List Text}
    {g : AffixGroup} (hread : readHeader kind flag arguments = .ok g) : g.rules = [] := by
  obtain ⟨_, _, _, -, -, -, -, rfl⟩ := readHeader_eq_ok_iff.1 hread
  rfl

theorem affixText_subset (written : Text) : affixText written ⊆ written := by
  unfold affixText
  split_ifs <;> simp

theorem appendText_subset (written : Text) : appendText written ⊆ written :=
  List.Subset.trans (affixText_subset _) (List.takeWhile_subset _)

theorem slash_notMem_appendText (written : Text) : '/' ∉ appendText written := by
  intro h
  have := List.mem_takeWhile_imp (affixText_subset _ h)
  simp at this

/-- What a rule line strips and appends is part of its fields. -/
theorem solid_readRule {kind : AffixKind} {arguments : List Text} {strip append : Text}
    {condition : Condition} (harg : ∀ field ∈ arguments, Text.Solid field)
    (hread : readRule kind arguments = .ok (strip, append, condition)) :
    Text.Solid strip ∧ Text.Solid append ∧ '/' ∉ append := by
  unfold readRule at hread
  split at hread
  · rename_i strip append _ _
    split at hread
    · cases hread
    · cases hread
      exact ⟨(harg strip (by simp)).mono (affixText_subset strip),
        (harg append (by simp)).mono (appendText_subset append), slash_notMem_appendText append⟩
  · rename_i strip _
    split_ifs at hread
    cases hread
    exact ⟨(harg strip (by simp)).mono (affixText_subset strip), by simp, by simp⟩
  · cases hread

/-- A line of a rule group whose arguments are fields keeps the table well-formed. -/
theorem wellFormed_readAffix (h : draft.table.WellFormed) {kind : AffixKind}
    {arguments : List Text} (harg : ∀ field ∈ arguments, Text.Solid field)
    (hread : draft.readAffix kind arguments = .ok next) : next.table.WellFormed := by
  unfold readAffix at hread
  split at hread
  · cases hread
  · rename_i flag rest
    split at hread
    · split at hread
      · cases hread
      · rename_i g hg
        cases hread
        exact h.addGroup (rules_readHeader hg)
    · split at hread
      · cases hread
      · rename_i strip append condition hrule
        cases hread
        obtain ⟨hstrip, happend, hslash⟩ :=
          solid_readRule (fun field hfield => harg field (List.mem_cons_of_mem flag hfield)) hrule
        exact h.addRule kind flag hstrip happend hslash condition

/-- One line keeps the table well-formed. -/
theorem wellFormed_read (h : draft.table.WellFormed) {fields : List Text}
    (hfields : ∀ field ∈ fields, field ≠ [] ∧ Text.Solid field)
    (hread : draft.read fields = .ok next) : next.table.WellFormed := by
  unfold read at hread
  split at hread
  · cases hread
    exact h
  · rename_i tag arguments
    have harg : ∀ field ∈ arguments, field ≠ [] ∧ Text.Solid field :=
      fun field hfield => hfields field (List.mem_cons_of_mem tag hfield)
    split at hread
    · split at hread
      · exact wellFormed_readSetting h (harg _ (by simp)).2 hread
      · cases hread
    · exact wellFormed_readReplacement h (fun field hfield => (harg field hfield).1) hread
    · exact wellFormed_readAffix h (fun field hfield => (harg field hfield).2) hread
    all_goals
      cases hread
      exact h

/-- Any number of lines keep the table well-formed. -/
theorem wellFormed_readLines {file : Text} {lines : List GrammarLine}
    (h : draft.table.WellFormed) (hread : (readLines file draft lines).result = .ok next) :
    next.table.WellFormed := by
  induction lines generalizing draft with
  | nil =>
    cases hread
    exact h
  | cons line lines ih =>
    unfold readLines at hread
    split at hread
    · cases hread
    · rename_i mid hmid
      exact ih (wellFormed_read h (fun _ => GrammarLine.solid_of_mem_fields) hmid) hread

/-- The counts at the end change nothing. -/
theorem table_eq_of_finish {file : Text} {table : AffixTable}
    (h : draft.finish file = .ok table) : draft.table = table := by
  unfold finish at h
  dsimp only at h
  split at h
  · cases h
  · split at h
    · cases h
    · exact Except.ok.inj h

end Draft

/-- **A table that is read from a grammar is well-formed.** -/
theorem AffixTable.wellFormed_of_parse {text file : Text} {table : AffixTable}
    (h : (AffixTable.parse text file).result = .ok table) : table.WellFormed := by
  obtain ⟨draft, hdraft, hfinish⟩ := Logged.result_andThen_eq_ok_iff.1 h
  have hwf := Draft.wellFormed_readLines AffixTable.wellFormed_empty hdraft
  cases hf : draft.finish file with
  | error e => simp [hf] at hfinish
  | ok table' =>
    simp only [hf, Logged.result_note, Except.ok.injEq] at hfinish
    rw [← hfinish, ← Draft.table_eq_of_finish hf]
    exact hwf

end AffixSpeller
