import AffixSpeller.Proofs.Affix.Interleaving
import AffixSpeller.Proofs.Text.Decimal

/-!
# Outlines of grammars

An outline is what a grammar is meant to say: its settings, the entries of its replacement table,
and its groups with their rules. Everything in it can be written, since no text has a character
that would break its field or make it say something else. An outline is written as blocks of
lines, one for each setting, one for the replacement table and one for each group.

## Main definitions

* `Text.IsField`, `Text.IsAffix`, `Text.IsPhrase`: the texts that fields can say.
* `RuleOutline`, `GroupOutline`, `GrammarOutline`: what a grammar is meant to say.
* `GrammarOutline.table`: the table that is meant.
* `GrammarOutline.blocks`, `Text.ofBlocks`: the blocks of lines that say it, and their text.

## Main results

* `Replacement.IsWritable.ofFields_written`: entries of the replacement table are read back.
* `GrammarLine.fieldsOf_ofBlocks`: the lines of the text of blocks are those of the blocks.
* `GrammarOutline.isWritable_of_mem_blocks`: all lines of an outline can be written.
* `GrammarOutline.pairwise_apart_blocks`: no two blocks are about one target.
-/

namespace AffixSpeller

/-! ### Texts that can be written -/

namespace Text

/-- The text can be a field: it is not empty, no white space breaks it, and it does not begin as a
comment does. -/
structure IsField (t : Text) : Prop where
  ne_nil : t ≠ []
  solid : Solid t
  head?_ne : t.head? ≠ some '#'

/-- The text can be what a rule strips or appends: it is empty or a field, and not a lone zero,
which stands for nothing. -/
structure IsAffix (t : Text) : Prop where
  isField : t ≠ [] → t.IsField
  ne_zero : t ≠ ['0']

/-- The text can stand in the replacement table: it is not empty, spaces are its only white space,
and it has no low line, which stands for a space. -/
structure IsPhrase (t : Text) : Prop where
  ne_nil : t ≠ []
  eq_space : ∀ c ∈ t, Unicode.isWhiteSpace c = true → c = ' '
  low_line_notMem : '_' ∉ t

instance (t : Text) : Decidable t.IsField :=
  decidable_of_iff (t ≠ [] ∧ t.Solid ∧ t.head? ≠ some '#')
    ⟨fun ⟨hne, hsolid, hhead⟩ => ⟨hne, hsolid, hhead⟩, fun h => ⟨h.ne_nil, h.solid, h.head?_ne⟩⟩

instance (t : Text) : Decidable t.IsAffix :=
  decidable_of_iff ((t ≠ [] → t.IsField) ∧ t ≠ ['0'])
    ⟨fun ⟨hfield, hzero⟩ => ⟨hfield, hzero⟩, fun h => ⟨h.isField, h.ne_zero⟩⟩

instance (t : Text) : Decidable t.IsPhrase :=
  have : Decidable (∀ c ∈ t, Unicode.isWhiteSpace c = true → c = ' ') := List.decidableBAll _ t
  decidable_of_iff
    (t ≠ [] ∧ (∀ c ∈ t, Unicode.isWhiteSpace c = true → c = ' ') ∧ '_' ∉ t)
    ⟨fun ⟨hne, hspace, hlow⟩ => ⟨hne, hspace, hlow⟩,
      fun h => ⟨h.ne_nil, h.eq_space, h.low_line_notMem⟩⟩

end Text

/-! ### Outlines -/

/-- A rule: what it strips and appends, and the pattern of its condition. -/
structure RuleOutline where
  strip : Text
  append : Text
  pattern : Text
  condition : Condition
  isAffix_strip : strip.IsAffix
  isAffix_append : append.IsAffix
  slash_notMem_append : '/' ∉ append
  isField_pattern : pattern.IsField
  compile_pattern : Condition.compile pattern = .ok condition

/-- A group of rules. -/
structure GroupOutline where
  kind : AffixKind
  flag : Flag
  crossProduct : Bool
  rules : List RuleOutline
  isField_flag : flag.IsField
  /-- There are no more rules than a group has room for. -/
  length_rules_le : rules.length ≤ AffixGroup.maxRules

/-- The pattern as it is written: low lines stand for spaces, and the ends to which the entry is
tied are marked. -/
def Replacement.writtenPattern (entry : Replacement) : Text :=
  (if entry.atStart then ['^'] else []) ++ Text.replaceChar ' ' '_' entry.pattern ++
    if entry.atEnd then ['$'] else []

/-- The replacement as it is written: low lines stand for spaces. -/
def Replacement.writtenReplacement (entry : Replacement) : Text :=
  Text.replaceChar ' ' '_' entry.replacement

/-- The entry can be written: nothing in the pattern looks like a mark, and none of the two fields
like a comment. -/
structure Replacement.IsWritable (entry : Replacement) : Prop where
  isPhrase_pattern : entry.pattern.IsPhrase
  isPhrase_replacement : entry.replacement.IsPhrase
  head?_pattern_ne : entry.pattern.head? ≠ some '^'
  getLast?_pattern_ne : entry.pattern.getLast? ≠ some '$'
  head?_writtenPattern_ne : entry.writtenPattern.head? ≠ some '#'
  head?_writtenReplacement_ne : entry.writtenReplacement.head? ≠ some '#'

instance (entry : Replacement) : Decidable entry.IsWritable :=
  decidable_of_iff
    (entry.pattern.IsPhrase ∧ entry.replacement.IsPhrase ∧ entry.pattern.head? ≠ some '^' ∧
      entry.pattern.getLast? ≠ some '$' ∧ entry.writtenPattern.head? ≠ some '#' ∧
      entry.writtenReplacement.head? ≠ some '#')
    ⟨fun ⟨hpattern, hreplacement, hcaret, hdollar, hleft, hright⟩ =>
      ⟨hpattern, hreplacement, hcaret, hdollar, hleft, hright⟩,
    fun h => ⟨h.isPhrase_pattern, h.isPhrase_replacement, h.head?_pattern_ne,
      h.getLast?_pattern_ne, h.head?_writtenPattern_ne, h.head?_writtenReplacement_ne⟩⟩

/-- What a grammar is meant to say. Without characters to try there is no line for them. -/
structure GrammarOutline where
  flagEncoding : FlagEncoding
  charset : Option Text
  compoundFlag : Option Flag
  compoundMin : Nat
  tryCharacters : Text
  replacements : List Replacement
  groups : List GroupOutline
  isField_charset : ∀ name ∈ charset, name.IsField
  isField_compoundFlag : ∀ flag ∈ compoundFlag, Text.IsField flag
  compoundMin_range : 1 ≤ compoundMin ∧ compoundMin ≤ 50
  isField_tryCharacters : tryCharacters ≠ [] → tryCharacters.IsField
  isWritable_replacements : ∀ entry ∈ replacements, entry.IsWritable
  length_replacements_le : replacements.length ≤ 18446744073709551615
  /-- A flag names at most one group of each kind. -/
  nodup_groups : (groups.map fun g => (g.kind, g.flag)).Nodup

/-! ### What is meant -/

/-- The rule that is meant, in a group of the given kind. -/
def RuleOutline.rule (outline : RuleOutline) (kind : AffixKind) (crossProduct : Bool) : AffixRule :=
  ⟨kind, outline.strip, outline.append, outline.condition, crossProduct⟩

/-- The group that is meant. -/
def GroupOutline.group (outline : GroupOutline) : AffixGroup where
  kind := outline.kind
  flag := outline.flag
  crossProduct := outline.crossProduct
  declared := outline.rules.length
  rules := outline.rules.map (·.rule outline.kind outline.crossProduct)

/-- The table that is meant, its groups put in their places one after the other. -/
def GrammarOutline.table (outline : GrammarOutline) : AffixTable where
  groups := outline.groups.foldl (fun groups g => g.group.insertInto groups) []
  tryCharacters := outline.tryCharacters
  replacements := outline.replacements
  flagEncoding := outline.flagEncoding
  compoundFlag := outline.compoundFlag
  compoundMin := outline.compoundMin
  charset := outline.charset

/-! ### Lines and blocks -/

/-- A strip or append text as it is written: a zero stands for the empty one. -/
def Text.writtenAffix (t : Text) : Text :=
  if t = [] then ['0'] else t

/-- The five fields of a rule. -/
def RuleOutline.fields (outline : RuleOutline) (kind : AffixKind) (flag : Flag) : List Text :=
  [kind.tag, flag, outline.strip.writtenAffix, outline.append.writtenAffix, outline.pattern]

/-- The lines of a group: a header with the number of the rules, then the rules. -/
def GroupOutline.block (outline : GroupOutline) : List (List Text) :=
  [outline.kind.tag, outline.flag, if outline.crossProduct then ['Y'] else ['N'],
      Nat.toDigits 10 outline.rules.length] ::
    outline.rules.map (·.fields outline.kind outline.flag)

/-- The fields of an entry of the replacement table. -/
def Replacement.fields (entry : Replacement) : List Text :=
  ["REP".toList, entry.writtenPattern, entry.writtenReplacement]

namespace GrammarOutline

/-- The lines of the replacement table: a header with the number of the entries, then these. -/
def replacementBlock (outline : GrammarOutline) : List (List Text) :=
  ["REP".toList, Nat.toDigits 10 outline.replacements.length] ::
    outline.replacements.map Replacement.fields

/-- The argument of a setting, if it has a line. -/
def argument? (outline : GrammarOutline) : Setting → Option Text
  | .tryCharacters => if outline.tryCharacters = [] then none else some outline.tryCharacters
  | .compoundFlag => outline.compoundFlag
  | .compoundMin => some (Nat.toDigits 10 outline.compoundMin)
  | .flagEncoding => some outline.flagEncoding.name
  | .charset => outline.charset

/-- The line of a setting. -/
def settingBlock (outline : GrammarOutline) (setting : Setting) : List (List Text) :=
  (outline.argument? setting).toList.map fun argument => [setting.tag, argument]

/-- All settings. -/
def settings : List Setting :=
  [.charset, .flagEncoding, .tryCharacters, .compoundFlag, .compoundMin]

/-- The blocks of lines that say what is meant. -/
def blocks (outline : GrammarOutline) : List (List (List Text)) :=
  settings.map outline.settingBlock ++
    outline.replacementBlock :: outline.groups.map GroupOutline.block

end GrammarOutline

/-- The text of blocks of lines. -/
def Text.ofBlocks (blocks : List (List (List Text))) : Text :=
  Text.ofLines (blocks.flatten.map Text.ofFields)

/-! ### Written texts are fields -/

namespace Text

theorem isField_toDigits (n : Nat) : IsField (Nat.toDigits 10 n) where
  ne_nil := Nat.toDigits_ne_nil
  solid := solid_toDigits n
  head?_ne h := by
    have hdigit := isDigit_of_mem_toDigits (List.mem_of_head? h)
    revert hdigit
    decide

theorem IsAffix.isField_writtenAffix {t : Text} (h : t.IsAffix) : t.writtenAffix.IsField := by
  unfold writtenAffix
  split_ifs with hnil
  · decide
  · exact h.isField hnil

/-- Low lines in place of the spaces make a phrase solid. -/
theorem IsPhrase.solid_replaceChar {t : Text} (h : t.IsPhrase) :
    Solid (replaceChar ' ' '_' t) := by
  intro c hc
  obtain ⟨d, hd, rfl⟩ := List.mem_map.1 hc
  split_ifs with hspace
  · decide
  · exact eq_false_of_ne_true fun hwhite => hspace (h.eq_space d hd hwhite)

/-- Spaces come back from low lines. -/
theorem IsPhrase.replaceChar_replaceChar {t : Text} (h : t.IsPhrase) :
    replaceChar '_' ' ' (replaceChar ' ' '_' t) = t := by
  simp only [replaceChar, List.map_map]
  refine (List.map_congr_left fun c hc => ?_).trans (List.map_id t)
  have hlow : c ≠ '_' := fun heq => h.low_line_notMem (heq ▸ hc)
  by_cases hspace : c = ' ' <;> simp [hspace, hlow]

end Text

namespace Replacement

variable {entry : Replacement}

theorem IsWritable.isField_pattern (h : entry.IsWritable) : entry.writtenPattern.IsField where
  ne_nil hnil := by
    simp [writtenPattern, Text.replaceChar, h.isPhrase_pattern.ne_nil] at hnil
  solid := by
    have hsolid := h.isPhrase_pattern.solid_replaceChar
    have hcaret : Unicode.isWhiteSpace '^' = false := by decide
    have hdollar : Unicode.isWhiteSpace '$' = false := by decide
    unfold writtenPattern
    cases entry.atStart <;> cases entry.atEnd <;> simp [hsolid, hcaret, hdollar]
  head?_ne := h.head?_writtenPattern_ne

theorem IsWritable.isField_replacement (h : entry.IsWritable) :
    entry.writtenReplacement.IsField where
  ne_nil hnil := by
    simp [writtenReplacement, Text.replaceChar, h.isPhrase_replacement.ne_nil] at hnil
  solid := h.isPhrase_replacement.solid_replaceChar
  head?_ne := h.head?_writtenReplacement_ne

/-- Whether a pattern is marked at its start, and the pattern without the mark. -/
def takeStartMark : Text → Bool × Text
  | '^' :: c :: cs => (true, c :: cs)
  | pattern => (false, pattern)

/-- Whether a pattern is marked at its end, and the pattern without the mark. -/
def takeEndMark (pattern : Text) : Bool × Text :=
  if 1 < pattern.length && pattern.getLast? == some '$' then (true, pattern.dropLast)
  else (false, pattern)

/-- An entry is read by taking off the marks, the one at the start first. -/
theorem ofFields_eq (pattern replacement : Text) :
    ofFields pattern replacement =
      ⟨Text.replaceChar '_' ' ' (takeEndMark (takeStartMark pattern).2).2,
        Text.replaceChar '_' ' ' replacement, (takeStartMark pattern).1,
        (takeEndMark (takeStartMark pattern).2).1⟩ := rfl

theorem takeStartMark_written {p : Text} (hne : p ≠ []) (hhead : p.head? ≠ some '^')
    (atStart : Bool) (rest : Text) :
    takeStartMark ((if atStart then ['^'] else []) ++ p ++ rest) = (atStart, p ++ rest) := by
  obtain ⟨c, cs, rfl⟩ := List.exists_cons_of_ne_nil hne
  cases atStart with
  | false =>
    simp only [Bool.false_eq_true, if_false, List.nil_append, List.cons_append]
    unfold takeStartMark
    split
    · simp_all
    · rfl
  | true => rfl

theorem takeEndMark_written {p : Text} (hne : p ≠ []) (hlast : p.getLast? ≠ some '$')
    (atEnd : Bool) : takeEndMark (p ++ if atEnd then ['$'] else []) = (atEnd, p) := by
  have hlength : 0 < p.length := List.length_pos_iff.2 hne
  cases atEnd with
  | false => simp [takeEndMark, hlast]
  | true => simp [takeEndMark, hlength]

/-- **Entries are read back**: the marks are taken off again, and spaces come back. -/
theorem IsWritable.ofFields_written (h : entry.IsWritable) :
    ofFields entry.writtenPattern entry.writtenReplacement = entry := by
  have hchar {c d : Char} (hd : d ≠ '_') (h : (if c = ' ' then '_' else c) = d) : c = d := by
    split_ifs at h
    · exact absurd h.symm hd
    · exact h
  have hne : Text.replaceChar ' ' '_' entry.pattern ≠ [] := by
    simpa [Text.replaceChar] using h.isPhrase_pattern.ne_nil
  have hhead : (Text.replaceChar ' ' '_' entry.pattern).head? ≠ some '^' := by
    rw [Text.replaceChar, List.head?_map]
    intro hcaret
    obtain ⟨c, hc, hreplaced⟩ := Option.map_eq_some_iff.1 hcaret
    exact h.head?_pattern_ne (hchar (by decide) hreplaced ▸ hc)
  have hlast : (Text.replaceChar ' ' '_' entry.pattern).getLast? ≠ some '$' := by
    rw [Text.replaceChar, List.getLast?_map]
    intro hdollar
    obtain ⟨c, hc, hreplaced⟩ := Option.map_eq_some_iff.1 hdollar
    exact h.getLast?_pattern_ne (hchar (by decide) hreplaced ▸ hc)
  rw [ofFields_eq, writtenPattern, takeStartMark_written hne hhead, takeEndMark_written hne hlast,
    h.isPhrase_pattern.replaceChar_replaceChar, writtenReplacement,
    h.isPhrase_replacement.replaceChar_replaceChar]

end Replacement

/-! ### Written lines -/

namespace GrammarLine

/-- The fields can be written as a line: each of them is a field, and the first one does not begin
with a byte order mark. -/
def IsWritable (said : List Text) : Prop :=
  (∀ field ∈ said, field.IsField) ∧
    ∃ tag arguments, said = tag :: arguments ∧ tag.head? ≠ some '\ufeff'

/-- What is written is what is said. -/
theorem IsWritable.says?_ofFields {said : List Text} (h : IsWritable said) :
    says? (Text.ofFields said) = some said := by
  obtain ⟨hfields, tag, arguments, rfl, hmark⟩ := h
  have hsolid : ∀ field ∈ tag :: arguments, field ≠ [] ∧ Text.Solid field :=
    fun field hmem => ⟨(hfields field hmem).ne_nil, (hfields field hmem).solid⟩
  have htag := hfields tag List.mem_cons_self
  have harguments : arguments.takeWhile (fun field => field.head? != some '#') = arguments :=
    List.takeWhile_eq_self_iff.2 fun field hmem => by
      simpa using (hfields field (List.mem_cons_of_mem tag hmem)).head?_ne
  have hhead : (Text.ofFields (tag :: arguments)).head? ≠ some '#' := by
    rw [Text.head?_ofFields htag.ne_nil]
    exact htag.head?_ne
  rw [says?, Text.content_ofFields hsolid hmark, if_neg]
  · simp only [fields, Text.fields_ofFields hsolid, harguments]
  · simp [Text.ofFields_ne_nil htag.ne_nil, hhead]

/-- The lines of a text that is written from blocks are those of the blocks. -/
theorem fieldsOf_ofBlocks {blocks : List (List (List Text))}
    (h : ∀ block ∈ blocks, ∀ said ∈ block, IsWritable said) :
    fieldsOf (Text.ofBlocks blocks) = blocks.flatten := by
  have hwritable : ∀ said ∈ blocks.flatten, IsWritable said := by
    intro said hmem
    obtain ⟨block, hblock, hsaid⟩ := List.mem_flatten.1 hmem
    exact h block hblock said hsaid
  have hlines : ∀ line ∈ blocks.flatten.map Text.ofFields, '\n' ∉ line := by
    intro line hmem
    obtain ⟨said, hsaid, rfl⟩ := List.mem_map.1 hmem
    have hfields := (hwritable said hsaid).1
    exact Text.newline_notMem_ofFields fun field hfield => (hfields field hfield).solid
  rw [Text.ofBlocks, fieldsOf_ofLines hlines, List.filterMap_map]
  exact (List.filterMap_congr fun said hsaid => (hwritable said hsaid).says?_ofFields).trans
    List.filterMap_some

end GrammarLine

namespace GrammarOutline

open GrammarLine (IsWritable IsBlock Apart)

variable {outline : GrammarOutline}

private theorem isWritable_cons {tag : Text} {arguments : List Text}
    (htag : tag.IsField ∧ tag.head? ≠ some '\ufeff') (h : ∀ field ∈ arguments, field.IsField) :
    IsWritable (tag :: arguments) :=
  ⟨List.forall_mem_cons.2 ⟨htag.1, h⟩, tag, arguments, rfl, htag.2⟩

theorem isField_argument {setting : Setting} {argument : Text}
    (h : outline.argument? setting = some argument) : argument.IsField := by
  cases setting with
  | tryCharacters =>
    simp only [argument?] at h
    split_ifs at h with hnil
    cases h
    exact outline.isField_tryCharacters hnil
  | compoundFlag => exact outline.isField_compoundFlag argument h
  | compoundMin =>
    cases h
    exact Text.isField_toDigits _
  | flagEncoding =>
    cases h
    cases outline.flagEncoding <;> decide
  | charset => exact outline.isField_charset argument h

/-- All lines of an outline can be written. -/
theorem isWritable_of_mem_blocks :
    ∀ block ∈ outline.blocks, ∀ said ∈ block, IsWritable said := by
  have hsetting : ∀ setting : Setting, setting.tag.IsField ∧ setting.tag.head? ≠ some '\ufeff' := by
    intro setting
    cases setting <;> decide
  have hkind : ∀ kind : AffixKind, kind.tag.IsField ∧ kind.tag.head? ≠ some '\ufeff' := by
    intro kind
    cases kind <;> decide
  intro block hblock said hsaid
  obtain hblock | hblock := List.mem_append.1 hblock
  · obtain ⟨setting, -, rfl⟩ := List.mem_map.1 hblock
    obtain ⟨argument, hargument, rfl⟩ := List.mem_map.1 hsaid
    refine isWritable_cons (hsetting setting) fun field hfield => ?_
    rw [List.mem_singleton.1 hfield]
    exact isField_argument (Option.mem_toList.1 hargument)
  obtain rfl | hblock := List.mem_cons.1 hblock
  · obtain rfl | hsaid := List.mem_cons.1 hsaid
    · refine isWritable_cons (by decide) fun field hfield => ?_
      rw [List.mem_singleton.1 hfield]
      exact Text.isField_toDigits _
    · obtain ⟨entry, hentry, rfl⟩ := List.mem_map.1 hsaid
      have hwritable := outline.isWritable_replacements entry hentry
      refine isWritable_cons (by decide) (List.forall_mem_cons.2 ⟨hwritable.isField_pattern, ?_⟩)
      exact List.forall_mem_singleton.2 hwritable.isField_replacement
  · obtain ⟨g, -, rfl⟩ := List.mem_map.1 hblock
    obtain rfl | hsaid := List.mem_cons.1 hsaid
    · have hcross : (if g.crossProduct then ['Y'] else ['N'] : Text).IsField := by
        cases g.crossProduct <;> decide
      refine isWritable_cons (hkind g.kind) ?_
      simp [g.isField_flag, hcross, Text.isField_toDigits]
    · obtain ⟨rule, -, rfl⟩ := List.mem_map.1 hsaid
      refine isWritable_cons (hkind g.kind) ?_
      simp [g.isField_flag, rule.isAffix_strip.isField_writtenAffix,
        rule.isAffix_append.isField_writtenAffix, rule.isField_pattern]

/-! ### What blocks are about -/

theorem isBlock_settingBlock (outline : GrammarOutline) (setting : Setting) :
    IsBlock (.setting setting) (outline.settingBlock setting) := by
  intro fields hfields
  obtain ⟨argument, -, rfl⟩ := List.mem_map.1 hfields
  exact Target.of?_setting setting _

theorem isBlock_replacementBlock (outline : GrammarOutline) :
    IsBlock .replacements outline.replacementBlock := by
  intro fields hfields
  obtain rfl | hfields := List.mem_cons.1 hfields
  · exact Target.of?_replacement _
  · obtain ⟨entry, -, rfl⟩ := List.mem_map.1 hfields
    exact Target.of?_replacement _

theorem isBlock_groupBlock (g : GroupOutline) : IsBlock (.group g.kind g.flag) g.block := by
  intro fields hfields
  obtain rfl | hfields := List.mem_cons.1 hfields
  · exact Target.of?_group g.kind g.flag _
  · obtain ⟨rule, -, rfl⟩ := List.mem_map.1 hfields
    exact Target.of?_group g.kind g.flag _

/-- **No two blocks are about one target.** -/
theorem pairwise_apart_blocks : outline.blocks.Pairwise Apart := by
  refine List.pairwise_append.2 ⟨?_, List.pairwise_cons.2 ⟨?_, ?_⟩, ?_⟩
  · have hnodup : settings.Nodup := by decide
    refine List.pairwise_map.2 (hnodup.imp fun {setting other} hne => ?_)
    exact (outline.isBlock_settingBlock setting).apart (outline.isBlock_settingBlock other)
      (by simpa using hne)
  · intro block hblock
    obtain ⟨g, -, rfl⟩ := List.mem_map.1 hblock
    exact outline.isBlock_replacementBlock.apart (isBlock_groupBlock g) (by simp)
  · have hkeys := List.pairwise_map.1 outline.nodup_groups
    refine List.pairwise_map.2 (hkeys.imp fun {g other} hne => ?_)
    exact (isBlock_groupBlock g).apart (isBlock_groupBlock other) (by simpa using hne)
  · intro block hblock other hother
    obtain ⟨setting, -, rfl⟩ := List.mem_map.1 hblock
    have hsetting := outline.isBlock_settingBlock setting
    obtain rfl | hother := List.mem_cons.1 hother
    · exact hsetting.apart outline.isBlock_replacementBlock (by simp)
    · obtain ⟨g, -, rfl⟩ := List.mem_map.1 hother
      exact hsetting.apart (isBlock_groupBlock g) (by simp)

end GrammarOutline

end AffixSpeller
