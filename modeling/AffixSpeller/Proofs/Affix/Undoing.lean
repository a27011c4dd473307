import AffixSpeller.Proofs.Affix.Expansion

/-!
# Rules can be undone

A rule exchanges its strip text for its append text at one end of a word. The rest of the word stays,
so that the exchange the other way leads back from the form to the word. It does not matter whether
the two texts overlap, are empty, or make up the whole word.

## Main definitions

* `AffixKind.Carries`, `AffixKind.detach`: a text has an affix at the end that rules of a kind work
  at, and what it is without the affix.
* `AffixKind.exchange`: a text with another affix in place of its own.

## Main results

* `AffixKind.exchange_exchange`: exchanging affixes and exchanging them back.
* `AffixRule.apply_and_undo`: which form a rule makes, and how the word is found again.
-/

namespace AffixSpeller

namespace AffixKind

variable {kind : AffixKind} {affix old new stem text : Text}

/-- The text has the affix at the end that such rules work at. -/
def Carries : AffixKind → Text → Text → Prop
  | leading, affix, text => affix <+: text
  | trailing, affix, text => affix <:+ text

/-- The text without as many characters as the affix has, at the end that such rules work at. -/
def detach : AffixKind → Text → Text → Text
  | leading, affix, text => text.drop affix.length
  | trailing, affix, text => text.take (text.length - affix.length)

/-- The text with one affix in place of another one. -/
def exchange (kind : AffixKind) (old new text : Text) : Text :=
  kind.attach new (kind.detach old text)

@[simp] theorem detach_attach (kind : AffixKind) (affix stem : Text) :
    kind.detach affix (kind.attach affix stem) = stem := by
  cases kind <;> simp [detach, attach]

@[simp] theorem length_attach (kind : AffixKind) (affix stem : Text) :
    (kind.attach affix stem).length = affix.length + stem.length := by
  cases kind <;> simp [attach, Nat.add_comm]

/-- A text has an affix if it is the rest of it with the affix attached. -/
theorem carries_iff : kind.Carries affix text ↔ ∃ stem, text = kind.attach affix stem := by
  cases kind with
  | leading => exact exists_congr fun stem => eq_comm
  | trailing => exact exists_congr fun stem => eq_comm

theorem exchange_attach (kind : AffixKind) (old new stem : Text) :
    kind.exchange old new (kind.attach old stem) = kind.attach new stem := by
  rw [exchange, detach_attach]

/-- The new affix is at the end where the old one was. -/
theorem carries_exchange (kind : AffixKind) (old new text : Text) :
    kind.Carries new (kind.exchange old new text) :=
  carries_iff.2 ⟨kind.detach old text, rfl⟩

/-- **Exchanging affixes and exchanging them back** leads to the same text. -/
theorem exchange_exchange (h : kind.Carries old text) :
    kind.exchange new old (kind.exchange old new text) = text := by
  obtain ⟨stem, rfl⟩ := carries_iff.1 h
  rw [exchange_attach, exchange_attach]

theorem length_exchange (h : kind.Carries old text) :
    (kind.exchange old new text).length + old.length = text.length + new.length := by
  obtain ⟨stem, rfl⟩ := carries_iff.1 h
  rw [exchange_attach, length_attach, length_attach]
  omega

theorem length_le_of_carries (h : kind.Carries affix text) : affix.length ≤ text.length := by
  obtain ⟨stem, rfl⟩ := carries_iff.1 h
  rw [length_attach]
  omega

end AffixKind

/-- A word shorter than a condition satisfies it. -/
theorem Condition.accepts_of_length_lt {condition : Condition} {word : Text} (anchor : Anchor)
    (h : word.length < condition.slotCount) : condition.accepts word anchor = true := by
  unfold slotCount at h
  simp [accepts, h]

namespace AffixRule

variable {rule : AffixRule} {word form : Text}

/-- A rule exchanges its texts at the end of a word that carries the one and satisfies the
condition, if something is left then. -/
theorem apply_eq_some_iff_exchange :
    rule.apply word = some form ↔
      rule.condition.accepts word rule.kind.anchor = true ∧ rule.kind.Carries rule.strip word ∧
        rule.kind.exchange rule.strip rule.append word ≠ [] ∧
        rule.kind.exchange rule.strip rule.append word = form := by
  rw [apply_eq_some_iff]
  refine and_congr_right fun _ => ?_
  constructor
  · rintro ⟨hne, stem, rfl, rfl⟩
    rw [AffixKind.exchange_attach]
    exact ⟨AffixKind.carries_iff.2 ⟨stem, rfl⟩, hne, rfl⟩
  · rintro ⟨hcarries, hne, rfl⟩
    obtain ⟨stem, rfl⟩ := AffixKind.carries_iff.1 hcarries
    exact ⟨hne, stem, rfl, AffixKind.exchange_attach ..⟩

/-- The exchange the other way leads back to the word. -/
theorem exchange_of_apply (h : rule.apply word = some form) :
    rule.kind.exchange rule.append rule.strip form = word := by
  obtain ⟨-, hcarries, -, rfl⟩ := apply_eq_some_iff_exchange.1 h
  exact AffixKind.exchange_exchange hcarries

/-- **Rules can be undone.** A rule makes a form of a word if and only if its condition accepts the
word, the word carries the strip text at the rule's end, and the rest of the word with the append
text attached there is that form and not empty. Then the form carries the append text, and taking
that off and attaching the strip text gives the word again: no other word has this form, and the
lengths differ as those of the two texts do. Words shorter than the condition satisfy it; words
shorter than the strip text have no form. -/
theorem apply_and_undo (rule : AffixRule) (word form : Text) :
    (rule.apply word = some form ↔
      rule.condition.accepts word rule.kind.anchor = true ∧ rule.kind.Carries rule.strip word ∧
        rule.kind.attach rule.append (rule.kind.detach rule.strip word) ≠ [] ∧
        rule.kind.attach rule.append (rule.kind.detach rule.strip word) = form) ∧
    (rule.apply word = some form →
      rule.kind.Carries rule.append form ∧
        rule.kind.attach rule.strip (rule.kind.detach rule.append form) = word ∧
        (∀ other, rule.apply other = some form → other = word) ∧
        form.length + rule.strip.length = word.length + rule.append.length) ∧
    (word.length < rule.condition.slotCount →
      rule.condition.accepts word rule.kind.anchor = true) ∧
    (word.length < rule.strip.length → rule.apply word = none) := by
  refine ⟨apply_eq_some_iff_exchange, fun h => ?_, Condition.accepts_of_length_lt _, fun h => ?_⟩
  · have hback := exchange_of_apply h
    obtain ⟨-, hcarries, -, rfl⟩ := apply_eq_some_iff_exchange.1 h
    refine ⟨AffixKind.carries_exchange .., hback, fun other hother => ?_,
      AffixKind.length_exchange hcarries⟩
    exact (exchange_of_apply hother).symm.trans hback
  · rw [Option.eq_none_iff_forall_ne_some]
    intro form hform
    obtain ⟨-, hcarries, -⟩ := apply_eq_some_iff_exchange.1 hform
    have hlength := AffixKind.length_le_of_carries hcarries
    omega

/-- A word that is shorter than the condition and is the strip text as a whole. -/
theorem apply_and_undo_whole_word :
    ∃ rule : AffixRule, rule.kind = .trailing ∧ rule.strip = "y".toList ∧
      rule.append = "ies".toList ∧ rule.condition.slotCount = 2 ∧
      rule.apply "y".toList = some "ies".toList ∧
      rule.kind.attach rule.strip (rule.kind.detach rule.append "ies".toList) = "y".toList := by
  have happly : AffixRule.apply ⟨.trailing, "y".toList, "ies".toList,
      ⟨[.noneOf (.ofList "aeiou".toList), .oneOf (.singleton 'y')]⟩, true⟩ "y".toList =
        some "ies".toList := by
    decide +kernel
  exact ⟨_, rfl, rfl, rfl, rfl, happly, ((apply_and_undo _ _ _).2.1 happly).2.1⟩

end AffixRule

end AffixSpeller
