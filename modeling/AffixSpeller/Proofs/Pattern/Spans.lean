import AffixSpeller.Pattern.Regex
import AffixSpeller.Proofs.Text.Place

/-!
# Where matches are

Whatever a regular expression says, its matches in a text are stretches of that text, and each one
ends before the next one begins. For a thread keeps the place at which it began, that place is one
that the search has gone by, and the search goes on behind the match that it found.

## Main definitions

* `Span.behind`: a stretch with the places that the characters before it give.
* `Match.CutFrom`: a match is a stretch of a text.

## Main results

* `Program.cutFrom_of_mem_search`: what a search finds is a stretch of the text.
* `Regex.cutOut_spans`: the matches of a text in their order, each at its place.
-/

namespace AffixSpeller

open Text (CutOut utf8Length)

/-- A stretch with the places that the characters before it give. -/
def Span.behind (before piece : Text) : Span where
  start := utf8Length before
  stop := utf8Length (before ++ piece)

/-- The match is a stretch of the text `t`, which stands behind `before`. -/
def Match.CutFrom (before t : Text) (m : Match) : Prop :=
  ∃ gap piece, t = gap ++ (piece ++ m.rest) ∧ m.span = .behind (before ++ gap) piece

/-- The place is one that a search gone by `passed` has seen. -/
def BeginsIn (before passed : Text) (start : Nat) : Prop :=
  ∃ l r, passed = l ++ r ∧ start = utf8Length (before ++ l)

theorem BeginsIn.append {before passed : Text} {start : Nat} (h : BeginsIn before passed start)
    (s : Text) : BeginsIn before (passed ++ s) start := by
  obtain ⟨l, r, rfl, hstart⟩ := h
  exact ⟨l, r ++ s, List.append_assoc l r s, hstart⟩

theorem beginsIn_self (before passed : Text) :
    BeginsIn before passed (utf8Length (before ++ passed)) :=
  ⟨passed, [], (List.append_nil passed).symm, rfl⟩

namespace Program

/-- Following threads invents no place at which one began. -/
theorem forall_start_advance {P : Nat → Prop} (p : Program) (place : Place) (mark : Nat)
    (marks : Array Nat) {moved pending : List Thread} (hmoved : ∀ thread ∈ moved, P thread.start)
    (hpending : ∀ thread ∈ pending, P thread.start) :
    (∀ thread ∈ (p.advance place mark marks moved pending).threads, P thread.start) ∧
      ∀ start ∈ (p.advance place mark marks moved pending).complete, P start := by
  fun_induction advance p place mark marks moved pending with
  | case5 _ _ _ _ _ _ _ _ set next _ later ih =>
    -- the one step that moves a thread on
    obtain ⟨hfirst, hpending⟩ := List.forall_mem_cons.1 hpending
    refine ih ?_ hpending
    simp only [later]
    split_ifs
    · exact List.forall_mem_cons.2 ⟨hfirst, hmoved⟩
    · exact hmoved
  | _ => simp_all

variable {before passed : Text}

/-- A match that is complete at a place begins where one of the threads did. -/
theorem cutFrom_of_complete {t : Text} {best : Option Match} {start? : Option Nat}
    (c? : Option Char) (hstart : ∀ start ∈ start?, BeginsIn before passed start)
    (hbest : ∀ m ∈ best, m.CutFrom before (passed ++ t)) :
    ∀ m ∈ (start?.map fun start =>
        (⟨⟨start, utf8Length (before ++ passed)⟩, c?, t⟩ : Match)).or best,
      m.CutFrom before (passed ++ t) := by
  cases start? with
  | none => simpa using hbest
  | some start =>
    rintro _ ⟨⟩
    obtain ⟨l, r, rfl, rfl⟩ := hstart start rfl
    exact ⟨l, r, List.append_assoc l r t, by simp [Span.behind]⟩

theorem beginsIn_of_mem_pending {threads : List Thread} (first : Nat) (fresh : Bool)
    (hthreads : ∀ thread ∈ threads, BeginsIn before passed thread.start) :
    ∀ thread ∈ (if fresh then threads ++ [⟨first, utf8Length (before ++ passed)⟩] else threads),
      BeginsIn before passed thread.start := by
  cases fresh with
  | false => exact hthreads
  | true =>
    intro thread h
    obtain h | h := List.mem_append.1 h
    · exact hthreads thread h
    · rw [List.mem_singleton.1 h]
      exact beginsIn_self before passed

/-- **What a search finds is a stretch of the text**, if what was found before is one and the
threads come from places that the search has gone by. -/
theorem cutFrom_of_mem_search (p : Program) (mark : Nat) (marks : Array Nat) {t : Text}
    {threads : List Thread} {best : Option Match} (c? : Option Char)
    (hthreads : ∀ thread ∈ threads, BeginsIn before passed thread.start)
    (hbest : ∀ m ∈ best, m.CutFrom before (passed ++ t)) :
    ∀ m ∈ p.search mark marks threads best c? (utf8Length (before ++ passed)) t,
      m.CutFrom before (passed ++ t) := by
  induction t generalizing passed mark marks threads best c? with
  | nil =>
    have hpending := beginsIn_of_mem_pending p.start best.isNone hthreads
    exact cutFrom_of_complete c?
      (forall_start_advance p ⟨c?, none⟩ mark marks (List.forall_mem_nil _) hpending).2 hbest
  | cons c t ih =>
    have hpending := beginsIn_of_mem_pending p.start best.isNone hthreads
    simp only [search]
    generalize (if best.isNone then threads ++ [⟨p.start, utf8Length (before ++ passed)⟩]
      else threads) = pending at hpending ⊢
    cases pending with
    | nil => exact hbest
    | cons first pending =>
      obtain ⟨hthreads, hcomplete⟩ :=
        forall_start_advance p ⟨c?, some c⟩ mark marks (List.forall_mem_nil _) hpending
      have hbest := cutFrom_of_complete c? hcomplete hbest
      have hoffset : utf8Length (before ++ passed) + c.utf8Size =
          utf8Length (before ++ (passed ++ [c])) := by
        simp [utf8Length, Nat.add_assoc]
      have htext : passed ++ c :: t = (passed ++ [c]) ++ t := by simp
      rw [htext] at hbest
      simp only [hoffset, htext]
      exact ih _ _ _ (fun thread h => (hthreads thread h).append [c]) hbest

end Program

namespace Regex

variable {before t : Text}

theorem cutFrom_of_findFrom? {r : Regex} {c? : Option Char} {m : Match}
    (h : r.findFrom? c? (utf8Length before) t = some m) : m.CutFrom before t := by
  rw [← List.append_nil before] at h
  exact r.program.cutFrom_of_mem_search 1 _ c? (List.forall_mem_nil _) (by simp) m h

theorem cutOut_spansFrom (r : Regex) (fuel : Nat) (c? : Option Char) (last : Option Nat)
    (before t : Text) :
    CutOut Span.behind before t (r.spansFrom fuel c? (utf8Length before) last t) := by
  induction fuel generalizing c? last before t with
  | zero => exact .nil before t
  | succ fuel ih =>
    simp only [spansFrom]
    cases hfind : r.findFrom? c? (utf8Length before) t with
    | none => exact .nil before t
    | some m =>
      obtain ⟨span, behind?, rest⟩ := m
      dsimp only
      split_ifs with hempty
      · cases t with
        | nil => exact .nil before []
        | cons c t =>
          -- an empty match at the end of the one before it is passed over with a character
          have ih : CutOut Span.behind (before ++ [c]) t _ := ih (some c) last (before ++ [c]) t
          rw [Text.utf8Length_append] at ih
          exact CutOut.append_left [c] ih
      · obtain ⟨gap, piece, htext, hspan⟩ := cutFrom_of_findFrom? hfind
        obtain rfl : span = .behind (before ++ gap) piece := hspan
        obtain rfl : t = gap ++ (piece ++ rest) := htext
        have ih := ih behind? (some (utf8Length (before ++ (gap ++ piece))))
          (before ++ (gap ++ piece)) rest
        exact CutOut.cons gap piece (by simpa [Span.behind] using ih)

/-- **The matches in a text come in their order, each at its place.** -/
theorem cutOut_spans (r : Regex) (t : Text) : CutOut Span.behind [] t (r.spans t) :=
  r.cutOut_spansFrom _ none none [] t

/-- A match is a stretch of the text. -/
theorem exists_of_mem_spans {r : Regex} {t : Text} {span : Span} (h : span ∈ r.spans t) :
    ∃ before piece after, t = before ++ piece ++ after ∧ span = .behind before piece :=
  (r.cutOut_spans t).exists_of_mem h

/-- Every match ends before the next one begins. -/
theorem pairwise_spans (r : Regex) (t : Text) :
    (r.spans t).Pairwise fun a b => a.stop ≤ b.start := by
  refine (r.cutOut_spans t).pairwise.imp ?_
  rintro _ _ ⟨l, piece, m, other, rfl, rfl⟩
  simp only [Span.behind, Text.utf8Length_append, Nat.le_add_right]

end Regex

end AffixSpeller
