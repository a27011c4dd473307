import AffixSpeller.Text.Grapheme
import Mathlib.Tactic.Common

/-!
# Clusters of a text

Cutting a text into clusters loses nothing and moves nothing. Characters that never continue a
cluster, such as the carriage return, stand at the beginning of their own one.

## Main results

* `Text.flatten_graphemes`: the clusters of a text put together again.
* `Text.notMem_tail_of_mem_graphemes`: what stands only at the beginning of a cluster.
-/

namespace AffixSpeller

namespace Grapheme

variable {c : Char}

theorem clustersAfter_ne_nil (s : State) (t : Text) : clustersAfter s t ≠ [] := by
  cases t with
  | nil => simp [clustersAfter]
  | cons c t =>
    simp only [clustersAfter]
    split <;> simp [clustersAfter_ne_nil]

theorem exists_clustersAfter_eq_cons (s : State) (t : Text) :
    ∃ w ws, clustersAfter s t = w :: ws :=
  List.exists_cons_of_ne_nil (clustersAfter_ne_nil s t)

theorem flatten_clustersAfter (s : State) (t : Text) : (clustersAfter s t).flatten = t := by
  induction t generalizing s with
  | nil => rfl
  | cons c t ih =>
    have ih := ih (s.next c)
    obtain ⟨w, ws, hrest⟩ := exists_clustersAfter_eq_cons (s.next c) t
    rw [hrest] at ih
    simp only [clustersAfter, hrest]
    split <;> simpa using ih

/-- A carriage return continues no cluster. -/
theorem joins_carriageReturn (s : State) : joins s '\r' = false := by
  have hclass : Unicode.breakClass '\r' = .carriageReturn := rfl
  simp [joins, hclass, isolated]

/-- Behind a place, a character that continues no cluster is not in the cluster that goes on there,
and in all others it comes first. -/
theorem notMem_clustersAfter (hc : ∀ s, joins s c = false) (s : State) (t : Text) :
    ∃ w ws, clustersAfter s t = w :: ws ∧ c ∉ w ∧ ∀ cluster ∈ ws, c ∉ cluster.tail := by
  induction t generalizing s with
  | nil => exact ⟨[], [], rfl, by simp, by simp⟩
  | cons d t ih =>
    obtain ⟨w, ws, hrest, hw, hws⟩ := ih (s.next d)
    simp only [clustersAfter, hrest, List.modifyHead_cons]
    split_ifs with hjoins
    · have hd : c ≠ d := by
        rintro rfl
        simp [hc s] at hjoins
      exact ⟨d :: w, ws, rfl, by simp [hd, hw], hws⟩
    · exact ⟨[], (d :: w) :: ws, rfl, by simp, by simpa using ⟨hw, hws⟩⟩

end Grapheme

namespace Text

/-- **The clusters of a text put together give the text.** -/
theorem flatten_graphemes (t : Text) : (graphemes t).flatten = t := by
  cases t with
  | nil => rfl
  | cons c t =>
    have hflatten := Grapheme.flatten_clustersAfter (.first c) t
    obtain ⟨w, ws, hrest⟩ := Grapheme.exists_clustersAfter_eq_cons (.first c) t
    rw [hrest] at hflatten
    simpa [graphemes, hrest] using hflatten

theorem notMem_tail_of_mem_graphemes {c : Char} (hc : ∀ s, Grapheme.joins s c = false)
    {t cluster : Text} (h : cluster ∈ graphemes t) : c ∉ cluster.tail := by
  cases t with
  | nil => cases h
  | cons d t =>
    obtain ⟨w, ws, hrest, hw, hws⟩ := Grapheme.notMem_clustersAfter hc (.first d) t
    simp only [graphemes, hrest, List.modifyHead_cons] at h
    obtain rfl | h := List.mem_cons.1 h
    · exact hw
    · exact hws cluster h

end Text

end AffixSpeller
