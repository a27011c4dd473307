import AffixSpeller.Proofs.Text.Place
import AffixSpeller.Spelling.Token
import Mathlib.Data.List.Forall2
import Mathlib.Data.List.Pairwise

/-!
# Runs of letters

The clusters of a line fall into stretches that belong to runs and gaps between them. The scan
puts the clusters of a stretch together one by one; it finds every stretch whole, each at its place,
and nothing else. Of a run, the word is what stands from its first letter to its last one, and only
a run without a letter has none.

## Main definitions

* `Run.stretches`: the maximal stretches of clusters that belong to runs.
* `Text.StandsAt`: a cluster among others, told by the characters before it.
* `Text.IsLetterPart`: a text from its first letter to its last one.

## Main results

* `Run.stretch_induction`: clusters are taken apart at the gaps.
* `Run.map_text_ofClusters`: the runs are the stretches in their order.
* `Run.exists_stretch_of_mem`, `Run.exists_mem_ofClusters`, `Run.pairwise_apart_ofClusters`: where
  runs stand, that each cluster of a stretch is in one, and what is between them.
* `Run.exists_leading_of_token?`, `Run.token?_eq_none_iff`: the word of a run.
-/

namespace AffixSpeller

open Text (utf8Length)

/-! ### Elements of lists -/

/-- An element of a list put together of two is in the first one or in the second one. -/
theorem append_eq_append_cons {α : Type} {s t l r : List α} {a : α} (h : s ++ t = l ++ a :: r) :
    (∃ m, s = l ++ a :: m ∧ r = m ++ t) ∨ ∃ m, l = s ++ m ∧ t = m ++ a :: r := by
  obtain ⟨m, rfl, rfl⟩ | ⟨m, rfl, hm⟩ := List.append_eq_append_iff.1 h
  · exact .inr ⟨m, rfl, rfl⟩
  · cases m with
    | nil => exact .inr ⟨[], by simp, hm.symm⟩
    | cons b m =>
      obtain ⟨rfl, rfl⟩ := List.cons.inj hm
      exact .inl ⟨m, rfl, rfl⟩

/-- A property that no two elements share tells an element from the others. -/
theorem eq_of_pairwise_not_and {α : Type} {p : α → Prop} {l : List α} {a b : α}
    (h : l.Pairwise fun a b => ¬(p a ∧ p b)) (ha : a ∈ l) (hb : b ∈ l) (hpa : p a) (hpb : p b) :
    a = b := by
  have hsymm : Std.Symm fun a b => ¬(p a ∧ p b) := ⟨fun _ _ h => by rwa [and_comm]⟩
  by_contra hab
  exact h.forall ha hb hab ⟨hpa, hpb⟩

/-! ### Clusters at their places -/

namespace Text

variable {clusters : List Text} {cluster : Text} {n : Nat}

/-- The cluster stands behind `n` characters of the clusters. -/
def StandsAt (clusters : List Text) (n : Nat) (cluster : Text) : Prop :=
  ∃ l r, clusters = l ++ cluster :: r ∧ l.flatten.length = n

theorem standsAt_zero (cluster : Text) (clusters : List Text) :
    StandsAt (cluster :: clusters) 0 cluster :=
  ⟨[], clusters, rfl, rfl⟩

/-- Clusters in front move a cluster by their characters. -/
theorem StandsAt.append_left (h : StandsAt clusters n cluster) (ws : List Text) :
    StandsAt (ws ++ clusters) (ws.flatten.length + n) cluster := by
  obtain ⟨l, r, rfl, rfl⟩ := h
  exact ⟨ws ++ l, r, by simp, by simp⟩

end Text

open Text (StandsAt)

namespace Run

variable {n offset : Nat} {cluster : Text} {ws clusters : List Text} {run : Run}

/-! ### Stretches -/

/-- The maximal stretches of clusters that belong to runs. -/
def stretches (clusters : List Text) : List (List Text) :=
  (clusters.splitOnP (!joins ·)).filter (!·.isEmpty)

/-- Clusters are taken apart at the gaps: a cluster that belongs to no run is one step, and all
clusters up to the next such cluster are one. -/
@[elab_as_elim]
theorem stretch_induction {motive : List Text → Prop} (nil : motive [])
    (gap : ∀ cluster clusters, joins cluster = false → motive clusters →
      motive (cluster :: clusters))
    (stretch : ∀ ws clusters, ws ≠ [] → (∀ w ∈ ws, joins w = true) →
      clusters.head?.any joins = false → motive clusters → motive (ws ++ clusters))
    (clusters : List Text) : motive clusters := by
  match clusters with
  | [] => exact nil
  | cluster :: clusters =>
    cases hjoins : joins cluster with
    | false =>
      exact gap cluster clusters hjoins (stretch_induction nil gap stretch clusters)
    | true =>
      have hsplit : cluster :: clusters =
          (cluster :: clusters.takeWhile joins) ++ clusters.dropWhile joins := by simp
      have hnext : (clusters.dropWhile joins).head?.any joins = false := by
        have h := List.head?_dropWhile_not joins clusters
        cases hhead : (clusters.dropWhile joins).head? with
        | none => rfl
        | some w => simpa [hhead] using h
      have hshorter := (List.dropWhile_sublist joins (l := clusters)).length_le
      rw [hsplit]
      refine stretch _ _ (List.cons_ne_nil _ _) (fun w hw => ?_) hnext
        (stretch_induction nil gap stretch (clusters.dropWhile joins))
      obtain rfl | hw := List.mem_cons.1 hw
      · exact hjoins
      · exact List.mem_takeWhile_imp hw
termination_by clusters.length

theorem stretches_gap (h : joins cluster = false) :
    stretches (cluster :: clusters) = stretches clusters := by
  simp [stretches, List.splitOnP_cons_eq_if_modifyHead, h]

theorem stretches_stretch (hne : ws ≠ []) (hws : ∀ w ∈ ws, joins w = true)
    (hnext : clusters.head?.any joins = false) :
    stretches (ws ++ clusters) = ws :: stretches clusters := by
  have hkeep : ∀ w ∈ ws, (!joins w) = false := by simpa using hws
  cases clusters with
  | nil => simp [stretches, List.splitOnP_eq_singleton hkeep, hne]
  | cons w clusters =>
    have hw : (!joins w) = true := by simpa using hnext
    rw [stretches_gap (by simpa using hnext), stretches,
      List.splitOnP_append_cons_of_forall_mem hkeep _ hw]
    simp [stretches, hne]

theorem ofClusters_gap (h : joins cluster = false) :
    ofClusters n offset (cluster :: clusters) =
      ofClusters (n + cluster.length) (offset + utf8Length cluster) clusters := by
  simp [ofClusters, h]

/-- The clusters of a stretch are put together to one run. -/
theorem ofClusters_stretch (hne : ws ≠ []) (hws : ∀ w ∈ ws, joins w = true)
    (hnext : clusters.head?.any joins = false) :
    ofClusters n offset (ws ++ clusters) =
      ⟨ws.flatten, n, offset⟩ ::
        ofClusters (n + ws.flatten.length) (offset + utf8Length ws.flatten) clusters := by
  induction ws generalizing n offset with
  | nil => exact absurd rfl hne
  | cons w ws ih =>
    have hw := hws w List.mem_cons_self
    cases ws with
    | nil => simp [ofClusters, hw, hnext]
    | cons v ws =>
      have hv : joins v = true := hws v (by simp)
      have ih := @ih (n + w.length) (offset + utf8Length w) (List.cons_ne_nil v ws)
        (fun u hu => hws u (List.mem_cons_of_mem w hu))
      rw [List.cons_append, ofClusters, ih]
      simp [hw, hv, Nat.add_assoc]

/-! ### Runs at their places -/

/-- **The runs of a line are its stretches in their order.** -/
theorem map_text_ofClusters (n offset : Nat) (clusters : List Text) :
    (ofClusters n offset clusters).map text = (stretches clusters).map List.flatten := by
  induction clusters using stretch_induction generalizing n offset with
  | nil => rfl
  | gap cluster clusters h ih => rw [ofClusters_gap h, stretches_gap h, ih]
  | stretch ws clusters hne hws hnext ih =>
    rw [ofClusters_stretch hne hws hnext, stretches_stretch hne hws hnext, List.map_cons,
      List.map_cons, ih]

/-- A run stands where the first cluster of its stretch does. -/
theorem exists_stretch_of_mem (h : run ∈ ofClusters n offset clusters) :
    ∃ l ws r, clusters = l ++ (ws ++ r) ∧ (∀ w ∈ ws, joins w = true) ∧
      run.text = ws.flatten ∧ run.before = n + l.flatten.length := by
  induction clusters using stretch_induction generalizing n offset with
  | nil => cases h
  | gap cluster clusters hgap ih =>
    rw [ofClusters_gap hgap] at h
    obtain ⟨l, ws, r, rfl, hws, htext, hbefore⟩ := ih h
    exact ⟨cluster :: l, ws, r, rfl, hws, htext, by simp [hbefore, Nat.add_assoc]⟩
  | stretch us clusters hus hall hnext ih =>
    rw [ofClusters_stretch hus hall hnext] at h
    obtain rfl | h := List.mem_cons.1 h
    · exact ⟨[], us, clusters, rfl, hall, rfl, rfl⟩
    · obtain ⟨l, ws, r, rfl, hws, htext, hbefore⟩ := ih h
      exact ⟨us ++ l, ws, r, by simp, hws, htext, by simp [hbefore, Nat.add_assoc]⟩

/-- Every cluster of a stretch is part of a run, at its place. -/
theorem exists_mem_ofClusters (n offset : Nat) {k : Nat} (h : StandsAt clusters k cluster)
    (hjoins : joins cluster = true) :
    ∃ run ∈ ofClusters n offset clusters, ∃ l r,
      run.text = l ++ (cluster ++ r) ∧ run.before + l.length = n + k := by
  obtain ⟨l, r, h, rfl⟩ := h
  induction clusters using stretch_induction generalizing n offset l with
  | nil => simp at h
  | gap w clusters hgap ih =>
    rw [ofClusters_gap hgap]
    cases l with
    | nil =>
      obtain ⟨rfl, -⟩ := List.cons.inj h
      simp [hgap] at hjoins
    | cons v l =>
      obtain ⟨rfl, rfl⟩ := List.cons.inj h
      obtain ⟨run, hrun, l', r', htext, hplace⟩ :=
        @ih (n + w.length) (offset + utf8Length w) l rfl
      exact ⟨run, hrun, l', r', htext, by simpa [Nat.add_assoc] using hplace⟩
  | stretch ws clusters hne hws hnext ih =>
    rw [ofClusters_stretch hne hws hnext]
    obtain ⟨us, rfl, -⟩ | ⟨us, rfl, rfl⟩ := append_eq_append_cons h
    · exact ⟨_, List.mem_cons_self, l.flatten, us.flatten, by simp, rfl⟩
    · obtain ⟨run, hrun, l', r', htext, hplace⟩ :=
        @ih (n + ws.flatten.length) (offset + utf8Length ws.flatten) us rfl
      exact ⟨run, List.mem_cons_of_mem _ hrun, l', r', htext,
        by simpa [Nat.add_assoc] using hplace⟩

theorem before_le_of_mem (h : run ∈ ofClusters n offset clusters) : n ≤ run.before := by
  obtain ⟨l, -, -, -, -, -, hbefore⟩ := exists_stretch_of_mem h
  omega

/-- **Between two runs of a line stands a cluster that belongs to none.** -/
theorem pairwise_apart_ofClusters (n offset : Nat) (clusters : List Text) :
    (ofClusters n offset clusters).Pairwise fun a b =>
      ∃ k cluster, StandsAt clusters k cluster ∧ joins cluster = false ∧
        a.before + a.text.length ≤ n + k ∧ n + (k + cluster.length) ≤ b.before := by
  induction clusters using stretch_induction generalizing n offset with
  | nil => exact .nil
  | gap w clusters hgap ih =>
    rw [ofClusters_gap hgap]
    refine (ih _ _).imp ?_
    rintro a b ⟨k, cluster, hstands, hjoins, ha, hb⟩
    exact ⟨_, cluster, hstands.append_left [w], hjoins, by simpa [Nat.add_assoc] using ha,
      by simpa [Nat.add_assoc] using hb⟩
  | stretch ws clusters hne hws hnext ih =>
    rw [ofClusters_stretch hne hws hnext]
    refine List.pairwise_cons.2 ⟨fun b hb => ?_, (ih _ _).imp ?_⟩
    · -- the cluster behind the stretch is there, as another run follows
      cases clusters with
      | nil => cases hb
      | cons w clusters =>
        have hgap : joins w = false := by simpa using hnext
        rw [ofClusters_gap hgap] at hb
        have hle := before_le_of_mem hb
        exact ⟨_, w, (Text.standsAt_zero w clusters).append_left ws, hgap, le_rfl, by omega⟩
    · rintro a b ⟨k, cluster, hstands, hjoins, ha, hb⟩
      exact ⟨_, cluster, hstands.append_left ws, hjoins, by simpa [Nat.add_assoc] using ha,
        by simpa [Nat.add_assoc] using hb⟩

end Run

/-! ### Words of runs -/

/-- The word goes from the first letter of the text to its last one; `leading` stands before it and
`trailing` behind it. -/
structure Text.IsLetterPart (leading word trailing : Text) : Prop where
  leading : ∀ c ∈ leading, Unicode.isAlphabetic c = false
  trailing : ∀ c ∈ trailing, Unicode.isAlphabetic c = false
  head : ∃ c ∈ word.head?, Unicode.isAlphabetic c = true
  last : ∃ c ∈ word.getLast?, Unicode.isAlphabetic c = true

/-- A letter of the text is one of the word. -/
theorem Text.IsLetterPart.exists_eq {leading word trailing l r : Text} {c : Char}
    (h : IsLetterPart leading word trailing) (hc : Unicode.isAlphabetic c = true)
    (heq : leading ++ (word ++ trailing) = l ++ c :: r) :
    ∃ s t, l = leading ++ s ∧ word = s ++ c :: t := by
  obtain ⟨s, rfl, -⟩ | ⟨s, hl, hrest⟩ := append_eq_append_cons heq
  · simp [h.leading c (by simp)] at hc
  · obtain ⟨t, hword, -⟩ | ⟨t, -, rfl⟩ := append_eq_append_cons hrest
    · exact ⟨s, t, hl, hword⟩
    · simp [h.trailing c (by simp)] at hc

/-- The word belongs to a run of the line. -/
structure Token.IsWordOf (token : Token) (line : Nat) (run : Text) : Prop where
  line_eq : token.line = line
  exists_split : ∃ leading trailing, run = leading ++ (token.text ++ trailing) ∧
    Text.IsLetterPart leading token.text trailing

/-- The character in the given column of a line is the one that the word has there. -/
structure Token.Covers (token : Token) (line column : Nat) : Prop where
  line_eq : token.line = line
  le : token.column ≤ column
  lt : column < token.column + token.text.length

namespace Run

variable {line : Nat} {run : Run} {token : Token}

/-- Only a run without a letter has no word. -/
theorem token?_eq_none_iff :
    run.token? line = none ↔ ∀ c ∈ run.text, Unicode.isAlphabetic c = false := by
  have hnil := Text.trimWhile_eq_nil_iff (p := fun c => !Unicode.isAlphabetic c) (t := run.text)
  simp only [Bool.not_eq_true'] at hnil
  rw [← hnil, token?]
  split
  · rename_i hword
    exact iff_of_true rfl hword
  · rename_i hword
    exact iff_of_false (by simp) hword

/-- **The word of a run goes from its first letter to its last one, and stands there.** -/
theorem exists_leading_of_token? (h : run.token? line = some token) :
    ∃ leading trailing, run.text = leading ++ (token.text ++ trailing) ∧
      Text.IsLetterPart leading token.text trailing ∧
      token = ⟨token.text, line, run.before + leading.length + 1,
        run.offset + utf8Length leading⟩ := by
  unfold token? at h
  dsimp only at h
  split at h
  · cases h
  · rename_i hword
    cases h
    obtain ⟨trailing, htext, htrailing⟩ := Text.exists_eq_takeWhile_append_trimWhile
      (fun c => !Unicode.isAlphabetic c) run.text
    obtain ⟨hhead, hlast⟩ := Text.exists_ends_of_trimWhile_ne_nil hword
    refine ⟨_, trailing, htext, ⟨fun c hc => ?_, by simpa using htrailing, ?_, ?_⟩, rfl⟩
    · simpa using List.mem_takeWhile_imp hc
    · simpa using hhead
    · simpa using hlast

theorem line_of_token? (h : run.token? line = some token) : token.line = line := by
  obtain ⟨_, _, -, -, htoken⟩ := exists_leading_of_token? h
  exact congrArg Token.line htoken

theorem column_of_token? (h : run.token? line = some token) :
    run.before + 1 ≤ token.column ∧
      token.column + token.text.length ≤ run.before + run.text.length + 1 := by
  obtain ⟨leading, trailing, htext, -, htoken⟩ := exists_leading_of_token? h
  have hcolumn : token.column = run.before + leading.length + 1 := congrArg Token.column htoken
  simp only [htext, List.length_append]
  omega

/-- A letter of a run is one of its word. -/
theorem exists_token?_covers (line : Nat) {c : Char} {l r : Text} (h : run.text = l ++ c :: r)
    (hc : Unicode.isAlphabetic c = true) :
    ∃ token, run.token? line = some token ∧ token.Covers line (run.before + l.length + 1) ∧
      token.text[run.before + l.length + 1 - token.column]? = some c := by
  have hsome : run.token? line ≠ none := by
    rw [Ne, token?_eq_none_iff]
    intro hnone
    simp [hnone c (by simp [h])] at hc
  obtain ⟨token, htoken⟩ := Option.ne_none_iff_exists'.1 hsome
  obtain ⟨leading, trailing, htext, hpart, hplaced⟩ := exists_leading_of_token? htoken
  have hcolumn : token.column = run.before + leading.length + 1 := congrArg Token.column hplaced
  obtain ⟨s, t, rfl, hword⟩ := hpart.exists_eq hc (htext.symm.trans h)
  refine ⟨token, htoken, ⟨line_of_token? htoken, ?_, ?_⟩, ?_⟩
  · simp only [hcolumn, List.length_append]
    omega
  · simp only [hcolumn, hword, List.length_append, List.length_cons]
    omega
  · have hplace : run.before + (leading ++ s).length + 1 - token.column = s.length := by
      simp only [hcolumn, List.length_append]
      omega
    rw [hplace, hword]
    simp

/-- The words of runs are those of the runs with a letter, one for each. -/
theorem forall₂_filterMap_token? (line : Nat) (runs : List Run) :
    List.Forall₂ (fun run token => Token.IsWordOf token run.1 run.2)
      ((runs.map fun run => (line, run.text)).filter fun run => run.2.any Unicode.isAlphabetic)
      (runs.filterMap (token? line)) := by
  induction runs with
  | nil => exact .nil
  | cons run runs ih =>
    cases htoken : run.token? line with
    | none =>
      have hno : run.text.any Unicode.isAlphabetic = false := by
        simpa using token?_eq_none_iff.1 htoken
      simpa [htoken, hno] using ih
    | some token =>
      have hany : run.text.any Unicode.isAlphabetic = true := by
        rw [← Bool.not_eq_false, List.any_eq_false]
        intro hnone
        have hword : run.token? line = none := token?_eq_none_iff.2 (by simpa using hnone)
        simp [htoken] at hword
      obtain ⟨leading, trailing, htext, hpart, -⟩ := exists_leading_of_token? htoken
      have hword : token.IsWordOf line run.text :=
        ⟨line_of_token? htoken, leading, trailing, htext, hpart⟩
      simpa [htoken, hany] using And.intro hword ih

end Run

end AffixSpeller
