import AffixSpeller.Event
import Mathlib.Tactic.Common

/-!
# Results and records of operations

What an operation records has no bearing on its result. An operation in two parts succeeds if both
parts do, and then its record is that of the first part with that of the second behind it.

## Main results

* `Logged.result_andThen_eq_ok_iff`: when two operations in a row succeed.
* `Logged.result_mapError_eq_ok_iff`: seeing a failure as another one changes no success.
* `Logged.exists_result_eq_ok`: a success shown by a test of its result.
* `Logged.log_andThen_of_ok`, `Logged.mem_log_andThen`: what two operations in a row record.
* `toOption_eq_some_iff`, `map_eq_ok_iff`, `map_eq_error_iff`, `isSome_eq_of_rel`: successes and
  failures of plain results.
-/

namespace AffixSpeller

theorem toOption_eq_some_iff {ε α : Type} {r : Except ε α} {a : α} :
    r.toOption = some a ↔ r = .ok a := by
  cases r <;> simp [Except.toOption]

theorem map_eq_ok_iff {ε α β : Type} {r : Except ε α} {f : α → β} {b : β} :
    r.map f = .ok b ↔ ∃ a, r = .ok a ∧ f a = b := by
  cases r <;> simp [Except.map]

theorem map_eq_error_iff {ε α β : Type} {r : Except ε α} {f : α → β} {e : ε} :
    r.map f = .error e ↔ r = .error e := by
  cases r <;> simp [Except.map]

theorem isSome_eq_of_rel {α β : Type} {r : α → β → Prop} {x : Option α} {y : Option β}
    (h : Option.Rel r x y) : x.isSome = y.isSome := by
  cases h <;> rfl

end AffixSpeller

namespace AffixSpeller.Logged

variable {ε ε' α β : Type}

@[simp] theorem result_note (events : List Event) (a : α) :
    (note events a : Logged ε α).result = .ok a := rfl

@[simp] theorem result_silent (r : Except ε α) : (silent r).result = r := rfl

@[simp] theorem result_after (events : List Event) (x : Logged ε α) :
    (x.after events).result = x.result := rfl

@[simp] theorem result_andThen_eq_ok_iff {x : Logged ε α} {f : α → Logged ε β} {b : β} :
    (x.andThen f).result = .ok b ↔ ∃ a, x.result = .ok a ∧ (f a).result = .ok b := by
  unfold andThen
  cases x.result <;> simp

@[simp] theorem result_mapError_eq_ok_iff {x : Logged ε α} {f : ε → ε'} {a : α} :
    (x.mapError f).result = .ok a ↔ x.result = .ok a := by
  unfold mapError
  cases x.result <;> simp [Except.mapError]

@[simp] theorem log_note (events : List Event) (a : α) :
    (note events a : Logged ε α).log = events := rfl

@[simp] theorem log_silent (r : Except ε α) : (silent r).log = [] := rfl

@[simp] theorem log_after (events : List Event) (x : Logged ε α) :
    (x.after events).log = events ++ x.log := rfl

@[simp] theorem log_mapError (f : ε → ε') (x : Logged ε α) : (x.mapError f).log = x.log := rfl

theorem log_andThen_of_ok {x : Logged ε α} {a : α} (h : x.result = .ok a) (f : α → Logged ε β) :
    (x.andThen f).log = x.log ++ (f a).log := by
  simp only [andThen, h, log_after]

/-- What two operations in a row record is recorded by one of them. -/
theorem mem_log_andThen {x : Logged ε α} {f : α → Logged ε β} {event : Event}
    (h : event ∈ (x.andThen f).log) :
    event ∈ x.log ∨ ∃ a, x.result = .ok a ∧ event ∈ (f a).log := by
  cases hresult : x.result with
  | error e =>
    simp only [andThen, hresult] at h
    exact Or.inl h
  | ok a =>
    rw [log_andThen_of_ok hresult, List.mem_append] at h
    exact h.imp_right fun h => ⟨a, rfl, h⟩

/-- A test of the result that comes out true shows that there is one. -/
theorem exists_result_eq_ok {x : Logged ε α} {p : α → Bool}
    (h : x.result.toOption.any p = true) : ∃ a, x.result = .ok a ∧ p a = true := by
  cases hresult : x.result with
  | error e => simp [hresult, Except.toOption] at h
  | ok a => exact ⟨a, rfl, by simpa [hresult, Except.toOption] using h⟩

end AffixSpeller.Logged
