import KScript.Fault

/-!
# Outcomes

What is known about the steps of a computation that can fail, once its outcome is known.
-/

namespace KScript

variable {ε α β : Type} {x : Except ε α} {b : β} {e : ε}

/-- A chain of steps succeeds if every step does. -/
theorem bind_eq_ok_iff {f : α → Except ε β} :
    x.bind f = .ok b ↔ ∃ a, x = .ok a ∧ f a = .ok b := by
  cases x with
  | ok a => simp [Except.bind]
  | error e => simp [Except.bind]

theorem map_eq_ok_iff {f : α → β} : x.map f = .ok b ↔ ∃ a, x = .ok a ∧ f a = b := by
  cases x with
  | ok a => simp [Except.map]
  | error e => simp [Except.map]

theorem map_eq_error_iff {f : α → β} : x.map f = .error e ↔ x = .error e := by
  cases x with
  | ok a => simp [Except.map]
  | error e' => simp [Except.map]

/-- Naming the line changes only failures. -/
theorem located_eq_ok_iff {line : Nat} {y : Except Fault α} {a : α} :
    located line y = .ok a ↔ y = .ok a := by
  cases y with
  | ok b => simp [located]
  | error f => simp [located]

end KScript
