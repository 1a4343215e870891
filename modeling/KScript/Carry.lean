/-!
# Carrying a state along a list

Each element is rewritten in the state that the elements before it leave behind.
-/

namespace KScript

variable {α β σ : Type}

/-- The rewritten list and the last state. -/
def carry (f : σ → α → β × σ) (s : σ) : List α → List β × σ
  | [] => ([], s)
  | a :: r =>
    let first := f s a
    let rest := carry f first.2 r
    (first.1 :: rest.1, rest.2)

@[simp] theorem carry_nil (f : σ → α → β × σ) (s : σ) : carry f s [] = ([], s) := rfl

theorem carry_cons (f : σ → α → β × σ) (s : σ) (a : α) (r : List α) :
    carry f s (a :: r) =
      ((f s a).1 :: (carry f (f s a).2 r).1, (carry f (f s a).2 r).2) := rfl

@[simp] theorem length_carry (f : σ → α → β × σ) (s : σ) (a : List α) :
    (carry f s a).1.length = a.length := by
  induction a generalizing s with
  | nil => rfl
  | cons x a ih => simp [carry_cons, ih]

/-- Every element is rewritten in the state that the elements before it leave. -/
theorem getElem?_carry (f : σ → α → β × σ) (s : σ) (a : List α) (i : Nat) :
    (carry f s a).1[i]? = a[i]?.map fun x => (f (carry f s (a.take i)).2 x).1 := by
  induction a generalizing s i with
  | nil => rfl
  | cons x a ih =>
    cases i with
    | zero => rfl
    | succ i => simp [carry_cons, ih]

theorem take_carry (f : σ → α → β × σ) (s : σ) (a : List α) (i : Nat) :
    (carry f s a).1.take i = (carry f s (a.take i)).1 := by
  induction a generalizing s i with
  | nil => simp
  | cons x a ih =>
    cases i with
    | zero => rfl
    | succ i => simp [carry_cons, ih]

end KScript
