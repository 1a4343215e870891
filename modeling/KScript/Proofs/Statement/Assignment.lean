import KScript.Statement.Assignment
import KScript.Proofs.Literal.Pieces
import KScript.Proofs.Text.Trim

/-!
# The sides of an assignment

An assignment begins with its target and ends with its value.
-/

namespace KScript

namespace Assignment

variable {t : Text} {a : Assignment}

/-- One character further in the search for the sign. -/
theorem around?_marks_cons (before : Text) (s : Scan) (c : Char) (t : Text) :
    around? before (s.marks (c :: t)) =
      if s.structural c && c == '=' && isSign before.head? t.head? then some (before.reverse, t)
      else around? (c :: before) ((s.step c).marks t) := by
  have hnext : ((s.step c).marks t).head?.map Mark.char = t.head? := by cases t <;> rfl
  rw [Scan.marks_cons, around?, hnext, Scan.map_char_marks]

/-- The search passes a text without equals signs. -/
theorem around?_marks_append {k : Text} (hk : '=' ∉ k) (before : Text) (s : Scan) (r : Text) :
    around? before (s.marks (k ++ r)) = around? (k.reverse ++ before) ((s.past k).marks r) := by
  induction k generalizing before s with
  | nil => rfl
  | cons c k ih =>
    obtain ⟨hc, hk⟩ := not_or.1 (mt List.mem_cons.2 hk)
    rw [List.cons_append, around?_marks_cons, if_neg (by simp [Ne.symm hc]), ih hk, Scan.past_cons,
      List.reverse_cons, List.append_assoc, List.singleton_append]

/-- An assignment is split at the first of its equals signs, whatever follows it. -/
theorem ofText?_of_not_mem {l r : Text} (hl : '=' ∉ l) (hpast : Scan.start.past l = .start)
    (hsign : isSign l.getLast? r.head? = true) : ofText? (l ++ '=' :: r) = some (ofSides l r) := by
  have hstructural : Scan.start.structural '=' = true := by decide
  have haround : around? [] (Scan.start.marks (l ++ '=' :: r)) = some (l, r) := by
    rw [around?_marks_append hl, hpast, List.append_nil, around?_marks_cons, List.head?_reverse,
      hstructural, hsign, List.reverse_reverse]
    rfl
  rw [ofText?, Text.marks, haround, Option.map_some]

/-- The texts around the sign make up the text, and the sign stands where a scan could start. -/
theorem around?_eq_some {before l r : Text} {s : Scan} (h : around? before (s.marks t) = some (l, r)) :
    ∃ k, l = before.reverse ++ k ∧ t = k ++ '=' :: r ∧ s.past k = .start := by
  induction t generalizing s before with
  | nil => cases h
  | cons c t ih =>
    rw [around?_marks_cons] at h
    split at h
    · next hsign =>
      cases h
      obtain ⟨⟨hs, rfl⟩, -⟩ : (s.structural c = true ∧ c = '=') ∧ _ := by simpa using hsign
      exact ⟨[], by simp, by simp, (Scan.structural_iff.1 hs).1⟩
    · obtain ⟨k, rfl, rfl, hk⟩ := ih h
      exact ⟨c :: k, by simp, rfl, hk⟩

theorem sides_of_ofText? (h : ofText? t = some a) :
    ∃ l r : Text, t = l ++ '=' :: r ∧ Scan.start.past l = .start ∧ a = ofSides l r := by
  obtain ⟨⟨l, r⟩, hs, rfl⟩ := Option.map_eq_some_iff.1 h
  obtain ⟨k, hk, rfl, hpast⟩ := around?_eq_some hs
  obtain rfl : l = k := hk
  exact ⟨l, r, rfl, hpast, rfl⟩

/-- The left side is the target, with an operator behind it or without. -/
theorem ofSides_cases (l r : Text) :
    (∃ op, isOperator op = true ∧ l = l.dropLast ++ [op] ∧
      ofSides l r = ⟨Text.trim l.dropLast, some op, r.trim⟩) ∨
        ofSides l r = ⟨l.trim, none, r.trim⟩ := by
  unfold ofSides
  split
  · next c hc =>
    split
    · next hop =>
      obtain ⟨k, rfl⟩ := List.getLast?_eq_some_iff.1 hc
      exact .inl ⟨c, hop, by simp, rfl⟩
    · exact .inr rfl
  · next hn =>
    rw [List.getLast?_eq_none_iff.1 hn]
    exact .inr rfl

@[simp] theorem value_ofSides (l r : Text) : (ofSides l r).value = r.trim := by
  rcases ofSides_cases l r with ⟨op, -, -, hs⟩ | hs <;> rw [hs]

theorem target_isPrefix (ht : t.trim = t) (h : ofText? t = some a) : a.target <+: t := by
  obtain ⟨l, r, rfl, -, rfl⟩ := sides_of_ofText? h
  rcases ofSides_cases l r with ⟨op, -, hl, hs⟩ | hs
  · rw [hs]
    have hl : l.dropLast <+: l := List.dropLast_prefix l
    exact Text.trim_isPrefix_of_isPrefix ht (hl.trans (List.prefix_append l _))
  · rw [hs]
    exact Text.trim_isPrefix_of_isPrefix ht (List.prefix_append l _)

theorem value_isInfix (h : ofText? t = some a) : a.value <:+: t := by
  obtain ⟨l, r, rfl, -, rfl⟩ := sides_of_ofText? h
  rw [value_ofSides]
  exact (Text.trim_isInfix r).trans ⟨l ++ ['='], [], by simp⟩

/-- A value leaves a literal open if the assignment does. -/
theorem closed_value (h : ofText? t = some a) : a.value.closed = t.closed := by
  obtain ⟨l, r, rfl, hl, rfl⟩ := sides_of_ofText? h
  have hsign : Scan.start.step '=' = .start := by decide
  rw [value_ofSides, Text.closed_trim, Text.closed, Text.closed, Scan.past_append, hl,
    Scan.past_cons, hsign]

/-- The operators that an assignment can carry, as a list. -/
def operators : Text := ['+', '-', '*', '/', '%', '&', '|', '^']

theorem mem_operators {c : Char} (h : isOperator c = true) : c ∈ operators := by
  simpa [isOperator, operators, or_assoc] using h

theorem operator_mem (h : ofText? t = some a) {op : Char} (hop : a.operator = some op) :
    isOperator op = true := by
  obtain ⟨l, r, -, -, rfl⟩ := sides_of_ofText? h
  rcases ofSides_cases l r with ⟨op', hop', -, hs⟩ | hs
  · rw [hs] at hop
    cases hop
    exact hop'
  · rw [hs] at hop
    cases hop

end Assignment

end KScript
