import KScript.Statement.Rendering
import KScript.Proofs.Statement.Assignment
import KScript.Proofs.Statement.Binding
import KScript.Proofs.Value

/-!
# The words before an assigned name

The code of an assignment is its target between an optional declarator and the value.  A line that
begins by declaring a name with `let` comes from an assignment to that name, or from a statement in
which the author wrote the `let`.
-/

namespace KScript

namespace Statement

open Text

variable {t n : Text} {keywords : Names} {s : Scope}

/-! ## Code of assignments -/

/-- What the code of an assignment begins with, after its declarator. -/
def assignHead (n : Text) : Text := n ++ " = ".toList

/-- What a line of code begins with that declares a name with `let`. -/
def letHead (n : Text) : Text := "let ".toList ++ assignHead n

/-- The code of an assignment: its declarator, its head and its value. -/
theorem render_assign (keywords : Names) (s : Scope) (target : Text) (value : Value) :
    render keywords s (.assign target value) =
      declarator s target ++ assignHead target ++ (value.render (s.knows keywords) ++ [';']) := by
  simp [render, assignHead]

/-- The code of a combining assignment has no declarator. -/
theorem render_update (keywords : Names) (s : Scope) (target : Text) (op : Char) (value : Value) :
    render keywords s (.update target op value) =
      target ++ ' ' :: op :: ("= ".toList ++ value.render (s.knows keywords) ++ [';']) := by
  simp [render]

theorem declarator_of_not_isIdentifier (h : n.isIdentifier = false) : declarator s n = [] := by
  simp [declarator, h]

theorem declarator_outside (h : n.isIdentifier = true) (hb : s.inBlock = false) :
    declarator s n = "var ".toList := by
  simp [declarator, h, hb]

theorem declarator_first (h : n.isIdentifier = true) (hb : s.inBlock = true)
    (hn : s.binds n = false) : declarator s n = "let ".toList := by
  simp [declarator, h, hb, hn]

theorem declarator_again (h : n.isIdentifier = true) (hb : s.inBlock = true)
    (hn : s.binds n = true) : declarator s n = [] := by
  simp [declarator, h, hb, hn]

/-- A declarator and what decides it. -/
theorem declarator_cases (s : Scope) (n : Text) :
    declarator s n = [] ∨
      declarator s n = "var ".toList ∧ n.isIdentifier = true ∧ s.inBlock = false ∨
      declarator s n = "let ".toList ∧ n.isIdentifier = true ∧ s.inBlock = true ∧
        s.binds n = false := by
  unfold declarator
  cases n.isIdentifier <;> cases s.inBlock <;> cases s.binds n <;> simp

/-- The assignment of an identifier stands without declarator only to a bound name in a block. -/
theorem of_assignHead_prefix_declarator (h : n.isIdentifier = true) {r : Text}
    (hp : assignHead n <+: declarator s n ++ assignHead n ++ r) :
    s.inBlock = true ∧ s.binds n = true := by
  have hn := not_mem_of_isIdentifier h
  have word (w : Text) (hw : ' ' ∉ w) (hd : declarator s n = w ++ [' ']) : False := by
    obtain ⟨x, hx⟩ := hp
    have heq : n ++ ' ' :: ('=' :: ' ' :: x) = w ++ ' ' :: (assignHead n ++ r) := by
      rw [hd] at hx
      simpa [assignHead] using hx
    obtain ⟨rfl, hr⟩ := append_cons_inj_of_not_mem hn hw heq
    obtain ⟨c, m, rfl, hc⟩ := exists_cons_of_isIdentifier h
    have hceq : '=' = c := (List.cons.inj hr).1
    subst hceq
    exact absurd hc (by decide)
  cases hb : s.inBlock with
  | false => exact (word "var".toList (by decide) (declarator_outside h hb)).elim
  | true =>
    refine ⟨rfl, ?_⟩
    by_contra hs
    exact word "let".toList (by decide) (declarator_first h hb (Bool.not_eq_true _ ▸ hs))

/-! ## Code that begins with a declaration -/

variable {u : Text}

/-- What begins with a declaration begins with the word `let` and the first character of a name. -/
theorem exists_of_letHead_prefix (h : n.isIdentifier = true) (hp : letHead n <+: u) :
    ∃ c r, u = "let ".toList ++ c :: r ∧ isIdentifierStart c = true := by
  obtain ⟨c, m, rfl, hc⟩ := exists_cons_of_isIdentifier h
  obtain ⟨r, rfl⟩ := hp
  exact ⟨c, m ++ " = ".toList ++ r, by simp [letHead, assignHead], hc⟩

/-- If a text and what follows it begin with a declaration, the `let` is part of the text. -/
theorem let_prefix_of_append {d : Char} {r : Text} (h : n.isIdentifier = true)
    (hd : d ∉ "let".toList) (hr : d = ' ' → ∀ c, r.head? = some c → isIdentifierStart c = false)
    (hp : letHead n <+: u ++ d :: r) : "let ".toList <+: u := by
  obtain ⟨c, x, hx, hc⟩ := exists_of_letHead_prefix h hp
  match u with
  | [] =>
    cases hx
    exact absurd hd (by decide)
  | [_] =>
    cases hx
    exact absurd hd (by decide)
  | [_, _] =>
    cases hx
    exact absurd hd (by decide)
  | [_, _, _] =>
    cases hx
    exact absurd hc (by simp [hr rfl c rfl])
  | _ :: _ :: _ :: _ :: v =>
    obtain ⟨rfl, rfl, rfl, rfl, -⟩ := by simpa using hx
    exact ⟨v, rfl⟩

/-- Code without declarator begins with `let` only if the target does. -/
theorem let_prefix_of_assignHead {r : Text} (h : n.isIdentifier = true)
    (hp : letHead n <+: assignHead u ++ r) : "let ".toList <+: u := by
  refine let_prefix_of_append (d := ' ') (r := '=' :: ' ' :: r) h (by decide) ?_ ?_
  · rintro - c hc
    cases hc
    decide
  · simpa [assignHead] using hp

theorem let_prefix_of_update {op : Char} {r : Text} (h : n.isIdentifier = true)
    (ho : Assignment.isOperator op = true) (hp : letHead n <+: u ++ ' ' :: op :: r) :
    "let ".toList <+: u := by
  refine let_prefix_of_append h (by decide) ?_ hp
  rintro - c hc
  cases hc
  have hstart : Assignment.operators.all (fun d => !isIdentifierStart d) = true := by decide
  have hop := List.all_eq_true.1 hstart op (Assignment.mem_operators ho)
  rwa [Bool.not_eq_true'] at hop

/-- The code of a value begins with a declaration only if the value begins with `let`. -/
theorem let_prefix_of_render {v r : Text} {value : Value} {known : Text → Bool}
    (h : n.isIdentifier = true) (hv : Value.Reads v value)
    (hp : letHead n <+: value.render known ++ ';' :: r) : "let ".toList <+: v := by
  rcases hv.render_cases known with ⟨x, hx⟩ | hpre | ⟨f, x, hf, hx⟩
  · rw [hx] at hp
    exact absurd (List.cons_prefix_cons.1 hp).1 (by decide)
  · exact (let_prefix_of_append h (by decide) (fun hs => absurd hs (by decide)) hp).trans hpre
  · rw [hx, List.append_assoc] at hp
    exact (let_prefix_of_append h (by decide) (fun hs => absurd hs (by decide)) hp).trans hf

/-- A declaration begins with the letter that `let` begins with. -/
theorem head_of_letHead_prefix (hp : letHead n <+: u) : u.head? = some 'l' := by
  obtain ⟨x, rfl⟩ := hp
  rfl

/-- An identifier is declared with `let` only if it is not bound. -/
theorem of_letHead_prefix_declarator {r : Text} (h : n.isIdentifier = true)
    (hp : letHead n <+: declarator s n ++ assignHead n ++ r) : s.binds n = false := by
  rcases declarator_cases s n with hd | ⟨hd, -⟩ | ⟨-, -, -, hb⟩
  · rw [hd] at hp
    have hl := let_prefix_of_assignHead h hp
    exact absurd (hl.subset (by decide)) (not_mem_of_isIdentifier h)
  · rw [hd] at hp
    cases head_of_letHead_prefix hp
  · exact hb

/-- The code of a statement begins with a declaration only if the statement assigns to the name for
the first time in a block, or begins with `let` itself. -/
theorem Form.let_cases {st : Statement} (hf : Form t st) (ht : t.trim = t)
    (h : n.isIdentifier = true) (hp : letHead n <+: st.render keywords s) :
    (∃ v, IsAssignment t n v) ∨ "let ".toList <+: t := by
  cases hf with
  | opener header hh =>
    have hl := head_of_letHead_prefix hp
    cases hh : Opener.ofHeader header.trim <;> rw [hh] at hl <;> cases hl
  | blockEnd | controlEnd => cases head_of_letHead_prefix hp
  | control c _ _ hc =>
    have hl := head_of_letHead_prefix hp
    cases c <;> cases hl
  | assign target v value hs ha =>
    rw [render_assign] at hp
    rcases declarator_cases s target with hd | ⟨hd, -⟩ | ⟨hd, hi, -⟩
    · rw [hd] at hp
      exact .inr ((let_prefix_of_assignHead h hp).trans (Assignment.target_isPrefix ht ha))
    · rw [hd] at hp
      cases head_of_letHead_prefix hp
    · rw [hd] at hp
      left
      obtain ⟨x, hx⟩ := hp
      have heq : n ++ ' ' :: ('=' :: ' ' :: x) =
          target ++ ' ' :: ('=' :: ' ' :: (value.render (s.knows keywords) ++ [';'])) := by
        simpa [letHead, assignHead] using hx
      obtain ⟨rfl, -⟩ :=
        append_cons_inj_of_not_mem (not_mem_of_isIdentifier h) (not_mem_of_isIdentifier hi) heq
      exact ⟨v, hs, ha⟩
  | update target v op value hs ha =>
    have ho := Assignment.operator_mem ha rfl
    rw [render_update] at hp
    exact .inr ((let_prefix_of_update h ho hp).trans (Assignment.target_isPrefix ht ha))
  | expression value hs _ hv =>
    have hreads := Value.reads_of_ofText hv
    rw [ht] at hreads
    exact .inr (let_prefix_of_render h hreads hp)

end Statement

/-- Whether a value can be read does not depend on the scope. -/
theorem Scope.reduce_eq_ok_iff {s : Scope} {keywords : Names} {v w : Text} :
    s.reduce keywords v = .ok w ↔
      ∃ value, Value.ofText v = .ok value ∧ w = value.render (s.knows keywords) := by
  unfold reduce
  cases hv : Value.ofText v with
  | error f => simp [located, Except.map]
  | ok value => simp [located, Except.map, eq_comm]

end KScript
