import KScript.Proofs.Contents.Statements
import KScript.Proofs.Run.BoundNames
import KScript.Proofs.Session.Histories

/-!
# What literals say in a session

A session whose built-in names are identifiers knows no other names, and no name that it knows holds a
literal.  So what the literals of a statement say shows in the literals of its code only.
-/

namespace KScript

open Text

/-! ## Names that are bound -/

theorem Statement.isIdentifier_of_mem_binds {st : Statement} {n : Text} (h : n ∈ st.binds) :
    n.isIdentifier = true := by
  cases st with
  | opener o =>
    cases o with
    | draw =>
      rw [List.mem_singleton.1 h]
      decide
    | plain => cases h
    | withParameters => exact (List.mem_filter.1 h).2
  | assign => exact (List.mem_filter.1 h).2
  | blockEnd | controlEnd | control | update | expression => cases h

theorem Statement.names_after {st : Statement} {s : Scope} {n : Text} (h : n ∈ (st.after s).names) :
    n ∈ s.names ∨ n ∈ st.binds := by
  cases st with
  | blockEnd => exact .inl h
  | opener | controlEnd | control | assign | update | expression => exact Names.mem_addAll.1 h

namespace Session

variable {s : Session}

/-- A request binds identifiers only. -/
theorem isIdentifier_of_mem_names_next (h : ∀ n ∈ s.scope.names, n.isIdentifier = true)
    (r : Request) : ∀ n ∈ (s.next r).scope.names, n.isIdentifier = true := by
  intro n hn
  cases r with
  | submit source =>
    rw [next] at hn
    cases hsketch : Sketch.ofText? source with
    | none =>
      have hmarked : Sketch.isMarked source = false := by simpa [Sketch.ofText?] using hsketch
      rw [s.submit_of_not_isMarked hmarked] at hn
      exact h n hn
    | some sketch =>
      rw [s.submit_of_sketch hsketch] at hn
      obtain ⟨t, -, ht⟩ := (Run.mem_names_ofSketch s.keywords sketch).1 hn
      exact ht.isIdentifier
  | transform t =>
    rw [next, transform, Scope.transform] at hn
    cases ht : Statement.ofText t with
    | error f =>
      rw [ht] at hn
      exact h n hn
    | ok st =>
      rw [ht] at hn
      rcases Statement.names_after hn with hn | hn
      · exact h n hn
      · exact Statement.isIdentifier_of_mem_binds hn
  | reduce | addKeywords | isKeyword => exact h n hn

/-- **Only identifiers are bound**, whatever a session is asked for. -/
theorem isIdentifier_of_mem_names_afterAll (h : ∀ n ∈ s.scope.names, n.isIdentifier = true)
    (rs : List Request) : ∀ n ∈ (s.afterAll rs).scope.names, n.isIdentifier = true := by
  induction rs generalizing s with
  | nil => exact h
  | cons r rs ih => exact ih (isIdentifier_of_mem_names_next h r)

/-- What a session knows holds no literal, if its built-in names are identifiers. -/
theorem inert_of_knows (hkeywords : ∀ n ∈ s.keywords, n.isIdentifier = true)
    (hnames : ∀ n ∈ s.scope.names, n.isIdentifier = true) {n : Text}
    (h : s.scope.knows s.keywords n = true) : n.Inert := by
  rcases Bool.or_eq_true_iff.1 h with hn | hn
  · exact inert_of_isIdentifier (hkeywords n (Std.ExtTreeSet.contains_iff_mem.1 hn))
  · exact inert_of_isIdentifier (hnames n (Std.ExtTreeSet.contains_iff_mem.1 hn))

/-! ## Statements -/

variable {t t' : Text}

/-- **What literals say does not matter.**  Take a session after any history, whose built-in names are
identifiers, and two closed statements that differ only at ordinary characters of literals.  If they
are simple, let them have no characters there that are looked for in the literals of values; if they
open a block, let no literal of them hide a comma.  Then both fail in the same stage or both succeed,
they leave the same session behind, and their code is the same once the ordinary characters of its
literals are replaced. -/
theorem contents_do_not_matter (keywords : Names) (rs : List Request)
    (hkeywords : ∀ n ∈ ((start keywords).afterAll rs).keywords, n.isIdentifier = true)
    (h : Text.Alike (fun _ => true) t t')
    (hsimple : Statement.isSimple t.trim = true → Text.Alike Statement.mayVary t t')
    (hopener : Statement.isOpener t.trim = true →
      hides ',' .start t = false ∧ hides ',' .start t' = false) :
    let s := (start keywords).afterAll rs
    (s.transform t).2 = (s.transform t').2 ∧
      ((∃ e e', (s.transform t).1 = .error e ∧ (s.transform t').1 = .error e' ∧ e.kind = e'.kind) ∨
        ∃ c c', (s.transform t).1 = .ok c ∧ (s.transform t').1 = .ok c' ∧
          ∀ p, Scan.start.masked p c = Scan.start.masked p c') := by
  intro s
  have hempty : ∀ n ∈ (start keywords).scope.names, n.isIdentifier = true :=
    fun n hn => absurd hn Std.ExtTreeSet.not_mem_empty
  have hnames := isIdentifier_of_mem_names_afterAll hempty rs
  obtain ⟨hsession, hcode⟩ :=
    s.transform_alike (fun n => inert_of_knows hkeywords hnames) h hsimple hopener
  exact ⟨hsession, hcode.imp_right fun ⟨c, c', hc, hc', halike⟩ =>
    ⟨c, c', hc, hc', halike.scan.masked_eq⟩⟩

/-- A separator, a blank and an equals sign in a literal, inside a block. -/
theorem contents_do_not_matter_call :
    let s := (start ∅).afterAll [.transform "draw:".toList]
    let t : Text := "x = say \"a, b\" y".toList
    let t' : Text := "x = say \"c=:;\" y".toList
    Text.Alike Statement.mayVary t t' ∧ (s.transform t).2 = (s.transform t').2 ∧
      (s.transform t).1 = .ok "let x = say(\"a, b\", \"y\");".toList ∧
      ∃ c', (s.transform t').1 = .ok c' ∧
        ∀ p, Scan.start.masked p "let x = say(\"a, b\", \"y\");".toList =
          Scan.start.masked p c' := by
  intro s t t'
  have halike : Text.Alike Statement.mayVary t t' := ⟨by decide, by decide⟩
  have hany : Text.Alike (fun _ => true) t t' := halike.mono fun _ _ => rfl
  have hkeywords : ∀ n ∈ s.keywords, n.isIdentifier = true :=
    fun n hn => absurd hn Std.ExtTreeSet.not_mem_empty
  have hopener : ¬ Statement.isOpener t.trim = true := by decide
  have hcode : (s.transform t).1 = .ok "let x = say(\"a, b\", \"y\");".toList := by decide
  obtain ⟨hsession, ⟨e, -, he, -⟩ | ⟨c, c', hc, hc', hmasked⟩⟩ :=
    contents_do_not_matter ∅ [.transform "draw:".toList] hkeywords hany (fun _ => halike)
      fun ho => absurd ho hopener
  · rw [hcode] at he
    cases he
  · rw [hcode] at hc
    cases hc
    exact ⟨halike, hsession, hcode, c', hc', hmasked⟩

/-- Parentheses are looked for in literals as well: a value with a literal that holds both is taken as
it stands. -/
theorem contents_matter_parentheses :
    let s := start ∅
    let t : Text := "say \"ab\" x".toList
    let t' : Text := "say \"()\" x".toList
    Text.Alike (fun _ => true) t t' ∧
      (s.transform t).1 = .ok "say(\"ab\", \"x\");".toList ∧
      (s.transform t').1 = .ok "say \"()\" x;".toList ∧
      Scan.start.masked '_' "say(\"ab\", \"x\");".toList ≠
        Scan.start.masked '_' "say \"()\" x;".toList :=
  ⟨⟨by decide, by decide⟩, by decide, by decide, by decide⟩

end Session

end KScript
