import KScript.Proofs.Session.Contents

/-!
# Statements carried out step by step

A statement can be carried out in a session by steps that change it one after the other, and what was
changed before a failure stays changed.  But a value is read before its target is bound, and nothing fails
behind a step that changes the session.  So a statement that fails leaves everything as it was, and one that
succeeds changes no more than the names and the flag.
-/

namespace KScript

open Text

/-! ## Steps -/

/-- A session with the reports that it has made so far. -/
structure Logged where
  session : Session
  log : List Record

/-- The session with its scope replaced. -/
def Logged.withScope (l : Logged) (scope : Scope) : Logged :=
  { l with session := { l.session with scope := scope } }

theorem Logged.withScope_bindAll_nil (l : Logged) :
    l.withScope (l.session.scope.bindAll []) = l := by
  rw [Scope.bindAll_nil]
  rfl

/-- A part of the work on a statement.  It may fail, and what it has changed by then stays changed. -/
abbrev Step (α : Type) : Type := ExceptT StatementError (StateM Logged) α

namespace Step

variable {α : Type}

/-- Reads the scope. -/
def scope : Step Scope := return (← get).session.scope

/-- Replaces the scope. -/
def setScope (scope : Scope) : Step Unit := modify (·.withScope scope)

/-- Fails on the current line. -/
def fail (f : Fault) : Step α := do throw (f.on (← scope).line)

/-- Binds a name, and tells whether it is new. -/
def declare (n : Text) : Step Bool := do
  let (new, scope) := (← scope).bind n
  setScope scope
  return new

/-- Reduces a value. -/
def reduce (v : Text) : Step Text := do liftExcept ((← get).session.reduce v)

/-- Binds several names one by one. -/
def declareAll : List Text → Step Unit
  | [] => return
  | n :: ns => do
    discard (declare n)
    declareAll ns

/-- Binds the names of a block, and enters it. -/
def openBlock (o : Opener) : Step Text := do
  declareAll o.binds
  setScope (← scope).inside
  return o.render

/-- Binds the target of an assignment if it is an identifier, and tells the word before it. -/
def bindTarget (target : Text) : Step Text := do
  if !target.isIdentifier then return []
  else if (← scope).inBlock then
    if ← declare target then return "let ".toList else return []
  else
    discard (declare target)
    return "var ".toList

/-- Assigns a value to a target, which is bound once the value is reduced. -/
def assign (a : Assignment) : Step Text :=
  if a.target.isEmpty then fail .missingTarget
  else do
    let w ← reduce a.value
    match a.operator with
    | some op => return a.target ++ ' ' :: op :: "= ".toList ++ w ++ [';']
    | none => return (← bindTarget a.target) ++ a.target ++ " = ".toList ++ w ++ [';']

/-- Carries out a trimmed statement. -/
def carryOut (t : Text) : Step Text :=
  match t.dropSuffix? [':'] with
  | some header => openBlock (.ofHeader header.trim)
  | none =>
    if Statement.blockClosers.contains t then do
      setScope (← scope).outside
      return ['\x7d']
    else if Statement.controlClosers.contains t then return ['\x7d']
    else match Control.ofText? t with
    | some c => return c.render
    | none => match Assignment.ofText? t with
      | some a => assign a
      | none => return (← reduce t) ++ [';']

/-! ## What the steps do -/

variable {β : Type} {l : Logged}

/-- What follows a step is carried out where the step has arrived, unless it failed there. -/
theorem run_bind (x : Step α) (f : α → Step β) : (x >>= f).run.run l =
    match x.run.run l with
    | (.ok a, l') => (f a).run.run l'
    | (.error e, l') => (.error e, l') := by
  simp only [ExceptT.run_bind, StateT.run_bind]
  rcases x.run.run l with ⟨a | e, l'⟩ <;> rfl

theorem run_scope : scope.run.run l = (.ok l.session.scope, l) := rfl

theorem run_declare (n : Text) : (declare n).run.run l =
    (.ok (!l.session.scope.binds n), l.withScope (l.session.scope.bindAll [n])) := rfl

theorem run_reduce (v : Text) : (reduce v).run.run l = (l.session.reduce v, l) := by
  change (liftExcept (l.session.reduce v) : Step Text).run.run l = _
  cases l.session.reduce v <;> rfl

/-- Names that are bound one by one are bound together. -/
theorem run_declareAll (ns : List Text) :
    (declareAll ns).run.run l = (.ok (), l.withScope (l.session.scope.bindAll ns)) := by
  induction ns generalizing l with
  | nil => exact congrArg (Prod.mk _) l.withScope_bindAll_nil.symm
  | cons n ns ih =>
    have hfirst : (declareAll (n :: ns)).run.run l =
        (declareAll ns).run.run (l.withScope (l.session.scope.bindAll [n])) := rfl
    have hnames : (l.session.scope.bindAll [n]).bindAll ns = l.session.scope.bindAll (n :: ns) := by
      simp only [Scope.bindAll, Names.addAll_addAll, List.singleton_append]
    rw [hfirst, ih, ← hnames]
    rfl

theorem run_openBlock (o : Opener) : (openBlock o).run.run l =
    (.ok o.render, l.withScope (l.session.scope.bindAll o.binds).inside) := by
  rw [openBlock, run_bind, run_declareAll]
  rfl

theorem run_bindTarget (target : Text) : (bindTarget target).run.run l =
    (.ok (Statement.declarator l.session.scope target),
      l.withScope (l.session.scope.bindAll ([target].filter Text.isIdentifier))) := by
  unfold bindTarget Statement.declarator
  cases hi : target.isIdentifier with
  | false =>
    rw [List.filter_cons_of_neg (by simp [hi]), List.filter_nil, l.withScope_bindAll_nil]
    rfl
  | true =>
    rw [List.filter_cons_of_pos hi, List.filter_nil]
    simp only [Bool.not_true, Bool.false_eq_true, if_false, run_bind, run_scope]
    cases hb : l.session.scope.inBlock with
    | false => rfl
    | true =>
      simp only [Bool.not_true, Bool.false_eq_true, if_false, if_true, run_bind, run_declare]
      cases l.session.scope.binds target <;> rfl

/-- An assignment fails before it binds its target. -/
theorem run_assign (a : Assignment) : (assign a).run.run l =
    match located l.session.scope.line (Statement.ofAssignment a) with
    | .ok st => (.ok (st.render l.session.keywords l.session.scope),
        l.withScope (st.after l.session.scope))
    | .error e => (.error e, l) := by
  unfold assign Statement.ofAssignment
  split
  · rfl
  · rw [run_bind, run_reduce, Session.reduce, Scope.reduce]
    cases Value.ofText a.value with
    | error f => rfl
    | ok value =>
      cases a.operator with
      | some op => exact congrArg (Prod.mk _) l.withScope_bindAll_nil.symm
      | none =>
        simp only [Except.map, located, run_bind, run_bindTarget]
        rfl

/-- **Carrying out a statement step by step is transforming it**, and nothing is reported on the way. -/
theorem run_carryOut (t : Text) : (carryOut t.trim).run.run l =
    ((l.session.transform t).1, { l with session := (l.session.transform t).2 }) := by
  unfold carryOut Session.transform Scope.transform Statement.ofText Statement.ofTrimmed
  -- The steps of a statement are told apart by the tests of the reader, in the same order.
  cases t.trim.dropSuffix? [':'] with
  | some header => exact run_openBlock _
  | none =>
    dsimp only
    split
    · rfl
    · split
      · exact congrArg (Prod.mk _) l.withScope_bindAll_nil.symm
      · cases Control.ofText? t.trim with
        | some c => exact congrArg (Prod.mk _) l.withScope_bindAll_nil.symm
        | none =>
          cases Assignment.ofText? t.trim with
          | some a =>
            dsimp only
            rw [run_assign]
            cases Statement.ofAssignment a <;> rfl
          | none =>
            dsimp only
            rw [run_bind, run_reduce, Session.reduce, Scope.reduce]
            cases Value.ofText t.trim with
            | error f => rfl
            | ok value => exact congrArg (Prod.mk _) l.withScope_bindAll_nil.symm

end Step

/-! ## What a statement changes -/

namespace Statement

variable {u : Text} {st : Statement}

/-- Openers and block closers set the flag, and nothing else does. -/
theorem Form.inBlock_after (hf : Form u st) (s : Scope) : (st.after s).inBlock =
    if isOpener u then true else if isBlockCloser u then false else s.inBlock := by
  cases hf with
  | opener h ht =>
    rw [if_pos (isOpener_iff.2 ⟨h, ht⟩)]
    rfl
  | blockEnd ho hb =>
    rw [if_neg (Bool.eq_false_iff.1 ho), if_pos hb]
    rfl
  | controlEnd ho hb | control _ ho hb =>
    rw [if_neg (Bool.eq_false_iff.1 ho), if_neg (Bool.eq_false_iff.1 hb)]
    rfl
  | assign _ _ _ hs | update _ _ _ _ hs | expression _ hs =>
    obtain ⟨ho, hb, -⟩ := isSimple_iff.1 hs
    rw [if_neg (Bool.eq_false_iff.1 ho), if_neg (Bool.eq_false_iff.1 hb)]
    rfl

theorem names_subset_after (s : Scope) (st : Statement) {n : Text} (hn : n ∈ s.names) :
    n ∈ (st.after s).names := by
  cases st with
  | blockEnd => exact hn
  | opener | controlEnd | control | assign | update | expression => exact Names.mem_addAll.2 (.inl hn)

theorem debug_after (s : Scope) (st : Statement) : (st.after s).debug = s.debug := by
  cases st <;> rfl

end Statement

namespace Session

variable {s : Session} {t : Text}

/-- What transforming a statement can do to a session: nothing, with a fault on the current line, or what
the form of the statement does to the scope. -/
inductive Transforms (s : Session) (t : Text) : Except StatementError Text × Session → Prop
  | failed (f : Fault) : Transforms s t (.error (f.on s.scope.line), s)
  | done (st : Statement) (hf : Statement.Form t.trim st) :
      Transforms s t
        (.ok (st.render s.keywords s.scope), { s with scope := st.after s.scope })

theorem transforms (s : Session) (t : Text) : Transforms s t (s.transform t) := by
  have hreads := Statement.reads_ofTrimmed t.trim
  unfold transform Scope.transform Statement.ofText
  cases hof : Statement.ofTrimmed t.trim with
  | error f => exact .failed f
  | ok st =>
    rw [hof] at hreads
    exact .done st hreads.form

end Session

/-! ## Diagnostics of a session -/

/-- Whether a request submits a text. -/
def Request.isSubmit : Request → Bool
  | submit _ => true
  | transform _ | reduce _ | addKeywords _ | isKeyword _ => false

namespace Session

variable {s : Session} {rs : List Request}

theorem afterAll_append (s : Session) (rs rs' : List Request) :
    s.afterAll (rs ++ rs') = (s.afterAll rs).afterAll rs' := List.foldl_append

/-- Only submitting a text changes the diagnostics. -/
theorem diagnostics_next (r : Request) (h : r.isSubmit = false) :
    (s.next r).diagnostics = s.diagnostics := by
  cases r with
  | submit => cases h
  | transform t =>
    have htransforms := s.transforms t
    rw [next]
    generalize s.transform t = answer at htransforms ⊢
    cases htransforms <;> rfl
  | reduce | addKeywords | isKeyword => rfl

theorem diagnostics_afterAll (h : ∀ r ∈ rs, r.isSubmit = false) :
    (s.afterAll rs).diagnostics = s.diagnostics := by
  induction rs generalizing s with
  | nil => rfl
  | cons r rs ih =>
    obtain ⟨hr, hrs⟩ := List.forall_mem_cons.1 h
    rw [afterAll, List.foldl_cons, ← afterAll, ih hrs, diagnostics_next r hr]

/-- A session holds the diagnostics that were found in the text. -/
theorem diagnostics_submit (s : Session) (source : Text) :
    (s.next (.submit source)).diagnostics = (s.submit source).1.diagnostics := by
  rw [next, submit, after, HostScript.ofText]
  cases Run.ofText? s.keywords source <;> rfl

/-- **A statement changes what it may, or nothing.**  Transforming a statement is carrying it out step by
step, where every change stays, and nothing is reported.  If it fails, it does so on the current line, in
one of the two stages, and the scope is as it was.  If it succeeds, line and tracing are as they were; names
are only added, and only identifiers; and an opener leaves the scope inside a block, a block closer leaves
it outside, and any other statement where it was.  Built-in names and diagnostics are as they were in both
cases, so a session holds the diagnostics of the text that was submitted last. -/
theorem transform_changes_scope_only (s : Session) (t : Text) :
    let u := t.trim
    let outcome := (s.transform t).1
    let after := (s.transform t).2
    (∀ log, (Step.carryOut u).run.run ⟨s, log⟩ = (outcome, ⟨after, log⟩)) ∧
      (∀ e, outcome = .error e → after.scope = s.scope ∧ e.line = s.scope.line ∧
        (e.display = s!"Split error on line {s.scope.line}: {e.message}" ∨
          e.display = s!"Value processing error on line {s.scope.line}: {e.message}")) ∧
      (∀ code, outcome = .ok code →
        (after.scope.line = s.scope.line ∧ after.scope.debug = s.scope.debug) ∧
        ((∀ n ∈ s.scope.names, n ∈ after.scope.names) ∧
          ∀ n ∈ after.scope.names, n ∉ s.scope.names → n.isIdentifier = true) ∧
        after.scope.inBlock = if Statement.isOpener u then true
          else if Statement.isBlockCloser u then false else s.scope.inBlock) ∧
      (after.keywords = s.keywords ∧ after.diagnostics = s.diagnostics) ∧
      ∀ rs, (∀ r ∈ rs, r.isSubmit = false) → (s.afterAll rs).diagnostics = s.diagnostics ∧
        ∀ before source, (s.afterAll (before ++ .submit source :: rs)).diagnostics =
          ((s.afterAll before).submit source).1.diagnostics := by
  intro u outcome after
  have hrun : ∀ log, (Step.carryOut u).run.run ⟨s, log⟩ = (outcome, ⟨after, log⟩) :=
    fun log => Step.run_carryOut t
  have hdiagnostics : ∀ rs, (∀ r ∈ rs, r.isSubmit = false) →
      (s.afterAll rs).diagnostics = s.diagnostics ∧
        ∀ before source, (s.afterAll (before ++ .submit source :: rs)).diagnostics =
          ((s.afterAll before).submit source).1.diagnostics := by
    intro rs hrs
    refine ⟨diagnostics_afterAll hrs, fun before source => ?_⟩
    rw [afterAll_append, afterAll, List.foldl_cons, ← afterAll, diagnostics_afterAll hrs,
      diagnostics_submit]
  have htransforms : Transforms s t (outcome, after) := s.transforms t
  generalize outcome = o, after = s' at hrun htransforms ⊢
  refine ⟨hrun, ?_, ?_, ?_, hdiagnostics⟩
  · intro e he
    cases htransforms with
    | failed f =>
      cases he
      refine ⟨rfl, rfl, ?_⟩
      cases f with
      | unterminatedLiteral => exact .inl rfl
      | missingCallee | missingTarget => exact .inr rfl
    | done => cases he
  · intro code hcode
    cases htransforms with
    | failed => cases hcode
    | done st hf =>
      refine ⟨⟨st.line_after s.scope, st.debug_after s.scope⟩, ⟨?_, ?_⟩, hf.inBlock_after s.scope⟩
      · exact fun n hn => st.names_subset_after s.scope hn
      · intro n hn hnew
        exact Statement.isIdentifier_of_mem_binds ((Statement.names_after hn).resolve_left hnew)
  · cases htransforms <;> exact ⟨rfl, rfl⟩

/-- A block with three parameters, of which one is no identifier and one has a default value; in it an
assignment whose value leaves a literal open; and a history with a failure in its only text. -/
theorem transform_changes_scope_only_block :
    let s : Session := ⟨∅, ⟨.ofList ["x".toList], false, 3, true⟩, []⟩
    let opener : Text := " block f, a, 1b, c = 2: ".toList
    let bad : Text := "y = say \"oops".toList
    let source : Text := "#kscript\n, 1".toList
    let inside := (s.transform opener).2
    ((s.transform opener).1 = .ok "function f(a, 1b, c = 2) \x7b".toList ∧
      inside.scope.inBlock = true ∧ inside.scope.line = 3 ∧ "x".toList ∈ inside.scope.names ∧
      ∀ n ∈ inside.scope.names, n ∉ s.scope.names → n.isIdentifier = true) ∧
    (∃ e, (inside.transform bad).1 = .error e ∧ e.line = 3 ∧
      (inside.transform bad).2.scope = inside.scope) ∧
    (s.afterAll [.reduce bad, .submit source, .transform opener, .addKeywords [bad]]).diagnostics =
      ((s.afterAll [.reduce bad]).submit source).1.diagnostics := by
  intro s opener bad source inside
  have hopener : (s.transform opener).1 = .ok "function f(a, 1b, c = 2) \x7b".toList := by decide
  have hbad : (inside.transform bad).1 =
      .error ⟨.split, 3, (Fault.unterminatedLiteral "say \"oops".toList).message⟩ := rfl
  have hnone : ∀ r ∈ [Request.transform opener, .addKeywords [bad]], r.isSubmit = false := by
    simp [Request.isSubmit]
  obtain ⟨-, -, hok, -, hhistory⟩ := transform_changes_scope_only s opener
  obtain ⟨-, herror, -⟩ := transform_changes_scope_only inside bad
  obtain ⟨⟨hline, -⟩, ⟨hkept, hadded⟩, hflag⟩ := hok _ hopener
  obtain ⟨hscope, hbadline, -⟩ := herror _ hbad
  refine ⟨⟨hopener, hflag.trans (if_pos (by decide)), hline, hkept _ (by simp [s]), hadded⟩,
    ⟨_, hbad, hbadline.trans hline, hscope⟩, (hhistory _ hnone).2 [.reduce bad] source⟩

end Session

end KScript
