import KScript.Session
import KScript.Proofs.Run.Reports
import KScript.Proofs.Sketch

/-!
# Tracing

The debug directive turns tracing on and does nothing else.  A directive is no line of the sketch, so
the lines that are transformed and their numbers stay the same, and no emission depends on the flag.
What tracing adds to the log are debug reports.
-/

namespace KScript

/-! ## The flag in a scope -/

namespace Scope

/-- The scope with tracing turned on or off. -/
def traced (s : Scope) (debug : Bool) : Scope := { s with debug := debug }

variable (s : Scope) (debug : Bool)

theorem onLine_traced (k : Nat) : (s.traced debug).onLine k = (s.onLine k).traced debug := rfl

theorem follow_traced (ts : List Text) :
    (s.traced debug).follow ts = (s.follow ts).traced debug := rfl

end Scope

theorem Statement.render_traced (keywords : Names) (s : Scope) (debug : Bool) (st : Statement) :
    st.render keywords (s.traced debug) = st.render keywords s := by
  cases st <;> rfl

namespace Emission

variable (keywords : Names) (s : Scope) (debug : Bool)

/-- What an item becomes does not depend on tracing. -/
theorem ofItem_traced (i : Item) :
    (ofItem keywords (s.traced debug) i).1 = (ofItem keywords s i).1 := by
  cases i with
  | verbatim c => rfl
  | statement t =>
    cases h : Statement.ofText t with
    | ok st =>
      rw [ofItem_of_ok _ _ h, ofItem_of_ok _ _ h, Statement.render_traced]
      rfl
    | error f =>
      rw [ofItem_of_error _ _ h, ofItem_of_error _ _ h]
      rfl

theorem replay_traced (es : List (Nat × Item)) :
    replay keywords (s.traced debug) es = replay keywords s es := by
  induction es generalizing s with
  | nil => rfl
  | cons e es ih =>
    rw [replay, replay, Scope.onLine_traced, ofItem_traced, Scope.follow_traced, ih]

end Emission

/-! ## Sketches with the same lines -/

namespace Run

variable {keywords : Names} {sketch sketch' : Sketch}

/-- The emissions are determined by the lines that are transformed. -/
theorem emissions_eq_replay (keywords : Names) (sketch : Sketch) :
    (ofSketch keywords sketch).emissions =
      Emission.replay keywords Scope.empty (schedule 1 sketch.body) := by
  rw [emissions_ofSketch]
  exact Emission.replay_traced keywords Scope.empty sketch.debug _

theorem emissions_congr (h : sketch'.body = sketch.body) :
    (ofSketch keywords sketch').emissions = (ofSketch keywords sketch).emissions := by
  rw [emissions_eq_replay, emissions_eq_replay, h]

/-- The last scopes of two runs over the same lines differ at most in tracing. -/
theorem scope_congr (h : sketch'.body = sketch.body) :
    (ofSketch keywords sketch').scope =
      (ofSketch keywords sketch).scope.traced sketch'.debug := by
  have hst : sketch'.statements = sketch.statements := by
    rw [Sketch.statements, Sketch.schedule, h]
    rfl
  rw [scope_ofSketch, scope_ofSketch, hst, h]
  rfl

theorem diagnostics_congr (h : sketch'.body = sketch.body) :
    (ofSketch keywords sketch').diagnostics = (ofSketch keywords sketch).diagnostics := by
  rw [diagnostics, diagnostics, emissions_congr h]

/-- The script is determined by the lines that are transformed. -/
theorem script_congr (h : sketch'.body = sketch.body) :
    HostScript.ofRun (ofSketch keywords sketch') = HostScript.ofRun (ofSketch keywords sketch) := by
  rw [HostScript.ofRun, HostScript.ofRun, codeLines, codeLines, emissions_congr h,
    diagnostics_congr h, scope_congr h]
  rfl

/-- Every report is about an error or belongs to the trace. -/
theorem level_of_mem_records {r : Record} (h : r ∈ (ofSketch keywords sketch).records) :
    r.level = .error ∨ r.level = .debug := by
  rcases List.mem_append.1 h with h | h
  · obtain ⟨e, hmem, he⟩ := List.mem_filterMap.1 h
    cases diagnosed_of_mem_emissions keywords sketch e hmem with
    | verbatim c => cases he
    | done k t c =>
      obtain ⟨-, hr⟩ := Option.ite_none_right_eq_some.1 he
      cases hr
      exact .inr rfl
    | failed error t =>
      cases he
      exact .inl rfl
  · obtain ⟨-, hr⟩ := List.mem_ite_nil_right.1 h
    rw [List.mem_singleton.1 hr]
    exact .inr rfl

/-- Without the trace, the reports are the diagnostics. -/
theorem filter_records :
    (ofSketch keywords sketch).records.filter (fun r => r.level ≠ .debug) =
      (ofSketch keywords sketch).diagnostics.map fun d => ⟨.error, d.display⟩ := by
  rw [← (agreement_ofSketch keywords sketch).errors]
  refine List.filter_congr fun r hr => ?_
  rcases level_of_mem_records hr with h | h <;> simp [h]

end Run

/-! ## Directives -/

namespace Sketch

/-- The lines `ls'` are the lines `ls` with directives inserted. -/
inductive InsertsDirectives : List Text → List Text → Prop
  | nil : InsertsDirectives [] []
  | keep (l : Text) {ls ls' : List Text} (h : InsertsDirectives ls ls') :
      InsertsDirectives (l :: ls) (l :: ls')
  | insert (d : Text) (hd : d.trim = directive) {ls ls' : List Text}
      (h : InsertsDirectives ls ls') : InsertsDirectives ls (d :: ls')

variable {ls ls' ks : List Text} {l : Text}

theorem InsertsDirectives.filter_eq (h : InsertsDirectives ls ls') :
    (ls'.filter fun k => !isDirective k) = ls.filter fun k => !isDirective k := by
  induction h with
  | nil => rfl
  | keep l h ih => rw [List.filter_cons, List.filter_cons, ih]
  | insert d hd h ih =>
    have hdir : isDirective d = true := beq_iff_eq.2 hd
    rw [List.filter_cons_of_neg (by simp [hdir]), ih]

/-- Directives among the inserted lines turn tracing on. -/
theorem InsertsDirectives.any_isDirective (h : InsertsDirectives ls ls') (hne : ls' ≠ ls) :
    ls'.any isDirective = true := by
  induction h with
  | nil => exact absurd rfl hne
  | keep l h ih =>
    rw [List.any_cons, ih fun he => hne (he ▸ rfl), Bool.or_true]
  | insert d hd h ih =>
    have hdir : isDirective d = true := beq_iff_eq.2 hd
    rw [List.any_cons, hdir, Bool.true_or]

/-- Directives behind the marker turn tracing on and leave the lines of the sketch as they are. -/
theorem ofRemainder_of_insertsDirectives (h : InsertsDirectives ls ls') (hne : ls' ≠ ls) :
    ofRemainder l ls' = { ofRemainder l ls with debug := true } := by
  rw [ofRemainder, ofRemainder, h.filter_eq, h.any_isDirective hne]

/-- The first line that is not blank is the line of the marker. -/
theorem Opens.exists_of_append_cons {blanks : List Text} {m : Text}
    (h : Opens l ls (blanks ++ m :: ks)) (hblanks : ∀ k ∈ blanks, k.Blank) (hm : ¬ m.Blank) :
    ∃ l, ∀ ls, Opens l ls (blanks ++ m :: ls) := by
  generalize hall : blanks ++ m :: ks = all at h
  cases h with
  | mk blanks' b hblanks' hb =>
    have hmark : ¬ Text.Blank (b ++ (marker ++ l)) := fun hbl =>
      solid_marker.not_blank fun c hc => hbl c (List.mem_append_right b (List.mem_append_left l hc))
    obtain ⟨-, rfl, -⟩ :=
      Text.append_cons_inj_of_forall hblanks hblanks' hm hmark hall
    exact ⟨l, fun ls => .mk blanks b hblanks hb⟩

end Sketch

namespace Session

variable {source source' m : Text} {blanks ls ls' : List Text}

/-- **Directives affect tracing only.**  Let a marked text have directives inserted among the lines
behind the line of its marker, which is the first line that is not blank.  The script stays the
same, the session afterwards differs in the flag of its scope, and the reports differ by debug
reports. -/
theorem directives_only_trace (s : Session) (hmarked : Sketch.isMarked source = true)
    (hlines : source.unifyBreaks.lines = blanks ++ m :: ls) (hblanks : ∀ k ∈ blanks, k.Blank)
    (hm : ¬ m.Blank) (hlines' : source'.unifyBreaks.lines = blanks ++ m :: ls')
    (hinserts : Sketch.InsertsDirectives ls ls') (hne : ls' ≠ ls) :
    (s.submit source').1 = (s.submit source).1 ∧
      (s.submit source').2.1.filter (fun r => r.level ≠ .debug) =
        (s.submit source).2.1.filter (fun r => r.level ≠ .debug) ∧
      (s.submit source').2.2 =
        { (s.submit source).2.2 with scope := (s.submit source).2.2.scope.traced true } := by
  -- Both texts open with the same line, and what stands behind it differs by directives.
  obtain ⟨l₀, ls₀, hopens⟩ := Sketch.exists_opens hmarked
  rw [hlines] at hopens
  obtain ⟨l, hl⟩ := hopens.exists_of_append_cons hblanks hm
  have h : Sketch.ofText? source = some (Sketch.ofRemainder l ls) :=
    Sketch.ofText?_of_opens (hlines ▸ hl ls)
  have h' : Sketch.ofText? source' = some (Sketch.ofRemainder l ls') :=
    Sketch.ofText?_of_opens (hlines' ▸ hl ls')
  rw [Sketch.ofRemainder_of_insertsDirectives hinserts hne] at h'
  rw [s.submit_of_sketch h, s.submit_of_sketch h']
  have hbody : { Sketch.ofRemainder l ls with debug := true }.body =
    (Sketch.ofRemainder l ls).body := rfl
  refine ⟨Run.script_congr hbody, ?_, ?_⟩
  · rw [Run.filter_records, Run.filter_records, Run.diagnostics_congr hbody]
  · rw [Run.diagnostics_congr hbody, Run.scope_congr hbody]

/-- Directives between the lines and at the end, the first one behind a break of another kind. -/
theorem directives_only_trace_mixed :
    let s := Session.start ∅
    let source : Text := "#kscript\nx = 1; = 2".toList
    let source' : Text := "#kscript\r\n #debug \rx = 1; = 2\n#debug".toList
    Sketch.isMarked source = true ∧ (s.submit source').1 = (s.submit source).1 ∧
      (s.submit source').2.1.filter (fun r => r.level ≠ .debug) =
        (s.submit source).2.1.filter (fun r => r.level ≠ .debug) ∧
      (s.submit source').2.2 =
        { (s.submit source).2.2 with scope := (s.submit source).2.2.scope.traced true } := by
  intro s source source'
  have hmarked : Sketch.isMarked source = true := by decide
  have hlines : source.unifyBreaks.lines =
    [] ++ "#kscript".toList :: ["x = 1; = 2".toList] := by decide
  have hlines' : source'.unifyBreaks.lines =
    [] ++ "#kscript".toList :: [" #debug ".toList, "x = 1; = 2".toList, "#debug".toList] := by
    decide
  have hinserts : Sketch.InsertsDirectives ["x = 1; = 2".toList]
      [" #debug ".toList, "x = 1; = 2".toList, "#debug".toList] :=
    .insert _ (by decide) (.keep _ (.insert _ (by decide) .nil))
  exact ⟨hmarked, directives_only_trace s hmarked hlines (List.forall_mem_nil _)
    Sketch.solid_marker.not_blank hlines' hinserts (by decide)⟩

end Session

end KScript
