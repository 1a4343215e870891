import KScript.Proofs.Run.Replay

/-!
# Diagnostics, reports and code

The failed statements of a run show in three places: as diagnostics, as reports, and as comment
lines of the code.  A failure without a diagnostic would be reported in its own words and show in two
of them only.  No statement fails in that way, so the three agree one by one and in order.
-/

namespace KScript

/-- An error carries the line of the scope. -/
theorem Scope.line_of_transform_eq_error {s : Scope} {keywords : Names} {t : Text}
    {error : StatementError} (h : s.transform keywords t = .error error) : error.line = s.line := by
  unfold transform at h
  cases hr : Statement.ofText t with
  | ok st =>
    rw [hr] at h
    cases h
  | error f =>
    rw [hr] at h
    cases h
    rfl

namespace Emission

/-- The report of a traced run about a statement. -/
inductive Traces : Emission → Record → Prop
  | done (k : Nat) (t c : Text) :
      Traces (.done k t c) ⟨.debug, s!"line {k}: {String.ofList t} => {String.ofList c}"⟩
  | failed {k : Nat} {t : Text} {f : Failure} {d : Diagnostic} (hd : f.diagnose? t = some d) :
      Traces (.failed k t f) ⟨.error, d.display⟩

/-- `e` is what the statement `t` on line `k` becomes in a scope: its code, or the error that it causes,
with a diagnostic on that line. -/
inductive Answers (keywords : Names) (scope : Scope) (k : Nat) (t : Text) : Emission → Prop
  | done {c : Text} {scope' : Scope} (h : scope.transform keywords t = .ok (c, scope')) :
      Answers keywords scope k t (.done k t c)
  | failed {error : StatementError} {d : Diagnostic}
      (h : scope.transform keywords t = .error error)
      (hd : (Failure.statement error).diagnose? t = some d) (hk : d.line = k) :
      Answers keywords scope k t (.failed k t (.statement error))

/-- Emissions, diagnostics and reports that agree. -/
structure Agreement (keywords : Names) (sketch : Sketch) (es : List Emission)
    (ds : List Diagnostic) (rs : List Record) : Prop where
  /-- Every statement is answered, by its code or by a diagnostic. -/
  answered : ∀ ts e t, Stands es ts e → e.statement? = some t →
    ∃ k, sketch.Holds k t ∧ Answers keywords ((sketch.scope.follow ts).onLine k) k t e
  /-- Every failure has a diagnostic, for its statement and on its line, and is reported as such: there
  is none that is reported in its own words. -/
  diagnosed : ∀ k t f, failed k t f ∈ es → ∃ d, f.diagnose? t = some d ∧ d.line = k ∧
    d.statement = t ∧ ∀ debug, (failed k t f).record? debug = some ⟨.error, d.display⟩
  /-- The diagnostics are those of the statements that failed. -/
  diagnostics : es.filterMap diagnostic? = ds
  /-- The lines in place of failed statements are the comments of the diagnostics. -/
  comments : (es.filter fun e => e.diagnostic?.isSome).map code =
    ds.map fun d => comment d.line d.statement
  /-- The reports of errors are the diagnostics. -/
  errors : rs.filter (fun r => r.level = .error) = ds.map fun d => ⟨.error, d.display⟩
  /-- The diagnostics come in the order of the lines. -/
  ordered : ds.Pairwise fun d d' => d.line ≤ d'.line
  /-- A diagnostic is about a statement on its line. -/
  placed : ∀ d ∈ ds, sketch.Holds d.line d.statement
  /-- Without tracing nothing else is reported. -/
  quiet : sketch.debug = false → rs = ds.map fun d => ⟨.error, d.display⟩
  /-- With tracing every statement is reported, and the counts at the end. -/
  traced : sketch.debug = true → ∃ trace,
    rs = trace ++
      [⟨.debug, s!"transpiled {sketch.body.length} line(s), {ds.length} error(s)"⟩] ∧
    List.Forall₂ Traces (es.filter fun e => e.statement?.isSome) trace

variable {keywords : Names} {s : Scope}

/-! ## Items -/

theorem answers_ofItem (keywords : Names) (s : Scope) (k : Nat) (t : Text) :
    Answers keywords (s.onLine k) k t (ofItem keywords (s.onLine k) (.statement t)).1 := by
  cases h : (s.onLine k).transform keywords t with
  | ok r =>
    simp only [ofItem, Scope.attempt, h, Except.mapError]
    exact .done h
  | error error =>
    simp only [ofItem, Scope.attempt, h, Except.mapError]
    exact .failed h rfl (Scope.line_of_transform_eq_error h)

/-- A diagnostic carries the line of the scope. -/
theorem line_of_diagnostic?_ofItem {k : Nat} {i : Item} {d : Diagnostic}
    (h : (ofItem keywords (s.onLine k) i).1.diagnostic? = some d) : d.line = k := by
  cases i with
  | verbatim c => cases h
  | statement t =>
    generalize he : (ofItem keywords (s.onLine k) (.statement t)).1 = e at h
    have ha : Answers keywords (s.onLine k) k t e := he ▸ answers_ofItem keywords s k t
    cases ha with
    | done => cases h
    | failed _ hd hk =>
      cases hd.symm.trans h
      exact hk

/-- What is emitted in a run: a failure is the error of a statement, on the line of the emission. -/
inductive Diagnosed : Emission → Prop
  | verbatim (c : Text) : Diagnosed (.verbatim c)
  | done (k : Nat) (t c : Text) : Diagnosed (.done k t c)
  | failed (error : StatementError) (t : Text) :
      Diagnosed (.failed error.line t (.statement error))

theorem diagnosed_ofItem (keywords : Names) (s : Scope) (i : Item) :
    Diagnosed (ofItem keywords s i).1 := by
  cases i with
  | verbatim c => exact .verbatim c
  | statement t =>
    cases h : Statement.ofText t with
    | ok st =>
      rw [ofItem_of_ok keywords s h]
      exact .done _ _ _
    | error f =>
      rw [ofItem_of_error keywords s h]
      exact .failed (f.on s.line) t

/-- Without tracing a diagnostic is all that is reported of an emission. -/
theorem Diagnosed.record?_false {e : Emission} (h : Diagnosed e) :
    e.record? false = e.diagnostic?.map fun d => ⟨.error, d.display⟩ := by
  cases h <;> rfl

/-- What is reported as an error is the diagnostic, traced or not. -/
theorem Diagnosed.filter_record? {e : Emission} (h : Diagnosed e) (debug : Bool) :
    (e.record? debug).filter (fun r => r.level = .error) =
      e.diagnostic?.map fun d => ⟨.error, d.display⟩ := by
  cases h with
  | verbatim c => rfl
  | done k t c => cases debug <;> rfl
  | failed error t => rfl

/-! ## Replays -/

theorem diagnosed_of_mem_replay {es : List (Nat × Item)} {e : Emission}
    (h : e ∈ replay keywords s es) : Diagnosed e := by
  induction es generalizing s with
  | nil => cases h
  | cons a es ih =>
    rcases List.mem_cons.1 h with rfl | h
    · exact diagnosed_ofItem keywords _ _
    · exact ih h

/-- Diagnostics come in the order of the schedule. -/
theorem pairwise_diagnostics_replay {es : List (Nat × Item)}
    (h : es.Pairwise fun a b => a.1 ≤ b.1) (s : Scope) :
    ((replay keywords s es).filterMap diagnostic?).Pairwise fun d d' => d.line ≤ d'.line := by
  induction es generalizing s with
  | nil => exact .nil
  | cons e es ih =>
    obtain ⟨hle, hes⟩ := List.pairwise_cons.1 h
    rw [replay, List.filterMap_cons]
    split
    · exact ih hes _
    · next d hd =>
      refine List.pairwise_cons.2 ⟨fun d' hd' => ?_, ih hes _⟩
      obtain ⟨e', he', hd'⟩ := List.mem_filterMap.1 hd'
      obtain ⟨p, q, hpq⟩ := List.append_of_mem he'
      obtain ⟨as, k, i, bs, rfl, -, rfl⟩ := replay_eq_append_cons hpq
      rw [line_of_diagnostic?_ofItem hd, line_of_diagnostic?_ofItem hd']
      exact hle (k, i) (List.mem_append_right as List.mem_cons_self)

/-! ## Lists of emissions -/

variable {es : List Emission}

/-- The lines of failures are the comments of their diagnostics. -/
theorem map_code_failed (h : ∀ e ∈ es, Diagnosed e) :
    (es.filter fun e => e.diagnostic?.isSome).map code =
      (es.filterMap diagnostic?).map fun d => comment d.line d.statement := by
  induction es with
  | nil => rfl
  | cons e es ih =>
    obtain ⟨he, hes⟩ := List.forall_mem_cons.1 h
    cases he with
    | verbatim c => exact ih hes
    | done k t c => exact ih hes
    | failed error t => exact congrArg (List.cons _) (ih hes)

/-- Without tracing only failures are reported. -/
theorem filterMap_record?_false (h : ∀ e ∈ es, Diagnosed e) :
    es.filterMap (record? false) = (es.filterMap diagnostic?).map fun d => ⟨.error, d.display⟩ := by
  rw [List.map_filterMap]
  exact List.filterMap_congr fun e he => (h e he).record?_false

/-- The errors among the reports are the diagnostics, traced or not. -/
theorem filter_error_records (debug : Bool) (h : ∀ e ∈ es, Diagnosed e) :
    (es.filterMap (record? debug)).filter (fun r => r.level = .error) =
      (es.filterMap diagnostic?).map fun d => ⟨.error, d.display⟩ := by
  rw [List.filter_filterMap, List.map_filterMap]
  exact List.filterMap_congr fun e he => (h e he).filter_record? debug

/-- With tracing there is a report for every statement. -/
theorem forall₂_traces (h : ∀ e ∈ es, Diagnosed e) :
    List.Forall₂ Traces (es.filter fun e => e.statement?.isSome) (es.filterMap (record? true)) := by
  induction es with
  | nil => exact .nil
  | cons e es ih =>
    obtain ⟨he, hes⟩ := List.forall_mem_cons.1 h
    cases he with
    | verbatim c => exact ih hes
    | done k t c => exact .cons (.done k t c) (ih hes)
    | failed error t => exact .cons (.failed rfl) (ih hes)

end Emission

namespace Run

open Emission

variable (keywords : Names) (sketch : Sketch)

/-- No failure of a run lacks a diagnostic. -/
theorem diagnosed_of_mem_emissions :
    ∀ e ∈ (ofSketch keywords sketch).emissions, Diagnosed e := by
  intro e he
  rw [emissions_ofSketch] at he
  exact diagnosed_of_mem_replay he

theorem records_ofSketch_of_debug (h : sketch.debug = true) :
    (ofSketch keywords sketch).records =
      (ofSketch keywords sketch).emissions.filterMap (record? true) ++
        [(ofSketch keywords sketch).summary] := by
  have hd : (ofSketch keywords sketch).scope.debug = true := by rw [scope_ofSketch]; exact h
  rw [records, hd]
  rfl

theorem records_ofSketch_of_not_debug (h : sketch.debug = false) :
    (ofSketch keywords sketch).records =
      (ofSketch keywords sketch).emissions.filterMap (record? false) := by
  have hd : (ofSketch keywords sketch).scope.debug = false := by rw [scope_ofSketch]; exact h
  rw [records, hd]
  exact List.append_nil _

/-- Emissions, diagnostics and reports of a run agree. -/
theorem agreement_ofSketch :
    Agreement keywords sketch (ofSketch keywords sketch).emissions
      (ofSketch keywords sketch).diagnostics (ofSketch keywords sketch).records where
  answered ts e t h ht := by
    obtain ⟨k, hk, rfl⟩ := eq_ofItem_of_stands h ht
    exact ⟨k, hk, answers_ofItem keywords _ k t⟩
  diagnosed k t f he := by
    cases diagnosed_of_mem_emissions keywords sketch _ he with
    | failed error => exact ⟨error.diagnose t, rfl, rfl, rfl, fun _ => rfl⟩
  diagnostics := rfl
  comments := map_code_failed (diagnosed_of_mem_emissions keywords sketch)
  errors := by
    have hall := diagnosed_of_mem_emissions keywords sketch
    cases hd : sketch.debug with
    | false =>
      rw [records_ofSketch_of_not_debug keywords sketch hd]
      exact filter_error_records false hall
    | true =>
      rw [records_ofSketch_of_debug keywords sketch hd, List.filter_append,
        filter_error_records true hall]
      exact List.append_nil _
  ordered := by
    rw [Run.diagnostics, emissions_ofSketch]
    exact pairwise_diagnostics_replay (pairwise_schedule 1 sketch.body) sketch.scope
  placed d hd := by
    obtain ⟨e, he, hd⟩ := List.mem_filterMap.1 hd
    obtain ⟨ts, h⟩ := exists_stands he
    cases e with
    | verbatim c => cases hd
    | done k t c => cases hd
    | failed _ t f =>
      obtain ⟨k, hk, he⟩ := eq_ofItem_of_stands h rfl
      have hline : d.line = k := line_of_diagnostic?_ofItem (by rw [← he]; exact hd)
      rw [hline, Failure.statement_of_diagnose? hd]
      exact hk
  quiet hd := by
    rw [records_ofSketch_of_not_debug keywords sketch hd]
    exact filterMap_record?_false (diagnosed_of_mem_emissions keywords sketch)
  traced hd := by
    refine ⟨_, ?_, forall₂_traces (diagnosed_of_mem_emissions keywords sketch)⟩
    rw [records_ofSketch_of_debug keywords sketch hd, summary, scope_ofSketch]
    rfl

end Run

namespace HostScript

variable {source : Text} {sketch : Sketch}

/-- **Diagnostics, reports and code agree.**  The code of a script is the code of its emissions,
which answer the statements of the sketch in order, and the failures among them, the diagnostics and
the reports of errors are the same in the same order. -/
theorem reports_agree (keywords : Names) (h : Sketch.ofText? source = some sketch) :
    (ofText keywords source).code =
        Text.ofLines ((Run.ofSketch keywords sketch).emissions.map Emission.code) ∧
      (Run.ofSketch keywords sketch).emissions.filterMap Emission.statement? = sketch.statements ∧
      Emission.Agreement keywords sketch (Run.ofSketch keywords sketch).emissions
        (ofText keywords source).diagnostics (records keywords source) := by
  rw [ofText_of_sketch keywords h, records_of_sketch keywords h]
  exact ⟨rfl, Run.statements_ofSketch keywords sketch, Run.agreement_ofSketch keywords sketch⟩

/-- A statement that fails beside one that does not is reported on its line. -/
theorem reports_agree_mixed :
    let source := "#kscript\n#debug\nx = 1; = 2".toList
    let sketch : Sketch := ⟨true, ["x = 1; = 2".toList]⟩
    Sketch.ofText? source = some sketch ∧
      ∃ d ∈ (ofText ∅ source).diagnostics, d.line = 1 ∧ d.statement = "= 2".toList ∧
        ⟨.error, d.display⟩ ∈ records ∅ source := by
  intro source sketch
  have h : Sketch.ofText? source = some sketch := by decide
  obtain ⟨-, hst, ha⟩ := reports_agree ∅ h
  obtain ⟨e, he, het⟩ := Emission.exists_stands_of_statements
    (hst.trans (by decide : _ = ["x = 1".toList] ++ "= 2".toList :: []))
  obtain ⟨k, hk, hans⟩ := ha.answered _ e _ he het
  cases hans with
  | done hok => cases hok
  | @failed error d herr hd hline =>
    have hmem : d ∈ (ofText ∅ source).diagnostics := by
      obtain ⟨p, q, hes, -⟩ := he
      rw [← ha.diagnostics, hes]
      exact List.mem_filterMap.2 ⟨_, List.mem_append_right p List.mem_cons_self, hd⟩
    have hle : k ≤ 1 := hk.le_length
    have hlog : ⟨.error, d.display⟩ ∈ (records ∅ source).filter fun r => r.level = .error := by
      rw [ha.errors]
      exact List.mem_map_of_mem hmem
    have hstatement : d.statement = "= 2".toList :=
      (Failure.statement_of_diagnose? hd).trans (Option.some.inj het)
    refine ⟨h, d, hmem, ?_, hstatement, (List.mem_filter.1 hlog).1⟩
    rw [hline]
    exact Nat.le_antisymm hle hk.one_le

end HostScript

end KScript
