import KScript.Proofs.Build.Endings
import KScript.Proofs.Run.Reports

/-!
# Refusing faulty sketches

A build that refuses failed statements does so when everything has been reported and nothing has been
written.  So it is a build that does not refuse them up to that point, and what it lists are the errors
that were reported.
-/

namespace KScript

namespace HostScript

/-- The errors among the reports about a text are its diagnostics. -/
theorem filter_error_records (keywords : Names) (source : Text) :
    (records keywords source).filter (fun r => r.level = .error) =
      (ofText keywords source).diagnostics.map fun d => ⟨.error, d.display⟩ := by
  cases h : Sketch.ofText? source with
  | none => simp [records, ofText, Run.ofText?, h, passThrough]
  | some sketch =>
    rw [ofText_of_sketch keywords h, records_of_sketch keywords h]
    exact (Run.agreement_ofSketch keywords sketch).errors

end HostScript

namespace Build

variable {o : Options} {w : World} {text : Text} {names : Names}

/-! ## Errors among the events -/

/-- Whether an event reports an error of the sketch. -/
def isError (e : Event) : Bool := e.level = .error ∧ e.target = some Sink.target

/-- The messages of the errors of the sketch, in order. -/
def errorMessages (es : List Event) : List String := (es.filter isError).map Event.message

theorem errorMessages_append (es fs : List Event) :
    errorMessages (es ++ fs) = errorMessages es ++ errorMessages fs := by
  rw [errorMessages, List.filter_append, List.map_append]
  rfl

/-- Progress is no error. -/
theorem errorMessages_progress (o : Options) (message : String) :
    errorMessages (o.progress message) = [] := by
  unfold Options.progress
  split <;> rfl

theorem errorMessages_deliverAll (rs : List Record) :
    errorMessages (Sink.tracing.deliverAll rs) =
      (rs.filter fun r => r.level = .error).map Record.message := by
  rw [Sink.deliverAll_tracing, errorMessages, List.filter_map, List.map_map]
  simp only [isError, Function.comp_def, and_true]

/-! ## Builds that are loaded -/

/-- A build whose source and names can be read, up to the point where it writes. -/
theorem plan_of_loaded (htext : (w.source o).text o.input = .ok text)
    (hnames : w.names o = .ok names) :
    plan o w =
      ⟨if o.denyErrors && !(HostScript.ofText names text).diagnostics.isEmpty then
          .error (.diagnostics (HostScript.ofText names text).diagnostics)
        else .ok ⟨o.input, text, HostScript.ofText names text⟩,
        o.progress s!"Compiling: {o.input} ({names.size} keywords)" ++
          Sink.tracing.deliverAll (HostScript.records names text) ++
            o.progress (summary (HostScript.ofText names text))⟩ := by
  unfold plan prepare
  rw [load_eq_ok_iff.2 ⟨htext, hnames⟩]

/-- The errors that a build reports are the diagnostics of its script. -/
theorem errorMessages_plan (htext : (w.source o).text o.input = .ok text)
    (hnames : w.names o = .ok names) :
    errorMessages (plan o w).events =
      (HostScript.ofText names text).diagnostics.map Diagnostic.display := by
  rw [plan_of_loaded htext hnames, errorMessages_append, errorMessages_append, errorMessages_progress,
    errorMessages_progress, errorMessages_deliverAll, HostScript.filter_error_records, List.map_map,
    List.nil_append, List.append_nil]
  rfl

/-- What is reported before the write stays reported. -/
theorem events_plan_isPrefix (o : Options) (w : World) :
    (plan o w).events <+: ((build o : StateM World Report) w).1.events := by
  rcases (ends_build o w).events_eq with hevents | ⟨path, hevents⟩
  · rw [hevents]
  · rw [hevents]
    exact List.prefix_append _ _

/-! ## The text of a refusal -/

/-- The text that counts and lists messages. -/
def listing (messages : List String) : String :=
  let entries := "\n".intercalate (messages.map fun m => "  - " ++ m)
  s!"Transpilation produced {messages.length} error(s):\n{entries}"

theorem display_diagnostics (ds : List Diagnostic) :
    (Failure.diagnostics ds).display = listing (ds.map Diagnostic.display) := by
  have hentries : (ds.map Diagnostic.display).map (fun m => "  - " ++ m) =
      ds.map fun d => "  - " ++ d.display := List.map_map
  unfold listing
  rw [hentries, List.length_map]
  rfl

/-- **Refusing faulty sketches comes before the write and after everything else.**  If the source and
the names can be read and no statement fails, a build that refuses failed statements is the build that
does not.  If a statement fails, it fails with the diagnostics of the script and writes nothing,
wherever the output goes; it has reported what the other build reports before its write; and its text
counts and lists, in order, the messages of the errors that were reported about the sketch. -/
theorem refusal_precedes_write (o : Options) (w : World)
    (htext : (w.source o).text o.input = .ok text) (hnames : w.names o = .ok names) :
    let script := HostScript.ofText names text
    let strict := (build { o with denyErrors := true } : StateM World Report) w
    let lenient := (build { o with denyErrors := false } : StateM World Report) w
    (script.diagnostics = [] → strict = lenient) ∧
      (script.diagnostics ≠ [] →
        strict.1.outcome = .error (.diagnostics script.diagnostics) ∧ strict.2 = w ∧
          strict.1.events <+: lenient.1.events ∧
          errorMessages strict.1.events = script.diagnostics.map Diagnostic.display ∧
          (Failure.diagnostics script.diagnostics).display =
            listing (errorMessages strict.1.events)) := by
  intro script strict lenient
  have hstrict := plan_of_loaded (o := { o with denyErrors := true }) htext hnames
  have hlenient := plan_of_loaded (o := { o with denyErrors := false }) htext hnames
  constructor
  · intro hnone
    -- The end of a build does not ask whether failed statements are refused, so plans suffice.
    have hplan : plan { o with denyErrors := true } w = plan { o with denyErrors := false } w := by
      rw [hstrict, hlenient, hnone]
      rfl
    calc strict
      _ = (finish { o with denyErrors := true } (plan { o with denyErrors := true } w) :
            StateM World Report) w := build_eq_finish _ w
      _ = (finish { o with denyErrors := false } (plan { o with denyErrors := false } w) :
            StateM World Report) w := by rw [hplan]; rfl
      _ = lenient := (build_eq_finish _ w).symm
  · intro hsome
    have houtcome : (plan { o with denyErrors := true } w).outcome =
        .error (.diagnostics script.diagnostics) := by
      rw [hstrict]
      exact if_pos (by simpa using hsome)
    have hended : strict = (plan { o with denyErrors := true } w, w) := by
      change (build _ : StateM World Report) w = _
      rw [build_eq_finish, finish_of_error houtcome]
      rfl
    have hmessages : errorMessages strict.1.events = script.diagnostics.map Diagnostic.display := by
      rw [hended]
      exact errorMessages_plan (o := { o with denyErrors := true }) htext hnames
    have hevents : (plan { o with denyErrors := true } w).events =
        (plan { o with denyErrors := false } w).events := by
      rw [hstrict, hlenient]
      rfl
    refine ⟨hended ▸ houtcome, hended ▸ rfl, ?_, hmessages, ?_⟩
    · rw [hended, hevents]
      exact events_plan_isPrefix _ w
    · rw [hmessages]
      exact display_diagnostics script.diagnostics

/-- Two builds with an output that cannot be written, one of a sketch with two statements that fail and
one of a sketch with none. -/
theorem refusal_precedes_write_unwritable :
    let w : World := ⟨(FileTree.empty.addFile "a.ks" "#kscript\n= 1; x = 2\n, 3".toUTF8).addFile
      "b.ks" "#kscript\nx = sun".toUTF8, ByteArray.empty⟩
    let faulty : Options := ⟨"a.ks", some "no/a.js", none, true, true⟩
    let clean : Options := ⟨"b.ks", some "no/b.js", none, true, true⟩
    let script := HostScript.ofText Keyword.builtin "#kscript\n= 1; x = 2\n, 3".toList
    let refused := (build faulty : StateM World Report) w
    let unwritten := (build clean : StateM World Report) w
    script.diagnostics.length = 2 ∧ refused.1.outcome = .error (.diagnostics script.diagnostics) ∧
      refused.2 = w ∧
      (Failure.diagnostics script.diagnostics).display = listing (errorMessages refused.1.events) ∧
      unwritten = (build { clean with denyErrors := false } : StateM World Report) w ∧
      unwritten.1.outcome = .error (.io FileFault.noSuchFile.message) := by
  intro w faulty clean script refused unwritten
  have hnames : w.names faulty = .ok Keyword.builtin := rfl
  have hfaulty : (w.source faulty).text faulty.input = .ok "#kscript\n= 1; x = 2\n, 3".toList := by
    decide +kernel
  have hclean : (w.source clean).text clean.input = .ok "#kscript\nx = sun".toList := by
    decide +kernel
  have htwo : script.diagnostics.length = 2 := by decide +kernel
  have hsome : script.diagnostics ≠ [] := by
    intro hnone
    rw [hnone] at htwo
    cases htwo
  have hnone : (HostScript.ofText Keyword.builtin "#kscript\nx = sun".toList).diagnostics = [] := by
    decide +kernel
  obtain ⟨houtcome, hworld, -, -, htext⟩ := (refusal_precedes_write faulty w hfaulty hnames).2 hsome
  exact ⟨htwo, houtcome, hworld, htext, (refusal_precedes_write clean w hclean hnames).1 hnone,
    by decide +kernel⟩

end Build

end KScript
