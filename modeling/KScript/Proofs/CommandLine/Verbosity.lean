import KScript.Proofs.Build.Progress
import KScript.Proofs.CommandLine.Delivery

/-!
# Verbose runs

A verbose run reports its progress in the log and is otherwise the run that is not verbose.  The log
tells the two kinds of lines apart by how they begin: reports of progress name the level and the target
of builds, and lines about a sketch name the target of sketches.
-/

namespace KScript

open Build

namespace CommandLine

variable {o : Options} {e : Event} {es : List Event}

/-! ## Lines of the log -/

/-- What begins the lines of the log that report progress. -/
def progressMark : Text := "INFO kscript_transpiler::driver: ".toList

/-- Whether a line of the log reports progress. -/
def isProgressLine (line : String) : Bool := progressMark.isPrefixOf line.toList

theorem isProgressLine_of_isProgress (h : isProgress e = true) :
    isProgressLine (Console.line e) = true := by
  obtain ⟨level, origin, message⟩ := e
  obtain ⟨rfl, rfl⟩ : level = .info ∧ origin = some target := of_decide_eq_true h
  refine List.isPrefixOf_iff_prefix.2 ⟨(Console.showMessage message).toList, ?_⟩
  simp only [Console.line, String.toList_append]
  rfl

theorem not_isProgressLine_of_target (h : e.target = some Sink.target) :
    isProgressLine (Console.line e) = false := by
  obtain ⟨level, origin, message⟩ := e
  obtain rfl : origin = some Sink.target := h
  simp only [isProgressLine, Console.line, String.toList_append]
  cases level <;> rfl

/-- The lines of the log that report progress are those of the events that do. -/
theorem isProgressLine_line (h : isProgress e = true ∨ e.target = some Sink.target) :
    isProgressLine (Console.line e) = isProgress e := by
  rcases h with h | h
  · rw [isProgressLine_of_isProgress h, h]
  · rw [not_isProgressLine_of_target h, not_isProgress_of_target h]

/-- A verbose run shows its progress and all that is reported about a sketch. -/
theorem isShown_verbose (h : isProgress e = true ∨ e.target = some Sink.target) :
    Console.isShown true e = true := by
  rcases h with h | h
  · obtain ⟨hlevel, -⟩ : e.level = .info ∧ e.target = some target := of_decide_eq_true h
    rw [Console.isShown, hlevel, Bool.or_true]
  · rw [Console.isShown, h]
    rfl

/-- Any other run shows all that is reported about a sketch. -/
theorem isShown_quiet (h : isProgress e = true ∨ e.target = some Sink.target)
    (hquiet : isProgress e = false) : Console.isShown false e = true := by
  rcases h with h | h
  · exact Bool.noConfusion (h.symm.trans hquiet)
  · rw [Console.isShown, h]
    rfl

/-- The log of the events that report no progress is what else stands in the log. -/
theorem lines_silence (h : ∀ e ∈ es, isProgress e = true ∨ e.target = some Sink.target) :
    Console.lines false (silence es) =
      (Console.lines true es).filter fun line => !isProgressLine line := by
  -- Neither run hides an event that the other would show, apart from progress.
  have hverbose : es.filter (Console.isShown true) = es :=
    List.filter_eq_self.2 fun e he => isShown_verbose (h e he)
  have hquiet : (silence es).filter (Console.isShown false) = silence es := by
    refine List.filter_eq_self.2 fun e he => ?_
    obtain ⟨hmem, hprogress⟩ := List.mem_filter.1 he
    exact isShown_quiet (h e hmem) (by simpa using hprogress)
  have hsilence : silence es = es.filter ((fun line => !isProgressLine line) ∘ Console.line) :=
    List.filter_congr fun e he => by simp [isProgressLine_line (h e he)]
  rw [Console.lines, Console.lines, hquiet, hverbose, List.filter_map, hsilence]

/-! ## Answers -/

/-- An answer whose log does not report progress. -/
def Answer.silenced (a : Answer) : Answer :=
  { a with log := a.log.filter fun line => !isProgressLine line }

theorem ofReport_silenced {r : Report}
    (h : ∀ e ∈ r.events, isProgress e = true ∨ e.target = some Sink.target) :
    Answer.ofReport { o with verbose := false } r.silenced =
      (Answer.ofReport { o with verbose := true } r).silenced := by
  have hlog : Console.lines false r.silenced.events =
      (Console.lines true r.events).filter fun line => !isProgressLine line := lines_silence h
  unfold Answer.ofReport
  rw [hlog, Report.silenced]
  cases r.outcome <;> rfl

/-- **Verbosity adds reports of progress and nothing else.**  A build that is not verbose has the outcome
of the verbose one and leaves the same world, and its events are those of the verbose one that do not
report progress.  Of two runs whose arguments ask for these builds, the one that is not verbose has the
exit code, the output and the failure text of the verbose one, leaves the same world, and its log is the
other one without the lines that report progress. -/
theorem verbosity_only_reports (o : Options) (w : World) :
    let loud := (build { o with verbose := true } : StateM World Report) w
    let quiet := (build { o with verbose := false } : StateM World Report) w
    (quiet.1.outcome = loud.1.outcome ∧ quiet.2 = loud.2 ∧
        quiet.1.events = loud.1.events.filter fun e => !isProgress e) ∧
      ∀ args args', Request.ofArguments args = .ok (.build { o with verbose := true }) →
        Request.ofArguments args' = .ok (.build { o with verbose := false }) →
        ∃ (a a' : Answer) (w' : World),
          (run args : StateM World (Except UsageError Answer)) w = (.ok a, w') ∧
          (run args' : StateM World (Except UsageError Answer)) w = (.ok a', w') ∧
          (a'.exitCode = a.exitCode ∧ a'.output = a.output ∧ a'.failure = a.failure) ∧
          a'.log = a.log.filter fun line => !isProgressLine line := by
  intro loud quiet
  have hquiet : quiet = (loud.1.silenced, loud.2) := build_silenced o w
  refine ⟨by rw [hquiet]; exact ⟨rfl, rfl, rfl⟩, ?_⟩
  intro args args' hargs hargs'
  refine ⟨.ofReport { o with verbose := true } loud.1,
    (Answer.ofReport { o with verbose := true } loud.1).silenced, loud.2, run_of_build hargs, ?_,
    ⟨rfl, rfl, rfl⟩, rfl⟩
  calc (run args' : StateM World (Except UsageError Answer)) w
    _ = (.ok (.ofReport { o with verbose := false } quiet.1), quiet.2) := run_of_build hargs'
    _ = (.ok (.ofReport { o with verbose := false } loud.1.silenced), loud.2) := by rw [hquiet]
    _ = (.ok (Answer.ofReport { o with verbose := true } loud.1).silenced, loud.2) := by
      rw [ofReport_silenced fun e he => mem_events_build he]

/-- Two builds of a sketch with a statement that fails, whose output cannot be written. -/
theorem verbosity_only_reports_unwritable :
    let w : World := ⟨FileTree.empty.addFile "a.ks" "#kscript\n= 1".toUTF8, ByteArray.empty⟩
    ∃ (a a' : Answer) (w' : World),
      (run ["-v", "-o", "no/a.js", "a.ks"] : StateM World (Except UsageError Answer)) w =
        (.ok a, w') ∧
      (run ["-o", "no/a.js", "a.ks"] : StateM World (Except UsageError Answer)) w = (.ok a', w') ∧
      (a'.exitCode = a.exitCode ∧ a'.output = a.output ∧ a'.failure = a.failure) ∧
      a'.log = a.log.filter (fun line => !isProgressLine line) ∧
      a.exitCode = 1 ∧ a.log.length = 3 ∧ a'.log.length = 1 := by
  intro w
  obtain ⟨a, a', w', hloud, hquiet, hsame, hlog⟩ :=
    (verbosity_only_reports ⟨"a.ks", some "no/a.js", none, false, false⟩ w).2
      ["-v", "-o", "no/a.js", "a.ks"] ["-o", "no/a.js", "a.ks"] rfl rfl
  have hcount : ((run ["-v", "-o", "no/a.js", "a.ks"] : StateM World (Except UsageError Answer))
      w).1.toOption.map (fun a => (a.exitCode, a.log.length)) = some (1, 3) := by decide +kernel
  have hcount' : ((run ["-o", "no/a.js", "a.ks"] : StateM World (Except UsageError Answer))
      w).1.toOption.map (fun a => a.log.length) = some 1 := by decide +kernel
  rw [hloud] at hcount
  rw [hquiet] at hcount'
  obtain ⟨hexit, hlines⟩ : a.exitCode = 1 ∧ a.log.length = 3 :=
    Prod.mk.inj (Option.some.inj hcount)
  exact ⟨a, a', w', hloud, hquiet, hsame, hlog, hexit, hlines, Option.some.inj hcount'⟩

end CommandLine

end KScript
