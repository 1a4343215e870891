import KScript.Proofs.CommandLine.Delivery

/-!
# Standard input and files

A source is bytes and a name.  Where standard input and a file hold the same bytes, a build of the one
and a build of the other read, report and write the same; the name of the source shows in what was
built, in the announcement of a verbose build and in the reason for a failure, and nowhere else.
-/

namespace KScript

namespace Build

variable {o : Options} {x y : String} {es es' fs : List Event} {r r' : Report}

/-! ## The name of a source -/

/-- The report of progress with which a build begins. -/
def announcement (name : String) (keywords : Nat) : Event :=
  ⟨.info, some target, s!"Compiling: {name} ({keywords} keywords)"⟩

/-- Events of two builds that call their source `x` and `y`. -/
inductive Announces (x y : String) : List Event → List Event → Prop
  | unnamed (es : List Event) : Announces x y es es
  | named (keywords : Nat) (es : List Event) :
      Announces x y (announcement x keywords :: es) (announcement y keywords :: es)

theorem Announces.append (h : Announces x y es es') (fs : List Event) :
    Announces x y (es ++ fs) (es' ++ fs) := by
  cases h with
  | unnamed es => exact .unnamed (es ++ fs)
  | named keywords es => exact .named keywords (es ++ fs)

/-- What was built, with another name for its source. -/
def Output.renamed (y : String) (out : Output) : Output := { out with sourceFile := y }

/-- Reports of two builds that call their source `x` and `y`. -/
structure Report.NamedAlike (x y : String) (r r' : Report) : Prop where
  outcome_eq : r'.outcome = r.outcome.map (Output.renamed y)
  events : Announces x y r.events r'.events

/-! ## Builds of the same bytes -/

variable {files : FileTree} {bytes : ByteArray} {path : String}

/-- Up to the write, the same bytes are built alike. -/
theorem namedAlike_plan (hpath : path ≠ "-") (hfile : files.entry path = .file bytes) (o : Options)
    (input : ByteArray) :
    Report.NamedAlike "-" path (plan { o with input := "-" } ⟨files, bytes⟩)
      (plan { o with input := path } ⟨files, input⟩) := by
  have hinput : World.source ⟨files, bytes⟩ { o with input := "-" } = .file bytes := if_pos rfl
  have hnamed : World.source ⟨files, input⟩ { o with input := path } = .file bytes :=
    (if_neg hpath).trans hfile
  -- Bytes are read without a look at the name of the source.
  have hload : load { o with input := path } (.file bytes)
      (World.keywords ⟨files, input⟩ { o with input := path }) =
    load { o with input := "-" } (.file bytes)
      (World.keywords ⟨files, bytes⟩ { o with input := "-" }) := rfl
  unfold plan prepare
  rw [hinput, hnamed, hload]
  split
  · exact ⟨rfl, .unnamed []⟩
  · next text names _ =>
    refine ⟨?_, ?_⟩
    · dsimp only
      split <;> rfl
    · refine .append (.append ?_ _) _
      unfold Options.progress
      dsimp only
      split
      · exact .named names.size []
      · exact .unnamed []

/-- The write does not look at the name of the source. -/
theorem namedAlike_finish (h : Report.NamedAlike x y r r') (o : Options) (files : FileTree)
    (input input' : ByteArray) :
    ∃ (ended ended' : Report) (files' : FileTree),
      (finish { o with input := x } r : StateM World Report) ⟨files, input⟩ =
        (ended, ⟨files', input⟩) ∧
      (finish { o with input := y } r' : StateM World Report) ⟨files, input'⟩ =
        (ended', ⟨files', input'⟩) ∧
      Report.NamedAlike x y ended ended' := by
  obtain ⟨houtcome, hevents⟩ := h
  cases hr : r.outcome with
  | error f =>
    rw [hr] at houtcome
    refine ⟨r, r', files, ?_, ?_, by rw [houtcome, hr], hevents⟩
    · rw [finish_of_error hr]
      rfl
    · rw [finish_of_error houtcome]
      rfl
  | ok out =>
    rw [hr] at houtcome
    obtain houtput | ⟨dest, houtput⟩ := Option.eq_none_or_eq_some o.output
    · refine ⟨r, r', files, ?_, ?_, by rw [houtcome, hr], hevents⟩
      · rw [finish_of_no_output (o := { o with input := x }) houtput]
        rfl
      · rw [finish_of_no_output (o := { o with input := y }) houtput]
        rfl
    · rw [finish_of_output (o := { o with input := x }) hr houtput,
        finish_of_output (o := { o with input := y }) houtcome houtput]
      have hbytes : (out.renamed y).bytes = out.bytes := rfl
      rw [hbytes]
      cases files.write dest out.bytes with
      | error fault =>
        exact ⟨⟨.error (.io fault.message), r.events⟩, ⟨.error (.io fault.message), r'.events⟩, files,
          rfl, rfl, rfl, hevents⟩
      | ok files' =>
        exact ⟨⟨.ok out, r.events ++ o.progress s!"Wrote {dest}"⟩,
          ⟨.ok (out.renamed y), r'.events ++ o.progress s!"Wrote {dest}"⟩, files',
          rfl, rfl, rfl, hevents.append _⟩

/-- The same bytes are built alike, from standard input and from a file. -/
theorem namedAlike_build (hpath : path ≠ "-") (hfile : files.entry path = .file bytes) (o : Options)
    (input : ByteArray) :
    ∃ (ended ended' : Report) (files' : FileTree),
      (build { o with input := "-" } : StateM World Report) ⟨files, bytes⟩ =
        (ended, ⟨files', bytes⟩) ∧
      (build { o with input := path } : StateM World Report) ⟨files, input⟩ =
        (ended', ⟨files', input⟩) ∧
      Report.NamedAlike "-" path ended ended' := by
  rw [build_eq_finish, build_eq_finish]
  exact namedAlike_finish (namedAlike_plan hpath hfile o input) o files bytes input

end Build

open Build

namespace CommandLine

variable {o : Options} {x y path : String} {r r' : Report} {es es' : List Event}
  {files : FileTree} {bytes : ByteArray}

/-- Answers of two runs that call their source `x` and `y`. -/
structure Answer.NamedAlike (x y : String) (a a' : Answer) : Prop where
  exitCode_eq : a'.exitCode = a.exitCode
  output_eq : a'.output = a.output
  /-- They fail for the same reason, if they fail. -/
  failure : a.failure = none ∧ a'.failure = none ∨
    ∃ f, a.failure = some (failureText x f) ∧ a'.failure = some (failureText y f)
  /-- The logs differ in the announcement at most. -/
  log : a'.log = a.log ∨ ∃ keywords lines,
    a.log = Console.line (announcement x keywords) :: lines ∧
      a'.log = Console.line (announcement y keywords) :: lines

theorem log_of_announces (verbose : Bool) (h : Announces x y es es') :
    Console.lines verbose es' = Console.lines verbose es ∨ ∃ keywords lines,
      Console.lines verbose es = Console.line (announcement x keywords) :: lines ∧
        Console.lines verbose es' = Console.line (announcement y keywords) :: lines := by
  cases h with
  | unnamed es => exact .inl rfl
  | named keywords es =>
    cases verbose with
    | false => exact .inl rfl
    | true => exact .inr ⟨keywords, Console.lines true es, rfl, rfl⟩

theorem namedAlike_ofReport (h : Report.NamedAlike x y r r') (o : Options) :
    Answer.NamedAlike x y (.ofReport { o with input := x } r)
      (.ofReport { o with input := y } r') := by
  obtain ⟨houtcome, hevents⟩ := h
  have hlog := log_of_announces o.verbose hevents
  unfold Answer.ofReport
  rw [houtcome]
  cases r.outcome with
  | error f => exact ⟨rfl, rfl, .inr ⟨f, rfl, rfl⟩, hlog⟩
  | ok out => exact ⟨rfl, rfl, .inl ⟨rfl, rfl⟩, hlog⟩

/-- **Standard input and a file with the same bytes behave alike.**  Let arguments ask for a build of
standard input, and others for the same build of a file that holds the bytes that wait there.  The two
runs have the same exit code and the same output and leave the same files.  They fail for the same
reason, if they fail, and the reason and the announcement of a verbose build are the only texts in which
the name of the source shows. -/
theorem standardInput_or_file (hpath : path ≠ "-") (hfile : files.entry path = .file bytes)
    (o : Options) (input : ByteArray) {args args' : List String}
    (hargs : Request.ofArguments args = .ok (.build { o with input := "-" }))
    (hargs' : Request.ofArguments args' = .ok (.build { o with input := path })) :
    ∃ (a a' : Answer) (files' : FileTree),
      (run args : StateM World (Except UsageError Answer)) ⟨files, bytes⟩ =
        (.ok a, ⟨files', bytes⟩) ∧
      (run args' : StateM World (Except UsageError Answer)) ⟨files, input⟩ =
        (.ok a', ⟨files', input⟩) ∧
      Answer.NamedAlike "-" path a a' := by
  obtain ⟨ended, ended', files', hbuild, hbuild', halike⟩ := namedAlike_build hpath hfile o input
  refine ⟨.ofReport { o with input := "-" } ended, .ofReport { o with input := path } ended', files',
    ?_, ?_, namedAlike_ofReport halike o⟩
  · rw [run_of_build hargs, hbuild]
  · rw [run_of_build hargs', hbuild']

/-- Two verbose builds of a sketch that write over the file with the sketch. -/
theorem standardInput_or_file_overwriting :
    let bytes := "#kscript\nx = sun".toUTF8
    let files := FileTree.empty.addFile "a.ks" bytes
    ∃ (a a' : Answer) (files' : FileTree),
      (run ["-v", "-o", "a.ks", "-"] : StateM World (Except UsageError Answer)) ⟨files, bytes⟩ =
        (.ok a, ⟨files', bytes⟩) ∧
      (run ["-v", "-o", "a.ks", "a.ks"] : StateM World (Except UsageError Answer))
        ⟨files, ByteArray.empty⟩ = (.ok a', ⟨files', ByteArray.empty⟩) ∧
      Answer.NamedAlike "-" "a.ks" a a' ∧ a.exitCode = 0 ∧ a'.exitCode = 0 := by
  intro bytes files
  have hfile : files.entry "a.ks" = .file bytes := rfl
  have hargs : Request.ofArguments ["-v", "-o", "a.ks", "-"] =
      .ok (.build ⟨"-", some "a.ks", none, true, false⟩) := rfl
  have hargs' : Request.ofArguments ["-v", "-o", "a.ks", "a.ks"] =
      .ok (.build ⟨"a.ks", some "a.ks", none, true, false⟩) := rfl
  obtain ⟨a, a', files', hrun, hrun', halike⟩ :=
    standardInput_or_file (by decide) hfile ⟨"-", some "a.ks", none, true, false⟩ ByteArray.empty
      hargs hargs'
  have hcode : ((run ["-v", "-o", "a.ks", "-"] : StateM World (Except UsageError Answer))
      ⟨files, bytes⟩).1.toOption.map Answer.exitCode = some 0 := by decide +kernel
  rw [hrun] at hcode
  have hzero : a.exitCode = 0 := Option.some.inj hcode
  exact ⟨a, a', files', hrun, hrun', halike, hzero, halike.exitCode_eq.trans hzero⟩

end CommandLine

end KScript
