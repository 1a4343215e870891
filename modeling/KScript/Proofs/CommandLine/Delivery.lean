import KScript.CommandLine.Basic
import KScript.Proofs.Build.Endings
import KScript.Proofs.CommandLine.Arguments

/-!
# Printed and written code

The code of a build is printed, or it is written to a file if one is named.  Up to that point a build
does not ask whether one is named, so a run that prints and a run that writes deliver the same code or
fail for the same reason.
-/

namespace KScript

open Build

namespace CommandLine

variable {o : Options} {w : World} {x : String} {l : Location}

/-! ## Builds that differ in the output file -/

/-- Up to the point where it writes, a build does not ask for its output file. -/
theorem plan_output (o : Options) (w : World) (output : Option String) :
    plan { o with output := output } w = plan o w := rfl

/-- A build that prints its code leaves the world as it is. -/
theorem build_of_no_output (ho : o.output = none) :
    (build o : StateM World Report) w = (plan o w, w) := by
  rw [build_eq_finish, finish_of_no_output ho]
  rfl

/-- A build that fails before it writes does so whatever its output file is. -/
theorem build_output_of_error {f : Failure} (h : (plan o w).outcome = .error f) :
    (build { o with output := some x } : StateM World Report) w = (plan o w, w) := by
  rw [build_eq_finish, plan_output, finish_of_error h]
  rfl

/-- A build whose output file can be written succeeds as it does without the file. -/
theorem build_output_of_ok {out : Output} (h : (plan o w).outcome = .ok out)
    (hx : w.files.target x = .ok l) :
    (build { o with output := some x } : StateM World Report) w =
      (⟨.ok out, (plan o w).events ++ o.progress s!"Wrote {x}"⟩,
        { w with files := w.files.put l (.file out.bytes) }) := by
  have hwrite : w.files.write x out.bytes = .ok (w.files.put l (.file out.bytes)) := by
    rw [FileTree.write, hx]
    rfl
  rw [build_eq_finish, plan_output, finish_of_output h rfl, hwrite]
  rfl

/-! ## Answers -/

/-- Arguments that ask for a build are answered by the build. -/
theorem run_of_build {args : List String} (h : Request.ofArguments args = .ok (.build o)) :
    (run args : StateM World (Except UsageError Answer)) w =
      (.ok (.ofReport o ((build o : StateM World Report) w).1),
        ((build o : StateM World Report) w).2) := by
  unfold run
  rw [h]
  rfl

/-- An answer shows by its exit code and by its failure text whether there is an outcome. -/
structure Answer.Shows (a : Answer) (outcome : Except Failure Output) : Prop where
  exitCode_eq : a.exitCode = 0 ∨ a.exitCode = 1
  exitCode_iff : a.exitCode = 1 ↔ ∃ f, outcome = .error f
  failure_iff : a.failure.isSome = true ↔ ∃ f, outcome = .error f

theorem shows_ofReport (o : Options) (r : Report) : (Answer.ofReport o r).Shows r.outcome := by
  unfold Answer.ofReport
  cases r.outcome with
  | ok out => exact ⟨.inl rfl, by simp, by simp⟩
  | error f => exact ⟨.inr rfl, by simp, by simp⟩

/-- The last report of a build that writes shows in the log if progress is reported. -/
theorem lines_append_progress (o : Options) (es : List Event) (message : String) :
    Console.lines o.verbose (es ++ o.progress message) = Console.lines o.verbose es ∨
      Console.lines o.verbose (es ++ o.progress message) =
        Console.lines o.verbose es ++ [Console.line ⟨.info, some target, message⟩] := by
  unfold Console.lines Options.progress
  cases o.verbose with
  | false => exact .inl (by simp)
  | true =>
    right
    rw [List.filter_append, List.map_append]
    rfl

/-! ## Two runs -/

/-- The answer of a run that prints its code in the world `w`, and the answer of a run that writes its
code to the place `l` of the path `x` and leaves the world `w'`, deliver the same. -/
structure DeliverAlike (w w' : World) (x : String) (l : Location) (printed written : Answer) :
    Prop where
  /-- What is printed stands in the file, its line feed apart. -/
  of_success : printed.exitCode = 0 → written.exitCode = 0 ∧ written.output = "" ∧
    ∃ code : String, printed.output = code ++ "\n" ∧ w.files.Replaces w'.files x l code.toUTF8
  of_failure : printed.exitCode = 1 ∨ written.exitCode = 1 →
    printed.exitCode = 1 ∧ written.exitCode = 1 ∧ written.failure = printed.failure ∧
      printed.output = "" ∧ written.output = "" ∧ w' = w
  log_eq : written.log = printed.log ∨
    written.log = printed.log ++ [Console.line ⟨.info, some target, s!"Wrote {x}"⟩]

theorem deliverAlike_of_error {f : Failure} (h : (plan o w).outcome = .error f) :
    DeliverAlike w w x l (.ofReport o (plan o w))
      (.ofReport { o with output := some x } (plan o w)) := by
  unfold Answer.ofReport
  rw [h]
  constructor
  · rintro ⟨⟩
  · intro _
    exact ⟨rfl, rfl, rfl, rfl, rfl, rfl⟩
  · exact .inl rfl

theorem deliverAlike_of_ok {out : Output} (h : (plan o w).outcome = .ok out) (ho : o.output = none)
    (hx : w.files.target x = .ok l) :
    DeliverAlike w { w with files := w.files.put l (.file out.bytes) } x l (.ofReport o (plan o w))
      (.ofReport { o with output := some x }
        ⟨.ok out, (plan o w).events ++ o.progress s!"Wrote {x}"⟩) := by
  unfold Answer.ofReport
  rw [h, ho]
  constructor
  · intro _
    refine ⟨rfl, rfl, String.ofList out.script.code, rfl, ?_⟩
    exact FileTree.replaces_put (FileTree.canWrite_of_target hx) out.bytes
  · rintro (hexit | hexit) <;> cases hexit
  · exact lines_append_progress o (plan o w).events s!"Wrote {x}"

/-- **Printing and writing deliver the same code.**  Name an output file that can be written anywhere
among arguments that ask for a build without one.  If the run that prints its code succeeds, then the
run that writes it succeeds, prints nothing and leaves in the file what the other one prints, up to the
last line feed; and if one of them fails, both fail for the same reason, print nothing and write
nothing.  Both answers show how their builds end, and their logs differ by the report of the write at
most. -/
theorem print_or_write {before behind : List String} {said : Partial}
    (h : Request.ofArguments (before ++ behind) = .ok (.build o)) (ho : o.output = none)
    (hbefore : ReadsTo (.next .empty) before (.next said)) (hempty : x ≠ "")
    (hvalue : isValue x = true) (hx : w.files.target x = .ok l) :
    ∃ (printed written : Answer) (w' : World),
      (run (before ++ behind) : StateM World (Except UsageError Answer)) w = (.ok printed, w) ∧
      (run (before ++ "-o" :: x :: behind) : StateM World (Except UsageError Answer)) w =
        (.ok written, w') ∧
      DeliverAlike w w' x l printed written ∧
      printed.Shows ((build o : StateM World Report) w).1.outcome ∧
      written.Shows ((build { o with output := some x } : StateM World Report) w).1.outcome := by
  have hinsert : Request.ofArguments (before ++ "-o" :: x :: behind) =
      .ok (.build { o with output := some x }) :=
    ofArguments_insert_output h ho hbefore hempty hvalue
  refine ⟨.ofReport o (plan o w), .ofReport { o with output := some x }
    ((build { o with output := some x } : StateM World Report) w).1,
    ((build { o with output := some x } : StateM World Report) w).2, ?_, run_of_build hinsert, ?_, ?_,
    shows_ofReport _ _⟩
  · rw [run_of_build h, build_of_no_output ho]
  · cases houtcome : (plan o w).outcome with
    | error f =>
      rw [build_output_of_error houtcome]
      exact deliverAlike_of_error houtcome
    | ok out =>
      rw [build_output_of_ok houtcome hx]
      exact deliverAlike_of_ok houtcome ho hx
  · rw [build_of_no_output ho]
    exact shows_ofReport o _

/-- A verbose build, with the output file named between its two arguments. -/
theorem print_or_write_verbose :
    let w : World := ⟨FileTree.empty.addFile "a.ks" "#kscript\nx = sun".toUTF8, ByteArray.empty⟩
    let o : Options := ⟨"a.ks", none, none, true, false⟩
    let l : Location := Location.here.child "a.js".toList
    Request.ofArguments (["-v"] ++ ["a.ks"]) = .ok (.build o) ∧ w.files.target "a.js" = .ok l ∧
      ∃ (printed written : Answer) (w' : World),
        (run ["-v", "a.ks"] : StateM World (Except UsageError Answer)) w = (.ok printed, w) ∧
        (run ["-v", "-o", "a.js", "a.ks"] : StateM World (Except UsageError Answer)) w =
          (.ok written, w') ∧
        DeliverAlike w w' "a.js" l printed written ∧ printed.exitCode = 0 ∧
        written.exitCode = 0 := by
  intro w o l
  have hrequest : Request.ofArguments (["-v"] ++ ["a.ks"]) = .ok (.build o) := rfl
  have htarget : w.files.target "a.js" = .ok l := rfl
  have hbefore : ReadsTo (.next .empty) ["-v"] (.next ⟨none, none, none, true, false⟩) :=
    .argument (by decide) rfl (.nil _)
  obtain ⟨printed, written, w', hprint, hwrite, halike, hshows, -⟩ :=
    print_or_write hrequest rfl hbefore (by decide) (by decide) htarget
  have hzero : printed.exitCode = 0 := by
    refine hshows.exitCode_eq.resolve_right fun hone => ?_
    obtain ⟨f, hf⟩ := hshows.exitCode_iff.1 hone
    have hok : (plan o w).outcome.toBool = true := by decide +kernel
    rw [build_of_no_output rfl] at hf
    rw [hf] at hok
    cases hok
  exact ⟨hrequest, htarget, printed, written, w', hprint, hwrite, halike, hzero,
    (halike.of_success hzero).1⟩

end CommandLine

end KScript
