import KScript.Build.Basic
import KScript.Proofs.Files.Writing

/-!
# How a build ends

A build reads what the world holds at its start, and only when nothing is left that could fail does it
write.  So it ends in one of four ways: with a failure before the write, with code that goes to no file,
with an output that cannot be written, or with an output that is written.  Only the last one changes
the world.
-/

namespace KScript

namespace World

/-- What stands for the source of a build. -/
def source (w : World) (o : Build.Options) : Entry :=
  if o.input = "-" then .file w.input else w.files.entry o.input

/-- What stands for the keywords file of a build. -/
def keywords (w : World) (o : Build.Options) : Option Entry := o.keywordsFile.map w.files.entry

/-- The names with which a build begins: the built-in ones and those of the keywords file. -/
def names (w : World) (o : Build.Options) : Except Failure Names :=
  match o.keywordsFile with
  | none => .ok Keyword.builtin
  | some path => KeywordsFile.extend path (w.files.entry path)

end World

namespace Build

variable {o : Options} {w w' : World} {r : Report} {out : Output}

/-- A build in a world, up to the point where it writes. -/
def plan (o : Options) (w : World) : Report := prepare o (w.source o) (w.keywords o)

/-- The ways in which a build can end. -/
inductive Ends (o : Options) (w : World) : Report → World → Prop
  /-- Before it writes. -/
  | failed (f : Failure) (h : (plan o w).outcome = .error f) : Ends o w (plan o w) w
  /-- With code that goes to no file. -/
  | kept (out : Output) (h : (plan o w).outcome = .ok out) (hno : o.output = none) :
      Ends o w (plan o w) w
  /-- With an output that cannot be written. -/
  | refused (out : Output) (path : String) (fault : FileFault) (h : (plan o w).outcome = .ok out)
      (hpath : o.output = some path) (hwrite : w.files.write path out.bytes = .error fault) :
      Ends o w ⟨.error (.io fault.message), (plan o w).events⟩ w
  /-- With an output that is written. -/
  | written (out : Output) (path : String) (files : FileTree) (h : (plan o w).outcome = .ok out)
      (hpath : o.output = some path) (hwrite : w.files.write path out.bytes = .ok files) :
      Ends o w ⟨.ok out, (plan o w).events ++ o.progress s!"Wrote {path}"⟩ { w with files := files }

/-- Nothing is written before the code is made. -/
theorem build_eq_finish (o : Options) (w : World) :
    (build o : StateM World Report) w = (finish o (plan o w) : StateM World Report) w := by
  unfold build sourceEntry keywordsEntry plan World.source World.keywords
  split <;> cases o.keywordsFile <;> rfl

theorem finish_of_error {f : Failure} (h : r.outcome = .error f) :
    (finish o r : StateM World Report) = pure r := by
  unfold finish
  rw [h]

theorem finish_of_no_output (h : o.output = none) :
    (finish o r : StateM World Report) = pure r := by
  unfold finish
  rw [h]
  cases r.outcome <;> rfl

/-- An output that is made is written. -/
theorem finish_of_output {path : String} (h : r.outcome = .ok out) (hpath : o.output = some path) :
    (finish o r : StateM World Report) w =
      match w.files.write path out.bytes with
      | .ok files => (⟨.ok out, r.events ++ o.progress s!"Wrote {path}"⟩, { w with files := files })
      | .error fault => (⟨.error (.io fault.message), r.events⟩, w) := by
  unfold finish
  rw [h, hpath]
  dsimp only [bind, StateT.bind, FileAccess.write]
  cases w.files.write path out.bytes <;> rfl

/-- Every build ends in one of these ways. -/
theorem ends_build (o : Options) (w : World) :
    Ends o w ((build o : StateM World Report) w).1 ((build o : StateM World Report) w).2 := by
  rw [build_eq_finish]
  cases houtcome : (plan o w).outcome with
  | error f =>
    rw [finish_of_error houtcome]
    exact .failed f houtcome
  | ok out =>
    cases hpath : o.output with
    | none =>
      rw [finish_of_no_output hpath]
      exact .kept out houtcome hpath
    | some path =>
      rw [finish_of_output houtcome hpath]
      cases hwrite : w.files.write path out.bytes with
      | ok files => exact .written out path files houtcome hpath hwrite
      | error fault => exact .refused out path fault houtcome hpath hwrite

/-- After the events up to the write, a build reports the write at most. -/
theorem Ends.events_eq (h : Ends o w r w') :
    r.events = (plan o w).events ∨
      ∃ path : String, r.events = (plan o w).events ++ o.progress s!"Wrote {path}" := by
  cases h with
  | failed | kept | refused => exact .inl rfl
  | written out path => exact .inr ⟨path, rfl⟩

/-! ## What a build makes -/

/-- What a build makes is the script of the source before the build, under the names before the
build. -/
structure Makes (o : Options) (w : World) (out : Output) : Prop where
  sourceFile_eq : out.sourceFile = o.input
  source_eq : (w.source o).text o.input = .ok out.source
  script_eq : ∃ names, w.names o = .ok names ∧ out.script = HostScript.ofText names out.source

theorem load_eq_ok_iff {text : Text} {names : Names} :
    load o (w.source o) (w.keywords o) = .ok (text, names) ↔
      (w.source o).text o.input = .ok text ∧ w.names o = .ok names := by
  unfold load World.keywords World.names
  cases (w.source o).text o.input with
  | error f => simp [bind, Except.bind]
  | ok source =>
    cases o.keywordsFile with
    | none => simp [bind, Except.bind, pure, Except.pure]
    | some path =>
      cases hextend : KeywordsFile.extend path (w.files.entry path) with
      | error f => simp [bind, Except.bind, hextend]
      | ok names => simp [bind, Except.bind, pure, Except.pure, hextend]

theorem makes_of_plan (h : (plan o w).outcome = .ok out) : Makes o w out := by
  unfold plan prepare at h
  cases hload : load o (w.source o) (w.keywords o) with
  | error f =>
    rw [hload] at h
    cases h
  | ok loaded =>
    obtain ⟨text, names⟩ := loaded
    obtain ⟨htext, hnames⟩ := load_eq_ok_iff.1 hload
    rw [hload] at h
    dsimp only at h
    split at h
    · cases h
    · obtain rfl := Except.ok.inj h
      exact ⟨rfl, htext, names, hnames, rfl⟩

/-- **A build changes the file system only as promised.**  A build that fails changes nothing, and
neither does one without an output file.  A build that succeeds leaves the bytes of its code in the
output file and every other file as it was.  What it makes is the script of the source as it was before
the build, under the names as they were before the build, wherever the output goes. -/
theorem build_changes_output_only (o : Options) (w : World) :
    let ended := (build o : StateM World Report) w
    (∀ f, ended.1.outcome = .error f → ended.2 = w) ∧
      (o.output = none → ended.2 = w) ∧
      ∀ out, ended.1.outcome = .ok out → Makes o w out ∧
        ∀ path, o.output = some path → ∃ l, w.files.Replaces ended.2.files path l
          (String.ofList out.script.code).toUTF8 := by
  intro ended
  have hends : Ends o w ended.1 ended.2 := ends_build o w
  refine ⟨?_, ?_, ?_⟩
  · intro f hf
    generalize ended.1 = r, ended.2 = w' at hends hf
    cases hends with
    | failed | kept | refused => rfl
    | written => cases hf
  · intro hno
    generalize ended.1 = r, ended.2 = w' at hends
    cases hends with
    | failed | kept | refused => rfl
    | written out path files h hpath => cases hno.symm.trans hpath
  · intro out hout
    generalize ended.1 = r, ended.2 = w' at hends hout
    cases hends with
    | failed f h => cases h.symm.trans hout
    | kept out' h hno =>
      obtain rfl := Except.ok.inj (h.symm.trans hout)
      exact ⟨makes_of_plan h, fun path hpath => by cases hno.symm.trans hpath⟩
    | refused => cases hout
    | written out' path files h hpath hwrite =>
      cases hout
      refine ⟨makes_of_plan h, fun path' hpath' => ?_⟩
      obtain rfl := Option.some.inj (hpath.symm.trans hpath')
      exact FileTree.exists_replaces_of_write hwrite

/-- A sketch that is overwritten by its own code, under names from a keywords file. -/
theorem build_changes_output_only_overwriting :
    let w : World := ⟨(FileTree.empty.addFile "a.ks" "#kscript\nx = sun\ny = moon".toUTF8).addFile
      "k" "sun\r\n# none\n".toUTF8, ByteArray.empty⟩
    let o : Options := ⟨"a.ks", some "./a.ks", some "k", true, true⟩
    let out : Output := ⟨"a.ks", "#kscript\nx = sun\ny = moon".toList,
      ⟨"var x = sun;\nvar y = \"moon\";".toList, [], ["x".toList, "y".toList], true⟩⟩
    let ended := (build o : StateM World Report) w
    let refused := (build { o with output := some "." } : StateM World Report) w
    ended.1.outcome = .ok out ∧ Makes o w out ∧
      (∃ l, w.files.Replaces ended.2.files "./a.ks" l (String.ofList out.script.code).toUTF8) ∧
      refused.1.outcome = .error (.io FileFault.isDirectory.message) ∧ refused.2 = w := by
  intro w o out ended refused
  have hended : ended.1.outcome = .ok out := by decide +kernel
  have hrefused : refused.1.outcome = .error (.io FileFault.isDirectory.message) := by
    decide +kernel
  obtain ⟨-, -, hok⟩ := build_changes_output_only o w
  obtain ⟨hmakes, hwritten⟩ := hok out hended
  obtain ⟨herror, -, -⟩ := build_changes_output_only { o with output := some "." } w
  exact ⟨hended, hmakes, hwritten "./a.ks" rfl, hrefused, herror _ hrefused⟩

end Build

end KScript
