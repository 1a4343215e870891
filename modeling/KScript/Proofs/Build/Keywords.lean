import KScript.Proofs.Build.Gate

/-!
# Keywords files

A keywords file is read line by line: what is trimmed to a name counts, blank lines and comments do not,
and the first line that is neither fails the build with its number.  Of the names that are read only
their set has a part in a build, so two files with the same set of names, whatever their order, comments
and repetitions, give the same build.
-/

namespace KScript

open Text

/-! ## Lines of a keywords file -/

namespace KeywordsFile

variable {path : String} {contents : ByteArray} {s : String} {line : Text} {lines ns : List Text}
  {f : Failure}

/-- Whether a line is, blanks aside, neither passed over nor a name. -/
def Offends (line : Text) : Prop := isSkipped line.trim = false ∧ line.trim.isIdentifier = false

instance : DecidablePred Offends := fun _ => inferInstanceAs (Decidable (_ ∧ _))

/-- What is left of the lines that are not passed over. -/
def named (lines : List Text) : List Text := (lines.map Text.trim).filter fun u => !isSkipped u

theorem named_cons_of_skipped (h : isSkipped line.trim = true) :
    named (line :: lines) = named lines := List.filter_cons_of_neg (by simp [h])

theorem named_cons_of_not_skipped (h : isSkipped line.trim = false) :
    named (line :: lines) = line.trim :: named lines := List.filter_cons_of_pos (by simp [h])

/-- Lines that do not offend are passed over or give their names. -/
theorem namesFrom_append (path : String) (n : Nat) (rest : List Text)
    (h : ∀ line ∈ lines, ¬ Offends line) :
    namesFrom path n (lines ++ rest) =
      (namesFrom path (n + lines.length) rest).map fun ns => named lines ++ ns := by
  induction lines generalizing n with
  | nil =>
    rw [List.nil_append, List.length_nil, Nat.add_zero]
    cases namesFrom path n rest <;> rfl
  | cons line lines ih =>
    obtain ⟨hline, hlines⟩ := List.forall_mem_cons.1 h
    have hcount : n + 1 + lines.length = n + (line :: lines).length := by
      rw [List.length_cons]
      omega
    rw [List.cons_append, namesFrom, ih (n + 1) hlines, hcount]
    split
    · next hskipped => rw [named_cons_of_skipped hskipped]
    · next hnamed =>
      rw [Bool.not_eq_true] at hnamed
      have hname : line.trim.isIdentifier = true := by simpa [Offends, hnamed] using hline
      rw [if_pos hname, named_cons_of_not_skipped hnamed]
      cases namesFrom path (n + (line :: lines).length) rest <;> rfl

theorem namesFrom_of_offends (n : Nat) (h : Offends line) :
    namesFrom path n (line :: lines) = .error (invalid path line.trim n) := by
  rw [namesFrom]
  simp [h.1, h.2]

/-- Either no line offends, or one is the first that does. -/
theorem exists_first_offends (lines : List Text) : (∀ line ∈ lines, ¬ Offends line) ∨
    ∃ before line after, lines = before ++ line :: after ∧ (∀ l ∈ before, ¬ Offends l) ∧
      Offends line := by
  cases hfind : lines.find? fun line => decide (Offends line) with
  | none => exact .inl fun line hline => by simpa using List.find?_eq_none.1 hfind line hline
  | some line =>
    obtain ⟨hline, before, after, hlines, hbefore⟩ := List.find?_eq_some_iff_append.1 hfind
    exact .inr ⟨before, line, after, hlines, fun l hl => by simpa using hbefore l hl,
      of_decide_eq_true hline⟩

theorem names_of_forall {t : Text} (h : ∀ line ∈ t.splitOn '\n', ¬ Offends line) :
    names path t = .ok (named (t.splitOn '\n')) := by
  have hall := namesFrom_append path 1 [] h
  rw [List.append_nil] at hall
  rw [names, hall, namesFrom, Except.map, List.append_nil]

theorem names_of_first {t : Text} {before after : List Text}
    (hlines : t.splitOn '\n' = before ++ line :: after) (hbefore : ∀ l ∈ before, ¬ Offends l)
    (hline : Offends line) : names path t = .error (invalid path line.trim (before.length + 1)) := by
  rw [names, hlines, namesFrom_append path 1 _ hbefore, namesFrom_of_offends _ hline, Except.map,
    Nat.add_comm]

theorem read_file (h : String.fromUTF8? contents = some s) :
    read path (.file contents) = names path s.toList := by
  rw [read, Entry.text, h]
  rfl

theorem read_eq_ok_iff (h : String.fromUTF8? contents = some s) :
    read path (.file contents) = .ok ns ↔
      (∀ line ∈ s.toList.splitOn '\n', ¬ Offends line) ∧ ns = named (s.toList.splitOn '\n') := by
  rw [read_file h]
  constructor
  · intro hread
    rcases exists_first_offends (s.toList.splitOn '\n') with hnone | ⟨_, _, _, hlines, hbefore, hline⟩
    · rw [names_of_forall hnone] at hread
      exact ⟨hnone, (Except.ok.inj hread).symm⟩
    · rw [names_of_first hlines hbefore hline] at hread
      cases hread
  · rintro ⟨hnone, rfl⟩
    exact names_of_forall hnone

theorem read_eq_error_iff (h : String.fromUTF8? contents = some s) :
    read path (.file contents) = .error f ↔ ∃ before line after,
      s.toList.splitOn '\n' = before ++ line :: after ∧ (∀ l ∈ before, ¬ Offends l) ∧ Offends line ∧
        f = invalid path line.trim (before.length + 1) := by
  rw [read_file h]
  constructor
  · intro hread
    rcases exists_first_offends (s.toList.splitOn '\n') with
      hnone | ⟨before, line, after, hlines, hbefore, hline⟩
    · rw [names_of_forall hnone] at hread
      cases hread
    · rw [names_of_first hlines hbefore hline] at hread
      exact ⟨before, line, after, hlines, hbefore, hline, (Except.error.inj hread).symm⟩
  · rintro ⟨before, line, after, hlines, hbefore, hline, rfl⟩
    exact names_of_first hlines hbefore hline

end KeywordsFile

/-! ## Builds under the same names -/

/-- Sets of names are the same if they have the same names, also those that were there before. -/
theorem Names.addAll_congr {s : Names} {ns ns' : List Text}
    (h : ∀ n, (n ∈ s ∨ n ∈ ns) ↔ (n ∈ s ∨ n ∈ ns')) : s.addAll ns = s.addAll ns' := by
  apply Std.ExtTreeSet.ext_mem
  intro n
  rw [mem_addAll, mem_addAll]
  exact h n

namespace Build

variable {o : Options} {w w' : World} {path path' : String} {names : Names} {ns : List Text}

/-- Two worlds in which a build finds the same source, and the same places to write. -/
structure AlikeFor (o : Options) (w w' : World) : Prop where
  source_eq : w.source o = w'.source o
  sameShape : w.files.SameShape w'.files

/-- The same build with another keywords file. -/
def Options.withKeywords (o : Options) (path : String) : Options := { o with keywordsFile := some path }

theorem names_of_read (h : KeywordsFile.read path (w.files.entry path) = .ok ns) :
    w.names (o.withKeywords path) = .ok (Keyword.builtin.addAll ns) := by
  rw [World.names, Options.withKeywords]
  exact map_eq_ok_iff.2 ⟨ns, h, rfl⟩

theorem load_of_names (h : w.names o = .ok names) : load o (w.source o) (w.keywords o) =
    ((w.source o).text o.input).map fun text => (text, names) := by
  cases htext : (w.source o).text o.input with
  | ok text => exact load_eq_ok_iff.2 ⟨htext, h⟩
  | error f =>
    unfold load
    rw [htext]
    rfl

/-- Up to its write, a build asks only for the set of names. -/
theorem plan_withKeywords (halike : AlikeFor o w w')
    (h : w.names (o.withKeywords path) = .ok names) (h' : w'.names (o.withKeywords path') = .ok names) :
    plan (o.withKeywords path) w = plan (o.withKeywords path') w' := by
  have hsource : w.source (o.withKeywords path) = w'.source (o.withKeywords path') := halike.source_eq
  unfold plan prepare
  rw [load_of_names h, load_of_names h', hsource]
  rfl

/-- Two builds end with the same report, and the code that they write stands in the same place. -/
structure EndsAlike (o : Options) (w w' : World) (ended ended' : Report × World) : Prop where
  report_eq : ended.1 = ended'.1
  written : ∀ out target, ended.1.outcome = .ok out → o.output = some target →
    ∃ l, w.files.Replaces ended.2.files target l out.bytes ∧
      w'.files.Replaces ended'.2.files target l out.bytes

/-- What is prepared is written in the same way where the same directories are. -/
theorem endsAlike_finish (h : w.files.SameShape w'.files) (r : Report) :
    EndsAlike o w w' ((finish o r : StateM World Report) w)
      ((finish o r : StateM World Report) w') := by
  cases houtcome : r.outcome with
  | error f =>
    rw [finish_of_error houtcome]
    exact ⟨rfl, fun out target hout _ => by cases houtcome.symm.trans hout⟩
  | ok out =>
    cases hpath : o.output with
    | none =>
      rw [finish_of_no_output hpath]
      exact ⟨rfl, fun _ target _ htarget => by cases hpath.symm.trans htarget⟩
    | some target =>
      rw [finish_of_output houtcome hpath, finish_of_output houtcome hpath]
      rcases h.write target out.bytes with ⟨fault, hw, hw'⟩ | ⟨l, u, u', hw, hw', hreplaces⟩
      · rw [hw, hw']
        exact ⟨rfl, fun _ _ hout _ => by cases hout⟩
      · rw [hw, hw']
        refine ⟨rfl, fun out' target' hout htarget => ⟨l, ?_⟩⟩
        obtain rfl := Except.ok.inj hout
        obtain rfl := Option.some.inj (hpath.symm.trans htarget)
        exact hreplaces

/-- **A keywords file stands for its set of names.**  A file that is text can be read exactly if every
line that is, trimmed, neither empty nor a comment is a name; what is read are these names as they stand,
and otherwise the failure names the first line that offends, with its number among all lines.  Two
keywords files with the same names, counted together with the built-in ones, make builds of the same
source end alike: with the same code and diagnostics, the same reports and the same output.  In one and
the same world the two builds are equal. -/
theorem keywords_file_names :
    (∀ (path : String) (contents : ByteArray) (s : String), String.fromUTF8? contents = some s →
      let lines := s.toList.splitOn '\n'
      let outcome := KeywordsFile.read path (.file contents)
      (∀ ns, outcome = .ok ns ↔
        (∀ line ∈ lines, ¬ KeywordsFile.Offends line) ∧ ns = KeywordsFile.named lines) ∧
      ∀ f, outcome = .error f ↔ ∃ before line after, lines = before ++ line :: after ∧
        (∀ l ∈ before, ¬ KeywordsFile.Offends l) ∧ KeywordsFile.Offends line ∧
          f = KeywordsFile.invalid path line.trim (before.length + 1)) ∧
    ∀ (o : Options) (w w' : World) (path path' : String) (ns ns' : List Text),
      KeywordsFile.read path (w.files.entry path) = .ok ns →
      KeywordsFile.read path' (w'.files.entry path') = .ok ns' →
      (∀ n, (n ∈ Keyword.builtin ∨ n ∈ ns) ↔ (n ∈ Keyword.builtin ∨ n ∈ ns')) →
      AlikeFor o w w' →
      let ended := (build (o.withKeywords path) : StateM World Report) w
      let ended' := (build (o.withKeywords path') : StateM World Report) w'
      EndsAlike o w w' ended ended' ∧ (w = w' → ended = ended') := by
  refine ⟨fun path contents s h => ⟨fun ns => ?_, fun f => ?_⟩, ?_⟩
  · exact KeywordsFile.read_eq_ok_iff h
  · exact KeywordsFile.read_eq_error_iff h
  · intro o w w' path path' ns ns' hread hread' hsame halike ended ended'
    have hnames : w.names (o.withKeywords path) = .ok (Keyword.builtin.addAll ns) :=
      names_of_read hread
    have hnames' : w'.names (o.withKeywords path') = .ok (Keyword.builtin.addAll ns) := by
      rw [Names.addAll_congr hsame]
      exact names_of_read hread'
    have hplan := plan_withKeywords halike hnames hnames'
    -- The keywords file has no part in the end of a build.
    have hended : ended = (finish o (plan (o.withKeywords path) w) : StateM World Report) w :=
      build_eq_finish _ w
    have hended' : ended' = (finish o (plan (o.withKeywords path) w) : StateM World Report) w' := by
      rw [hplan]
      exact build_eq_finish _ w'
    constructor
    · rw [hended, hended']
      exact endsAlike_finish halike.sameShape _
    · rintro rfl
      exact hended.trans hended'.symm

/-- A file whose fourth line is no name, and two files for one sketch, of which one lists a name twice
and the other a name that is built in. -/
theorem keywords_file_names_comments :
    let source := "#kscript\nx = sun\ny = sea"
    let w : World :=
      ⟨FileTree.empty.addFile "k" "  sun\r\n# none\n\nmoon\nsun".toUTF8, source.toUTF8⟩
    let w' : World :=
      ⟨FileTree.empty.addFile "k" "moon\ncircle\n\t#\nsun\n".toUTF8, source.toUTF8⟩
    let o : Options := ⟨"-", some "a.js", none, true, false⟩
    let ended := (build (o.withKeywords "k") : StateM World Report) w
    let ended' := (build (o.withKeywords "k") : StateM World Report) w'
    let out : Output := ⟨"-", source.toList,
      ⟨"var x = sun;\nvar y = \"sea\";".toList, [], ["x".toList, "y".toList], true⟩⟩
    KeywordsFile.read "k" (.file "sun\r\n\n# c\n 1st\nno good".toUTF8) =
        .error (KeywordsFile.invalid "k" "1st".toList 4) ∧
      KeywordsFile.read "k" (w.files.entry "k") =
        .ok ["sun".toList, "moon".toList, "sun".toList] ∧
      KeywordsFile.read "k" (w'.files.entry "k") =
        .ok ["moon".toList, "circle".toList, "sun".toList] ∧
      ended.1.outcome = .ok out ∧ ended'.1 = ended.1 ∧
      ∃ l, w.files.Replaces ended.2.files "a.js" l out.bytes ∧
        w'.files.Replaces ended'.2.files "a.js" l out.bytes := by
  intro source w w' o ended ended' out
  obtain ⟨hfile, hbuilds⟩ := keywords_file_names
  have htext : String.fromUTF8? "sun\r\n\n# c\n 1st\nno good".toUTF8 =
      some "sun\r\n\n# c\n 1st\nno good" := by decide +kernel
  have hbad := ((hfile "k" _ _ htext).2 (KeywordsFile.invalid "k" "1st".toList 4)).2
    ⟨["sun\r".toList, [], "# c".toList], " 1st".toList, ["no good".toList], by decide, by decide,
      by decide, rfl⟩
  have hread : KeywordsFile.read "k" (w.files.entry "k") =
      .ok ["sun".toList, "moon".toList, "sun".toList] := by decide +kernel
  have hread' : KeywordsFile.read "k" (w'.files.entry "k") =
      .ok ["moon".toList, "circle".toList, "sun".toList] := by decide +kernel
  have hcircle : "circle".toList ∈ Keyword.builtin := Names.mem_ofList.2 (by decide)
  have hsame : ∀ n, (n ∈ Keyword.builtin ∨ n ∈ ["sun".toList, "moon".toList, "sun".toList]) ↔
      (n ∈ Keyword.builtin ∨ n ∈ ["moon".toList, "circle".toList, "sun".toList]) := by
    intro n
    simp only [List.mem_cons, List.not_mem_nil, or_false]
    constructor
    · rintro (h | rfl | rfl | rfl)
      · exact .inl h
      · exact .inr (.inr (.inr rfl))
      · exact .inr (.inl rfl)
      · exact .inr (.inr (.inr rfl))
    · rintro (h | rfl | rfl | rfl)
      · exact .inl h
      · exact .inr (.inr (.inl rfl))
      · exact .inl hcircle
      · exact .inr (.inl rfl)
  have halike : AlikeFor o w w' := ⟨rfl, (FileTree.SameShape.refl .empty).put _ _ _⟩
  have hended : ended.1.outcome = .ok out := by decide +kernel
  obtain ⟨⟨hreport, hwritten⟩, -⟩ := hbuilds o w w' "k" "k" _ _ hread hread' hsame halike
  exact ⟨hbad, hread, hread', hended, hreport.symm, hwritten out "a.js" hended rfl⟩

end Build

end KScript
