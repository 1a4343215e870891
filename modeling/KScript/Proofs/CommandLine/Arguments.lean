import KScript.CommandLine.Arguments
import KScript.Proofs.Outcome

/-!
# An option among the arguments

Arguments are read one after the other, and none of them asks whether an output file has been named,
unless it names one itself.  So an output file may be named in front of any argument that is read as
one, and the rest of the request stays what it was.
-/

namespace KScript

namespace CommandLine

/-! ## Requests with an output file -/

/-- The request that has its output file named. -/
def Request.withOutput (x : String) : Request → Request
  | build o => build { o with output := some x }
  | version => version
  | help => help

/-- What has been said, and an output file. -/
def Partial.withOutput (x : String) (p : Partial) : Partial := { p with output := some x }

namespace Progress

/-- The reading after an output file is named. -/
def withOutput (x : String) : Progress → Progress
  | next p => next (p.withOutput x)
  | await s p => await s (p.withOutput x)
  | answered request => answered (request.withOutput x)

/-- A reading that has met no output file and waits for none. -/
def IsFree : Progress → Prop
  | next p => p.output = none
  | await s p => s ≠ .output ∧ p.output = none
  | answered request => ∃ o, request = .build o ∧ o.output = none

end Progress

/-- A step that does not ask whether an output file has been named: if none has been named after the
step, none had been before it, and if one is named before it, the rest stays the same. -/
def Ignores (x : String) (f : Partial → Except UsageError Progress) : Prop :=
  ∀ p q, f p = .ok q → q.IsFree → p.output = none ∧ f (p.withOutput x) = .ok (q.withOutput x)

variable {x : String}

/-- A file name says nothing about an output file. -/
theorem setInput_withOutput {p q : Partial} {a : String} (h : p.setInput a = .ok q) :
    q.output = p.output ∧ (p.withOutput x).setInput a = .ok (q.withOutput x) := by
  unfold Partial.setInput at h
  split at h
  · cases h
  next hinput =>
  split at h
  · cases h
  next ha =>
  obtain rfl := Except.ok.inj h
  refine ⟨rfl, ?_⟩
  unfold Partial.setInput
  rw [if_neg ha]
  exact if_neg hinput

/-- An option with a value names an output file or says nothing about one. -/
theorem set_withOutput {p q : Partial} {s : Setting} {value : String} (h : p.set s value = .ok q)
    (hq : q.output = none) :
    s ≠ .output ∧ p.output = none ∧ (p.withOutput x).set s value = .ok (q.withOutput x) := by
  unfold Partial.set at h
  split at h
  · cases h
  next hvalue =>
  cases s with
  | output =>
    dsimp only at h
    split at h
    · cases h
    · obtain rfl := Except.ok.inj h
      cases hq
  | keywords =>
    dsimp only at h
    split at h
    · cases h
    next hkeywords =>
    obtain rfl := Except.ok.inj h
    refine ⟨by rintro ⟨⟩, hq, ?_⟩
    unfold Partial.set
    rw [if_neg hvalue]
    exact if_neg hkeywords

theorem ignores_set (s : Setting) (value : String) :
    Ignores x fun p => (p.set s value).map .next := by
  intro p q h hq
  obtain ⟨said, hset, rfl⟩ := map_eq_ok_iff.1 h
  obtain ⟨-, hp, hx⟩ := set_withOutput (x := x) hset hq
  exact ⟨hp, map_eq_ok_iff.2 ⟨_, hx, rfl⟩⟩

theorem ignores_setInput (a : String) : Ignores x fun p => (p.setInput a).map .next := by
  intro p q h hq
  obtain ⟨said, hset, rfl⟩ := map_eq_ok_iff.1 h
  obtain ⟨hp, hx⟩ := setInput_withOutput (x := x) hset
  exact ⟨hp ▸ hq, map_eq_ok_iff.2 ⟨_, hx, rfl⟩⟩

theorem ignores_raise (f : Flag) : Ignores x fun p => p.raise f := by
  intro p q h hq
  cases f with
  | verbose =>
    change (if p.verbose then _ else _) = _ at h
    split at h
    · cases h
    next hverbose =>
    obtain rfl := Except.ok.inj h
    exact ⟨hq, if_neg hverbose⟩
  | denyErrors =>
    change (if p.denyErrors then _ else _) = _ at h
    split at h
    · cases h
    next hdeny =>
    obtain rfl := Except.ok.inj h
    exact ⟨hq, if_neg hdeny⟩
  | version | help =>
    obtain rfl := Except.ok.inj h
    obtain ⟨o, ho, -⟩ := hq
    cases ho

theorem ignores_readAttached (s : Setting) (t : Text) : Ignores x fun p => readAttached p s t := by
  cases t with
  | nil =>
    intro p q h hq
    obtain rfl := Except.ok.inj h
    exact ⟨hq.2, rfl⟩
  | cons c r => exact ignores_set s _

theorem ignores_readShort (t : Text) : Ignores x fun p => readShort p t := by
  induction t with
  | nil =>
    intro p q h hq
    obtain rfl := Except.ok.inj h
    exact ⟨hq, rfl⟩
  | cons c r ih =>
    intro p q h hq
    dsimp only at h ⊢
    unfold readShort at h ⊢
    cases hswitch : Switch.ofShort? c with
    | none =>
      rw [hswitch] at h
      cases h
    | some switch =>
      rw [hswitch] at h
      cases switch with
      | setting s => exact ignores_readAttached s r p q h hq
      | flag f =>
        obtain ⟨progress, hraise, h⟩ := bind_eq_ok_iff.1 h
        cases progress with
        | next said =>
          obtain ⟨hsaid, hrest⟩ := ih said q h hq
          obtain ⟨hp, hx⟩ := ignores_raise f p _ hraise hsaid
          exact ⟨hp, bind_eq_ok_iff.2 ⟨_, hx, hrest⟩⟩
        | await s said =>
          obtain rfl := Except.ok.inj h
          obtain ⟨hp, hx⟩ := ignores_raise f p _ hraise hq
          exact ⟨hp, bind_eq_ok_iff.2 ⟨_, hx, rfl⟩⟩
        | answered request =>
          obtain rfl := Except.ok.inj h
          obtain ⟨hp, hx⟩ := ignores_raise f p _ hraise hq
          exact ⟨hp, bind_eq_ok_iff.2 ⟨_, hx, rfl⟩⟩

theorem ignores_readLong (t : Text) : Ignores x fun p => readLong p t := by
  intro p q h hq
  dsimp only at h ⊢
  unfold readLong at h ⊢
  cases hswitch : Switch.ofLong? (t.takeWhile (· != '=')) with
  | none =>
    rw [hswitch] at h
    cases h
  | some switch =>
    rw [hswitch] at h
    cases hvalue : t.dropWhile (· != '=') with
    | nil =>
      rw [hvalue] at h
      cases switch with
      | setting s =>
        obtain rfl := Except.ok.inj h
        exact ⟨hq.2, rfl⟩
      | flag f => exact ignores_raise f p q h hq
    | cons c value =>
      rw [hvalue] at h
      cases switch with
      | setting s => exact ignores_set s _ p q h hq
      | flag f => cases h

/-- An argument is a long option, joined short options or a file name. -/
theorem readArgument_cases (a : String) :
    (∃ t, ∀ p, readArgument p a = readLong p t) ∨ (∃ t, ∀ p, readArgument p a = readShort p t) ∨
      ∀ p, readArgument p a = (p.setInput a).map .next := by
  unfold readArgument
  split
  · exact .inl ⟨_, fun _ => rfl⟩
  · exact .inr (.inl ⟨_, fun _ => rfl⟩)
  · exact .inr (.inr fun _ => rfl)

theorem ignores_readArgument (a : String) : Ignores x fun p => readArgument p a := by
  rcases readArgument_cases a with ⟨t, ht⟩ | ⟨t, ht⟩ | ha
  · simpa only [ht] using ignores_readLong t
  · simpa only [ht] using ignores_readShort t
  · simpa only [ha] using ignores_setInput a

/-! ## All arguments -/

theorem readFiles_withOutput {p q : Partial} {as : List String} (h : readFiles p as = .ok q) :
    q.output = p.output ∧ readFiles (p.withOutput x) as = .ok (q.withOutput x) := by
  induction as generalizing p with
  | nil =>
    obtain rfl := Except.ok.inj h
    exact ⟨rfl, rfl⟩
  | cons a as ih =>
    obtain ⟨said, hset, h⟩ := bind_eq_ok_iff.1 h
    obtain ⟨hsaid, hset⟩ := setInput_withOutput (x := x) hset
    obtain ⟨hq, hrest⟩ := ih h
    exact ⟨hq.trans hsaid, bind_eq_ok_iff.2 ⟨_, hset, hrest⟩⟩

theorem finish_withOutput {p : Partial} {o : Build.Options} (h : p.finish = .ok (.build o)) :
    o.output = p.output ∧
      (p.withOutput x).finish = .ok (.build { o with output := some x }) := by
  unfold Partial.finish at h
  split at h
  · cases h
  next input hinput =>
  cases h
  refine ⟨rfl, ?_⟩
  unfold Partial.finish Partial.withOutput
  dsimp only
  rw [hinput]

/-- Naming an output file before the remaining arguments are read changes the output of the request
and nothing else, if these do not name one. -/
theorem readAll_withOutput {q : Progress} {as : List String} {o : Build.Options}
    (h : readAll q as = .ok (.build o)) (ho : o.output = none) :
    q.IsFree ∧ readAll (q.withOutput x) as = .ok (.build { o with output := some x }) := by
  induction as generalizing q with
  | nil =>
    cases q with
    | answered request =>
      obtain rfl := Except.ok.inj h
      exact ⟨⟨o, rfl, ho⟩, rfl⟩
    | next p =>
      obtain ⟨hp, hx⟩ := finish_withOutput (x := x) h
      exact ⟨hp.symm.trans ho, hx⟩
    | await s p => cases h
  | cons a as ih =>
    cases q with
    | answered request =>
      obtain rfl := Except.ok.inj h
      exact ⟨⟨o, rfl, ho⟩, rfl⟩
    | next p =>
      unfold readAll at h
      split at h
      · next ha =>
        obtain ⟨q, hfiles, hfinish⟩ := bind_eq_ok_iff.1 h
        obtain ⟨hq, hfiles⟩ := readFiles_withOutput (x := x) hfiles
        obtain ⟨ho', hfinish⟩ := finish_withOutput (x := x) hfinish
        refine ⟨(hq.symm.trans ho'.symm).trans ho, ?_⟩
        rw [Progress.withOutput, readAll, if_pos ha]
        exact bind_eq_ok_iff.2 ⟨_, hfiles, hfinish⟩
      · next ha =>
        obtain ⟨progress, hargument, hrest⟩ := bind_eq_ok_iff.1 h
        obtain ⟨hfree, hrest⟩ := ih hrest
        obtain ⟨hp, hargument⟩ := ignores_readArgument (x := x) a p progress hargument hfree
        refine ⟨hp, ?_⟩
        rw [Progress.withOutput, readAll, if_neg ha]
        exact bind_eq_ok_iff.2 ⟨_, hargument, hrest⟩
    | await s p =>
      unfold readAll at h
      split at h
      · next ha =>
        obtain ⟨said, hset, hrest⟩ := bind_eq_ok_iff.1 h
        obtain ⟨hfree, hrest⟩ := ih hrest
        obtain ⟨hs, hp, hset⟩ := set_withOutput (x := x) hset hfree
        refine ⟨⟨hs, hp⟩, ?_⟩
        rw [Progress.withOutput, readAll, if_pos ha]
        exact bind_eq_ok_iff.2 ⟨_, hset, hrest⟩
      · cases h

/-! ## Places among the arguments -/

/-- The reading goes on from `q` to `z` with the given arguments, none of which is the `--` behind
which all arguments are file names. -/
inductive ReadsTo : Progress → List String → Progress → Prop
  | nil (q : Progress) : ReadsTo q [] q
  | argument {p : Partial} {q z : Progress} {a : String} {as : List String} (ha : a ≠ "--")
      (h : readArgument p a = .ok q) (has : ReadsTo q as z) : ReadsTo (.next p) (a :: as) z
  | value {p said : Partial} {z : Progress} {s : Setting} {a : String} {as : List String}
      (ha : isValue a = true) (h : p.set s a = .ok said) (has : ReadsTo (.next said) as z) :
      ReadsTo (.await s p) (a :: as) z

theorem ReadsTo.readAll_append {q z : Progress} {as : List String} (h : ReadsTo q as z)
    (bs : List String) : readAll q (as ++ bs) = readAll z bs := by
  induction h with
  | nil q => rfl
  | argument ha h has ih =>
    rw [List.cons_append, readAll, if_neg ha, h]
    exact ih
  | value ha h has ih =>
    rw [List.cons_append, readAll, if_pos ha, h]
    exact ih

/-- Naming an output file by an option of its own. -/
theorem readAll_output {p : Partial} (hp : p.output = none) (hx : x ≠ "") (hvalue : isValue x = true)
    (as : List String) :
    readAll (.next p) ("-o" :: x :: as) = readAll (.next (p.withOutput x)) as := by
  have hoption : readArgument p "-o" = .ok (.await .output p) := rfl
  have hset : p.set .output x = .ok (p.withOutput x) := by
    unfold Partial.set
    rw [if_neg hx, hp]
    rfl
  rw [readAll, if_neg (by decide), hoption]
  change readAll (.await .output p) (x :: as) = _
  rw [readAll, if_pos hvalue, hset]
  rfl

/-- Where arguments ask for a build without an output file, an output file may be named between any
two of them that are read as options or as a file name. -/
theorem ofArguments_insert_output {before behind : List String} {said : Partial} {o : Build.Options}
    (h : Request.ofArguments (before ++ behind) = .ok (.build o)) (ho : o.output = none)
    (hbefore : ReadsTo (.next .empty) before (.next said)) (hx : x ≠ "") (hvalue : isValue x = true) :
    Request.ofArguments (before ++ "-o" :: x :: behind) =
      .ok (.build { o with output := some x }) := by
  unfold Request.ofArguments at h ⊢
  rw [hbefore.readAll_append] at h ⊢
  obtain ⟨hsaid, hrest⟩ := readAll_withOutput (x := x) h ho
  rw [readAll_output hsaid hx hvalue]
  exact hrest

end CommandLine

end KScript
