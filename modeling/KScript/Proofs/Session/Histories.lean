import KScript.Proofs.Run.History
import KScript.Proofs.Session.Stepwise

/-!
# Histories of a session

Requests leave names, a flag, a line and diagnostics behind in a session, but none of these reaches
the next text that is submitted: its script and its reports depend on the built-in names alone.  A
sketch leaves the same session behind whatever was there before, and a text that is no sketch leaves
the scope as it finds it.
-/

namespace KScript

/-- What a session can be asked for. -/
inductive Request where
  /-- The script for a text. -/
  | submit (source : Text)
  /-- The code of a single statement. -/
  | transform (statement : Text)
  /-- The code of a single value. -/
  | reduce (value : Text)
  /-- To take names as built in. -/
  | addKeywords (ns : List Text)
  /-- Whether a name is built in. -/
  | isKeyword (n : Text)
deriving DecidableEq

/-- The names that a request makes built-in ones. -/
def Request.keywords : Request → List Text
  | addKeywords ns => ns
  | submit _ | transform _ | reduce _ | isKeyword _ => []

namespace Session

/-- The session after a request. -/
def next (s : Session) : Request → Session
  | .submit source => (s.submit source).2.2
  | .transform statement => (s.transform statement).2
  | .reduce _ | .isKeyword _ => s
  | .addKeywords ns => s.addKeywords ns

/-- The session after several requests. -/
def afterAll (s : Session) (rs : List Request) : Session := rs.foldl next s

/-! ## Built-in names -/

/-- A request changes the built-in names only by adding to them. -/
theorem keywords_next (s : Session) (r : Request) :
    (s.next r).keywords = s.keywords.addAll r.keywords := by
  cases r with
  | submit source =>
    rw [Request.keywords, Names.addAll_nil, next, submit, after]
    split <;> rfl
  | transform statement =>
    rw [Request.keywords, Names.addAll_nil, next, transform]
    split <;> rfl
  | reduce value => exact (Names.addAll_nil _).symm
  | addKeywords ns => rfl
  | isKeyword n => exact (Names.addAll_nil _).symm

/-- The built-in names after a history are those at its start and those that were added. -/
theorem keywords_afterAll (s : Session) (rs : List Request) :
    (s.afterAll rs).keywords = s.keywords.addAll (rs.flatMap Request.keywords) := by
  induction rs generalizing s with
  | nil => exact (Names.addAll_nil _).symm
  | cons r rs ih =>
    rw [afterAll, List.foldl_cons, ← afterAll, ih, keywords_next, Names.addAll_addAll,
      List.flatMap_cons]

/-! ## Two histories -/

/-- Nothing but the built-in names is read before a sketch. -/
theorem cleared_congr {s t : Session} (h : s.keywords = t.keywords) (debug : Bool) :
    s.cleared debug = t.cleared debug := by
  rw [cleared, cleared, h]

/-- Sessions with the same built-in names work through a sketch alike. -/
theorem work_congr {s t : Session} (h : s.keywords = t.keywords) {source : Text}
    (hmarked : Sketch.isMarked source = true) : s.work source = t.work source := by
  have hsketch : Sketch.ofText? source = some (Sketch.ofMarked source) := if_pos hmarked
  unfold work
  rw [hsketch]
  dsimp only
  rw [cleared_congr h]

/-- **Scripts do not depend on the history of a session.**  Let two sessions have the same built-in
names after any two histories.  A text has the same script and the same reports in both, and
submitting it is working through it in the session that the history left.  After a sketch the scopes
and the diagnostics are the same; any other text is passed through without reports, clears the
diagnostics and leaves the scope as it was. -/
theorem submit_forgets_history (a b : Session) (rs rs' : List Request)
    (hk : ∀ n, n ∈ (a.afterAll rs).keywords ↔ n ∈ (b.afterAll rs').keywords) (source : Text) :
    let s := a.afterAll rs
    let t := b.afterAll rs'
    (s.submit source = s.work source ∧ t.submit source = t.work source) ∧
      (s.submit source).1 = (t.submit source).1 ∧
      (s.submit source).2.1 = (t.submit source).2.1 ∧
      (Sketch.isMarked source = true →
        (s.submit source).2.2.scope = (t.submit source).2.2.scope ∧
          (s.submit source).2.2.diagnostics = (t.submit source).2.2.diagnostics) ∧
      (Sketch.isMarked source = false →
        s.submit source = (⟨source, [], [], false⟩, [], { s with diagnostics := [] }) ∧
          t.submit source = (⟨source, [], [], false⟩, [], { t with diagnostics := [] })) := by
  intro s t
  have hkeywords : s.keywords = t.keywords := Std.ExtTreeSet.ext_mem fun n => hk n
  cases hmarked : Sketch.isMarked source with
  | true =>
    have heq : s.submit source = t.submit source := by
      rw [submit_eq_work, submit_eq_work]
      exact work_congr hkeywords hmarked
    refine ⟨⟨s.submit_eq_work source, t.submit_eq_work source⟩, ?_, ?_, fun _ => ⟨?_, ?_⟩,
      fun h => Bool.noConfusion h⟩
    all_goals rw [heq]
  | false =>
    have hs := s.submit_of_not_isMarked hmarked
    have ht := t.submit_of_not_isMarked hmarked
    refine ⟨⟨s.submit_eq_work source, t.submit_eq_work source⟩, ?_, ?_,
      fun h => Bool.noConfusion h, fun _ => ⟨hs, ht⟩⟩
    all_goals rw [hs, ht]

/-- One session was left inside a block and the other one traced a failure; the same name was added
to both. -/
theorem submit_forgets_history_mixed :
    let s := (start ∅).afterAll [.addKeywords ["k".toList], .transform "draw:".toList]
    let t := (start ∅).afterAll [.submit "#kscript\n#debug\n= 2".toList, .reduce "y".toList,
      .addKeywords ["k".toList]]
    let source := "#kscript\nx = k y".toList
    (s.scope.inBlock = true ∧ t.scope.inBlock = false) ∧
      (s.submit source).1 = (t.submit source).1 ∧
      (s.submit source).2.1 = (t.submit source).2.1 ∧
      (s.submit source).2.2.scope = (t.submit source).2.2.scope := by
  intro s t source
  have hk : ∀ n, n ∈ s.keywords ↔ n ∈ t.keywords := by
    intro n
    rw [keywords_afterAll, keywords_afterAll]
    rfl
  obtain ⟨-, hscript, hrecords, hmarked, -⟩ := submit_forgets_history (start ∅) (start ∅) _ _ hk
    source
  exact ⟨⟨rfl, rfl⟩, hscript, hrecords, (hmarked (by decide)).1⟩

end Session

end KScript
