import KScript.Proofs.Literal.Joining
import KScript.Proofs.Run.Chunks
import KScript.Proofs.Run.Tracing
import Mathlib.Data.List.Forall2
import Mathlib.Tactic.MkIffOfInductiveProp

/-!
# Statements side by side

Statements on one line, with semicolons between them, become what they become line by line: every
semicolon is structural, and behind it the scan starts afresh.  Only the numbers of the lines differ.
The one exception is a first statement that is the word `for` with a blank behind it, which makes the
whole line the header of a loop.
-/

namespace KScript

namespace Text

variable {p : Text} {ps : List Text}

/-! ## Separate statements -/

/-- Statements on one line. -/
def sideBySide (ps : List Text) : Text := "; ".toList.intercalate ps

/-- A statement that can stand on a line of its own, or beside others: it ends where a scan could
start. -/
@[mk_iff]
structure IsSeparate (p : Text) : Prop where
  not_blank : ¬ p.Blank
  no_feed : '\n' ∉ p
  no_return : '\r' ∉ p
  no_semicolon : ';' ∉ p.skeleton
  past_eq : Scan.start.past p = .start
  not_comment : ¬ "//".toList <+: p.trim
  not_directive : p.trim ≠ "#debug".toList

instance : DecidablePred IsSeparate := fun p => decidable_of_iff _ (isSeparate_iff p).symm

theorem sideBySide_singleton (p : Text) : sideBySide [p] = p := List.intercalate_singleton

theorem sideBySide_cons_cons (p q : Text) (ps : List Text) :
    sideBySide (p :: q :: ps) = p ++ ';' :: ([' '] ++ sideBySide (q :: ps)) := by
  rw [sideBySide, List.intercalate_cons_cons, List.append_assoc]
  rfl

/-- A line of separate statements ends where a scan could start. -/
theorem past_sideBySide (h : ∀ q ∈ ps, q.IsSeparate) :
    Scan.start.past (sideBySide ps) = .start := past_intercalate (by decide) fun q hq => (h q hq).past_eq

theorem mem_sideBySide {c : Char} (h : c ∈ sideBySide ps) : c = ';' ∨ c = ' ' ∨ ∃ p ∈ ps, c ∈ p := by
  rw [← or_assoc]
  exact (mem_of_mem_intercalate h).imp_left fun hc => by simpa using hc

/-- The trimmed pieces of a line of separate statements are the trimmed statements. -/
theorem map_trim_pieces_sideBySide (h : ∀ q ∈ p :: ps, q.IsSeparate) :
    ((sideBySide (p :: ps)).trim.pieces (· == ';')).map trim = (p :: ps).map trim := by
  have hsep : ∀ c, isBlank c = true → (c == ';') = false := by
    intro c hc
    rw [beq_eq_false_iff_ne]
    rintro rfl
    exact absurd hc (by decide)
  rw [map_trim_pieces_trim hsep]
  exact map_trim_pieces_intercalate (by decide) (by decide) (by decide) (List.cons_ne_nil p ps)
    (fun q hq => (h q hq).no_semicolon) fun q hq => (h q hq).past_eq

end Text

open Text

/-! ## Items -/

namespace Item

variable {p : Text} {ps : List Text}

/-- A separate statement asks for itself. -/
theorem ofLine_of_isSeparate {line : Text} (hp : p.IsSeparate) (h : line.trim = p.trim) :
    ofLine line = [statement p.trim] := by
  have hblank : ¬ line.Blank := by
    rw [← trim_eq_nil_iff, h, trim_eq_nil_iff]
    exact hp.not_blank
  rw [← h]
  refine (Asks.whole hblank (h ▸ hp.not_comment) fun hcut => ?_).ofLine_eq
  rw [h, isCut, Bool.and_eq_true, List.contains_iff_mem] at hcut
  exact absurd (skeleton_trim_subset p hcut.2) hp.no_semicolon

/-- Separate statements on one line ask for themselves. -/
theorem ofLine_sideBySide (h : ∀ q ∈ p :: ps, q.IsSeparate)
    (hfor : ps = [] ∨ ¬ "for ".toList <+: p.trimStart) {line : Text}
    (hline : line.trim = (sideBySide (p :: ps)).trim) :
    ofLine line = (p :: ps).map fun q => statement q.trim := by
  obtain ⟨hp, hps⟩ := List.forall_mem_cons.1 h
  cases ps with
  | nil =>
    rw [sideBySide_singleton] at hline
    exact ofLine_of_isSeparate hp hline
  | cons q ps =>
    -- What begins the line begins the first statement, unless it holds the semicolon.
    have hstart (w : Text) (hw : ';' ∉ w) (hpre : w <+: line.trim) : w <+: p.trimStart := by
      rw [hline] at hpre
      have hpre := hpre.trans (trimEnd_isPrefix _)
      rw [sideBySide_cons_cons, trimStart_append hp.not_blank] at hpre
      exact isPrefix_of_isPrefix_append_cons hw hpre
    have hpieces := map_trim_pieces_sideBySide h
    rw [← hline] at hpieces
    have hblank : ¬ line.Blank := by
      rw [← trim_eq_nil_iff, hline, trim_eq_nil_iff, sideBySide_cons_cons]
      exact mt blank_of_blank_append_left hp.not_blank
    have hcomment : ¬ commentMark <+: line.trim := fun hc =>
      hp.not_comment (isPrefix_trim_of_isPrefix_trimStart (by decide) (hstart _ (by decide) hc))
    have hsemicolon : ';' ∈ line.trim.skeleton := by
      by_contra hn
      have hwhole : CutsInto (· == ';') line.trim [line.trim] :=
        .whole _ fun d hd => beq_eq_false_iff_ne.2 fun hc => hn (hc ▸ hd)
      rw [hwhole.pieces_eq] at hpieces
      simp at hpieces
    have hcut : isCut line.trim = true := by
      rw [isCut, Bool.and_eq_true, Bool.not_eq_true', ← Bool.not_eq_true, List.isPrefixOf_iff_prefix,
        List.contains_iff_mem]
      exact ⟨fun hw => hfor.resolve_left (List.cons_ne_nil q ps) (hstart _ (by decide) hw),
        hsemicolon⟩
    have hclosed : line.trim.closed = true := by
      rw [hline, closed_trim, closed, past_sideBySide h]
      rfl
    have hfull : ∀ t ∈ (p :: q :: ps).map trim, (!t.isEmpty) = true := by
      intro t ht
      obtain ⟨r, hr, rfl⟩ := List.mem_map.1 ht
      simpa using mt trim_eq_nil_iff.1 (h r hr).not_blank
    rw [(Asks.pieces hblank hcomment hcut hclosed).ofLine_eq, cutStatements, hpieces,
      List.filter_eq_self.2 hfull, List.map_map]
    rfl

end Item

/-- Lines of separate statements ask for these statements. -/
theorem map_snd_schedule {k : Nat} {body ps : List Text} (h : ∀ p ∈ ps, p.IsSeparate)
    (hbody : body.map trim = ps.map trim) :
    (schedule k body).map Prod.snd = ps.map fun p => Item.statement p.trim := by
  induction ps generalizing k body with
  | nil =>
    rw [List.map_eq_nil_iff.1 hbody]
    rfl
  | cons p ps ih =>
    obtain ⟨hp, hps⟩ := List.forall_mem_cons.1 h
    obtain ⟨line, body, rfl, hline, hbody⟩ := List.map_eq_cons_iff.1 hbody
    rw [schedule, Item.ofLine_of_isSeparate hp hline, List.map_append, ih hps hbody]
    rfl

/-- The numbers of the lines are not part of the statements. -/
theorem statements_map_onLine (k : Nat) (es : List (Nat × Item)) :
    statements (es.map fun e => (k, e.2)) = statements es := by
  rw [statements, List.filterMap_map]
  rfl

/-! ## Sketches -/

namespace Sketch

variable {p : Text} {ps : List Text}

/-- A line of separate statements is the only line of its sketch. -/
theorem ofText?_sideBySide (h : ∀ q ∈ p :: ps, q.IsSeparate) :
    ofText? (Text.ofLines [marker, sideBySide (p :: ps)]) =
      some ⟨false, [(sideBySide (p :: ps)).trim]⟩ := by
  have hnot (c : Char) (hc : c ≠ ';') (hb : c ≠ ' ') (hp : ∀ q ∈ p :: ps, c ∉ q) :
      c ∉ sideBySide (p :: ps) := by
    intro hmem
    obtain rfl | rfl | ⟨q, hq, hmem⟩ := mem_sideBySide hmem
    · exact hc rfl
    · exact hb rfl
    · exact hp q hq hmem
  have hfeed := hnot '\n' (by decide) (by decide) fun q hq => (h q hq).no_feed
  have hreturn := hnot '\r' (by decide) (by decide) fun q hq => (h q hq).no_return
  have hdirective : isDirective (sideBySide (p :: ps)) = false := by
    refine beq_eq_false_iff_ne.2 fun hd => ?_
    have hpieces := map_trim_pieces_sideBySide h
    have hnone : ';' ∉ directive.skeleton := by decide
    have hwhole : CutsInto (· == ';') directive [directive] :=
      .whole _ fun c hc => beq_eq_false_iff_ne.2 fun he => hnone (he ▸ hc)
    rw [hd, hwhole.pieces_eq] at hpieces
    exact (h p List.mem_cons_self).not_directive (List.cons.inj hpieces).1.symm
  rw [ofText?_ofLines (List.cons_ne_nil _ _) (by simpa using hfeed) (by simpa using hreturn)
    (by simpa using hdirective), ofLines_singleton,
    lines_eq_singleton fun hc => hfeed (mem_of_mem_trim hc)]

/-- Separate statements on lines of their own are, up to blanks, the lines of their sketch. -/
theorem exists_ofText?_ofLines (h : ∀ q ∈ p :: ps, q.IsSeparate) :
    ∃ body, ofText? (Text.ofLines (marker :: p :: ps)) = some ⟨false, body⟩ ∧
      body.map trim = (p :: ps).map trim := by
  refine ⟨_, ofText?_ofLines (List.cons_ne_nil p ps) (fun q hq => (h q hq).no_feed)
    (fun q hq => (h q hq).no_return) (fun q hq => ?_),
    map_trim_lines_trim_ofLines (List.cons_ne_nil p ps) (fun q hq => (h q hq).not_blank)
      fun q hq => (h q hq).no_feed⟩
  exact beq_eq_false_iff_ne.2 (h q hq).not_directive

/-- The items of a line of separate statements are those of their own lines, all on one line. -/
theorem schedule_sideBySide {body : List Text} (h : ∀ q ∈ p :: ps, q.IsSeparate)
    (hfor : ps = [] ∨ ¬ "for ".toList <+: p.trimStart)
    (hbody : body.map trim = (p :: ps).map trim) :
    KScript.schedule 1 [(sideBySide (p :: ps)).trim] =
      (KScript.schedule 1 body).map fun e => (1, e.2) := by
  have hitems : Item.ofLine (sideBySide (p :: ps)).trim = (KScript.schedule 1 body).map Prod.snd := by
    rw [Item.ofLine_sideBySide h hfor (trim_trim _), map_snd_schedule h hbody]
  rw [KScript.schedule, hitems, List.map_map, KScript.schedule, List.append_nil]
  rfl

end Sketch

/-! ## Emissions on other lines -/

/-- The failure of the same statement on another line. -/
def Failure.onLine (k : Nat) : Failure → Failure
  | statement e => statement { e with line := k }
  | f => f

theorem Statement.render_onLine (keywords : Names) (s : Scope) (k : Nat) (st : Statement) :
    st.render keywords (s.onLine k) = st.render keywords s := by
  cases st <;> rfl

namespace Emission

/-- The emission for the same item on another line. -/
def onLine (k : Nat) : Emission → Emission
  | verbatim c => verbatim c
  | done _ t c => done k t c
  | failed _ t f => failed k t (f.onLine k)

/-- The line of an item shows in the number of its emission only. -/
theorem ofItem_onLine (keywords : Names) (s : Scope) (j k : Nat) (i : Item) :
    (ofItem keywords (s.onLine k) i).1 = (ofItem keywords (s.onLine j) i).1.onLine k := by
  cases i with
  | verbatim c => rfl
  | statement t =>
    cases h : Statement.ofText t with
    | ok st =>
      rw [ofItem_of_ok _ _ h, ofItem_of_ok _ _ h, Statement.render_onLine, Statement.render_onLine]
      rfl
    | error f =>
      rw [ofItem_of_error _ _ h, ofItem_of_error _ _ h]
      rfl

/-- A replay of the same items, all on line `k`. -/
theorem replay_map_onLine (keywords : Names) (s : Scope) (k : Nat) (es : List (Nat × Item)) :
    replay keywords s (es.map fun e => (k, e.2)) = (replay keywords s es).map (onLine k) := by
  induction es generalizing s with
  | nil => rfl
  | cons e es ih =>
    rw [List.map_cons, replay, replay, ih, ofItem_onLine keywords s e.1 k]
    rfl

end Emission

/-! ## Scripts -/

/-- Lines of code that are the same, up to the line number in the comment for a failure. -/
inductive Renumbers : Text → Text → Prop
  | same (c : Text) : Renumbers c c
  | comment (j k : Nat) (t : Text) : Renumbers (Emission.comment j t) (Emission.comment k t)

/-- Diagnostics that are the same up to their line numbers. -/
structure Diagnostic.Renumbers (d d' : Diagnostic) : Prop where
  kind_eq : d.kind = d'.kind
  message_eq : d.message = d'.message
  statement_eq : d.statement = d'.statement

/-- Scripts of sketches that are the same up to line numbers. -/
structure HostScript.Renumbers (a b : HostScript) : Prop where
  left_fromSketch : a.fromSketch = true
  right_fromSketch : b.fromSketch = true
  lines : List.Forall₂ KScript.Renumbers a.code.lines b.code.lines
  diagnostics : List.Forall₂ Diagnostic.Renumbers a.diagnostics b.diagnostics
  boundNames_eq : a.boundNames = b.boundNames

namespace Emission

theorem renumbers_code_onLine (k : Nat) (e : Emission) :
    Renumbers (e.onLine k).code e.code := by
  cases e with
  | verbatim c => exact .same c
  | done j t c => exact .same c
  | failed j t f => exact .comment k j t

theorem renumbers_diagnostics_onLine (k : Nat) (es : List Emission) :
    List.Forall₂ Diagnostic.Renumbers ((es.map (onLine k)).filterMap diagnostic?)
      (es.filterMap diagnostic?) := by
  induction es with
  | nil => exact .nil
  | cons e es ih =>
    cases e with
    | verbatim c => exact ih
    | done j t c => exact ih
    | failed j t f =>
      cases f with
      | statement error => exact .cons ⟨rfl, rfl, rfl⟩ ih
      | io | fileNotFound | unsupported | diagnostics => exact ih

end Emission

/-- Runs that emit the same, one of them all on line `k`, have the same script up to line numbers. -/
theorem HostScript.renumbers_ofRun {source source' : Text} {sketch sketch' : Sketch}
    (keywords : Names) {k : Nat} (h : Sketch.ofText? source = some sketch)
    (h' : Sketch.ofText? source' = some sketch')
    (hne : (Run.ofSketch keywords sketch').emissions ≠ [])
    (hemissions : (Run.ofSketch keywords sketch).emissions =
      (Run.ofSketch keywords sketch').emissions.map (Emission.onLine k))
    (hnames : (Run.ofSketch keywords sketch).scope.names =
      (Run.ofSketch keywords sketch').scope.names) :
    HostScript.Renumbers (.ofRun (Run.ofSketch keywords sketch))
      (.ofRun (Run.ofSketch keywords sketch')) where
  left_fromSketch := rfl
  right_fromSketch := rfl
  lines := by
    have hne' : (Run.ofSketch keywords sketch).emissions ≠ [] := by
      rwa [hemissions, ne_eq, List.map_eq_nil_iff]
    rw [ofRun, ofRun, Run.lines_ofLines_codeLines keywords h hne',
      Run.lines_ofLines_codeLines keywords h' hne, Run.codeLines, Run.codeLines, hemissions,
      List.map_map, List.forall₂_map_left_iff, List.forall₂_map_right_iff, List.forall₂_same]
    exact fun e _ => e.renumbers_code_onLine k
  diagnostics := by
    rw [ofRun, ofRun, Run.diagnostics, Run.diagnostics, hemissions]
    exact Emission.renumbers_diagnostics_onLine k _
  boundNames_eq := congrArg (fun ns : Names => ns.toList) hnames

namespace Session

variable {p : Text} {ps : List Text}

/-- **Statements side by side become what they become line by line.**  The sketch of one line and the
sketch of one line for every statement have the same script up to line numbers, and both end inside a
block or both outside. -/
theorem sideBySide_runs_as_lines (s : Session) (h : ∀ q ∈ p :: ps, q.IsSeparate)
    (hfor : ps = [] ∨ ¬ "for ".toList <+: p.trimStart) :
    let one := s.submit (Text.ofLines ["#kscript".toList, sideBySide (p :: ps)])
    let many := s.submit (Text.ofLines ("#kscript".toList :: p :: ps))
    HostScript.Renumbers one.1 many.1 ∧
      one.2.2.scope.inBlock = many.2.2.scope.inBlock := by
  intro one many
  obtain ⟨body, hmany, hbody⟩ := Sketch.exists_ofText?_ofLines h
  have hone := Sketch.ofText?_sideBySide h
  have hschedule := Sketch.schedule_sideBySide h hfor hbody
  have hasks := map_snd_schedule (k := 1) h hbody
  generalize hline : [(sideBySide (p :: ps)).trim] = line at hone hschedule
  -- The run of the line is the run of the lines, with every emission put on line 1.
  have hemissions : (Run.ofSketch s.keywords ⟨false, line⟩).emissions =
      (Run.ofSketch s.keywords ⟨false, body⟩).emissions.map (Emission.onLine 1) := by
    rw [Run.emissions_ofSketch, Run.emissions_ofSketch, Sketch.schedule, hschedule,
      Emission.replay_map_onLine]
    rfl
  have hstatements : Sketch.statements ⟨false, line⟩ = Sketch.statements ⟨false, body⟩ := by
    rw [Sketch.statements, Sketch.schedule, hschedule, statements_map_onLine]
    rfl
  have hne : (Run.ofSketch s.keywords ⟨false, body⟩).emissions ≠ [] := by
    intro hnil
    rw [Run.emissions_ofSketch, ← List.length_eq_zero_iff, Emission.length_replay,
      List.length_eq_zero_iff, Sketch.schedule] at hnil
    rw [hnil] at hasks
    exact List.cons_ne_nil _ _ hasks.symm
  have hscope : (Run.ofSketch s.keywords ⟨false, line⟩).scope =
      (Run.ofSketch s.keywords ⟨false, body⟩).scope.onLine line.length := by
    rw [Run.scope_ofSketch, Run.scope_ofSketch, hstatements]
    rfl
  have hone' : one = _ := s.submit_of_sketch hone
  have hmany' : many = _ := s.submit_of_sketch hmany
  rw [hone', hmany']
  exact ⟨HostScript.renumbers_ofRun s.keywords hone hmany hne hemissions (by rw [hscope]; rfl),
    by rw [hscope]; rfl⟩

/-- An assignment, a statement that fails, a call between blanks, and an opener. -/
theorem sideBySide_runs_as_lines_mixed :
    let p : Text := "x = 1".toList
    let ps : List Text := [", 2".toList, " say hi ".toList, "draw:".toList]
    (∀ q ∈ p :: ps, q.IsSeparate) ∧ ¬ "for ".toList <+: p.trimStart ∧
      HostScript.Renumbers ((start ∅).submit "#kscript\nx = 1; , 2;  say hi ; draw:".toList).1
        ((start ∅).submit "#kscript\nx = 1\n, 2\n say hi \ndraw:".toList).1 := by
  intro p ps
  have h : ∀ q ∈ p :: ps, q.IsSeparate := by decide
  have hfor : ¬ "for ".toList <+: p.trimStart := by decide
  exact ⟨h, hfor, (sideBySide_runs_as_lines (start ∅) h (.inr hfor)).1⟩

/-- A first statement that is the word `for` with a blank behind it makes the line of a second one the
header of a loop, although no statement begins with `for` and a blank once it is trimmed. -/
theorem not_renumbers_for :
    let p : Text := "for ".toList
    let q : Text := "x".toList
    (∀ r ∈ [p, q], r.IsSeparate) ∧ ¬ "for ".toList <+: p.trim ∧
      ¬ HostScript.Renumbers
        ((start ∅).submit (Text.ofLines ["#kscript".toList, sideBySide [p, q]])).1
        ((start ∅).submit (Text.ofLines ["#kscript".toList, p, q])).1 := by
  intro p q
  refine ⟨by decide, by decide, fun h => ?_⟩
  have hone : ((start ∅).submit (Text.ofLines ["#kscript".toList, sideBySide [p, q]])).1.code =
    "for (; x) \x7b".toList := by decide
  have hmany : ((start ∅).submit (Text.ofLines ["#kscript".toList, p, q])).1.code =
    "\"for\";\n\"x\";".toList := by decide
  have hlength := h.lines.length_eq
  rw [hone, hmany] at hlength
  exact absurd hlength (by decide)

end Session

end KScript
