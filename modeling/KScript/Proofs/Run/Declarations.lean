import KScript.Proofs.Run.Replay
import KScript.Proofs.Statement.Declaring

/-!
# Declarations

Whether an assignment declares its target is decided by the statements before it: by the last opener
or closer of a block among them, and by whether one of them binds the name.  So every name is given a
`let` at most once, and never after it was bound, besides those that the author wrote.
-/

namespace KScript

namespace Emission

/-- `e` answers a plain assignment to `n`, behind the statements `ts`, and `w` is the code of its
value there. -/
structure Assigns (keywords : Names) (scope : Scope) (es : List Emission) (ts : List Text)
    (e : Emission) (n w : Text) : Prop where
  stands : Stands es ts e
  assigns : ∃ t v, e.statement? = some t ∧ Statement.IsAssignment t n v ∧
    (scope.follow ts).reduce keywords v = .ok w

/-- `e` answers a plain assignment to the identifier `n` with a line that begins with `let n = `. -/
structure Declares (e : Emission) (n : Text) : Prop where
  isIdentifier : n.isIdentifier = true
  assigns : ∃ t v, e.statement? = some t ∧ Statement.IsAssignment t n v
  code : Statement.letHead n <+: e.code

/-- The rules by which the emissions of a run declare names. -/
structure Discipline (keywords : Names) (scope : Scope) (es : List Emission) : Prop where
  /-- Outside of blocks every assignment declares. -/
  outside : ∀ ts e n w, Assigns keywords scope es ts e n w → n.isIdentifier = true →
    Statement.insideAfter ts = false → e.code = "var ".toList ++ n ++ " = ".toList ++ w ++ [';']
  /-- Inside a block the first binding declares. -/
  first : ∀ ts e n w, Assigns keywords scope es ts e n w → n.isIdentifier = true →
    Statement.insideAfter ts = true → (¬ ∃ u ∈ ts, Statement.Binds u n) →
    e.code = "let ".toList ++ n ++ " = ".toList ++ w ++ [';']
  /-- Inside a block a bound name is assigned without declarator. -/
  again : ∀ ts e n w, Assigns keywords scope es ts e n w → n.isIdentifier = true →
    Statement.insideAfter ts = true → (∃ u ∈ ts, Statement.Binds u n) →
    e.code = n ++ " = ".toList ++ w ++ [';']
  /-- A line that begins with a declaration is one of these, or the author wrote the `let`. -/
  declares : ∀ e ∈ es, ∀ n, n.isIdentifier = true → Statement.letHead n <+: e.code →
    Declares e n ∨ ∃ t, e.statement? = some t ∧ "let ".toList <+: t
  /-- Among the plain assignments to a name, one at most declares it with `let`.  A `let` that the author
  wrote, as in `let x = 1` or `for let i = 0`, is none of these and is not counted. -/
  once : ∀ n, es.Pairwise fun a b => ¬ (Declares a n ∧ Declares b n)
  /-- No assignment to a name declares it with `let` after it was bound.  A `let` that the author wrote
  neither declares in this sense nor binds. -/
  fresh : ∀ ts e n, Stands es ts e → Declares e n → ¬ ∃ u ∈ ts, Statement.Binds u n
  /-- An identifier is assigned without declarator only inside a block and after it was bound. -/
  bound : ∀ ts e t n v, Stands es ts e → e.statement? = some t → Statement.IsAssignment t n v →
    n.isIdentifier = true → n ++ " = ".toList <+: e.code →
    Statement.insideAfter ts = true ∧ ∃ u ∈ ts, Statement.Binds u n
  /-- A failed statement binds nothing. -/
  failed : ∀ k t f, Emission.failed k t f ∈ es → ∀ n, ¬ Statement.Binds t n
  /-- A combining assignment binds nothing and has no declarator. -/
  combined : ∀ ts e t m op v w, Stands es ts e → e.statement? = some t →
    Statement.isSimple t = true → Assignment.ofText? t = some ⟨m, some op, v⟩ → m ≠ [] →
    (scope.follow ts).reduce keywords v = .ok w →
    (∀ n, ¬ Statement.Binds t n) ∧ e.code = m ++ ' ' :: op :: "= ".toList ++ w ++ [';']
  /-- An assignment to anything but an identifier binds nothing and has no declarator. -/
  member : ∀ ts e t m v w, Stands es ts e → e.statement? = some t → Statement.IsAssignment t m v →
    m.isIdentifier = false → m ≠ [] → (scope.follow ts).reduce keywords v = .ok w →
    (∀ n, ¬ Statement.Binds t n) ∧ e.code = m ++ " = ".toList ++ w ++ [';']

end Emission

/-! ## Emissions of assignments -/

namespace Emission

open Statement

variable {keywords : Names} {s : Scope} {k : Nat} {t m v w : Text}

/-- The code of an assignment whose value can be read. -/
theorem ofItem_assignment {op : Option Char} (ht : t.trim = t) (hs : isSimple t = true)
    (ha : Assignment.ofText? t = some ⟨m, op, v⟩) (hm : m ≠ [])
    (hw : s.reduce keywords v = .ok w) :
    (ofItem keywords (s.onLine k) (.statement t)).1 =
      done k t (op.elim (declarator s m ++ assignHead m ++ (w ++ [';']))
        fun o => m ++ ' ' :: o :: ("= ".toList ++ w ++ [';'])) := by
  obtain ⟨value, hv, rfl⟩ := Scope.reduce_eq_ok_iff.1 hw
  have hread := (Reads.assignment _ hs ha).ofText_eq ht
  rw [ofAssignment_of_ne_nil hm hv] at hread
  rw [ofItem_of_ok keywords (s.onLine k) hread]
  cases op with
  | none =>
    rw [Option.elim, Option.elim, render_assign]
    rfl
  | some o =>
    rw [Option.elim, Option.elim, render_update]
    rfl

/-- A statement that fails binds nothing. -/
theorem not_binds_of_failed {f : Failure} (ht : t.trim = t)
    (h : (ofItem keywords s (.statement t)).1 = failed k t f) {n : Text} : ¬ Binds t n := by
  rw [← mem_boundNames_iff ht, boundNames]
  cases hr : ofText t with
  | ok st =>
    rw [ofItem_of_ok keywords s hr] at h
    cases h
  | error f => exact List.not_mem_nil

/-- An assignment that carries an operator, or that is not to an identifier, binds nothing. -/
theorem not_binds_of_assignment {op : Option Char} (hs : isSimple t = true)
    (ha : Assignment.ofText? t = some ⟨m, op, v⟩) (h : op = none → m.isIdentifier = false)
    {n : Text} : ¬ Binds t n := by
  rw [binds_iff_of_not_isOpener (not_isOpener_of_isSimple hs)]
  rintro ⟨v', value, ⟨-, ha'⟩, -, hi⟩
  rw [ha] at ha'
  cases ha'
  rw [h rfl] at hi
  cases hi

/-- The comment of a failure begins with no name and its sign. -/
theorem not_assignHead_prefix_comment {n : Text} (hi : n.isIdentifier = true) (k : Nat) (t : Text) :
    ¬ assignHead n <+: comment k t := by
  rintro ⟨x, hx⟩
  have heq : n ++ ' ' :: ('=' :: ' ' :: x) = "//".toList ++ ' ' ::
      ("KScript parse error on line ".toList ++ Nat.toDigits 10 k ++ ": ".toList ++ t) := by
    simpa [assignHead, comment, Item.commentMark] using hx
  obtain ⟨rfl, -⟩ :=
    Text.append_cons_inj_of_not_mem (Text.not_mem_of_isIdentifier hi) (by decide) heq
  exact absurd hi (by decide)

end Emission

/-! ## Runs -/

namespace Run

open Emission

variable {keywords : Names} {sketch : Sketch} {ts : List Text} {e : Emission} {t n m v w : Text}

theorem binds_follow_iff (h : Stands (ofSketch keywords sketch).emissions ts e) :
    (sketch.scope.follow ts).binds n = true ↔ ∃ u ∈ ts, Statement.Binds u n := by
  have hempty : sketch.scope.binds n = false := rfl
  rw [Scope.binds_follow, hempty]
  simp only [Bool.false_eq_true, false_or]
  exact exists_congr fun u => and_congr_right fun hu =>
    Statement.mem_boundNames_iff (Sketch.trim_of_mem_statements (subset_of_stands h hu))

/-- The code of an assignment whose value can be read. -/
theorem code_of_stands {op : Option Char} (h : Stands (ofSketch keywords sketch).emissions ts e)
    (ht : e.statement? = some t) (hs : Statement.isSimple t = true)
    (ha : Assignment.ofText? t = some ⟨m, op, v⟩) (hm : m ≠ [])
    (hw : (sketch.scope.follow ts).reduce keywords v = .ok w) :
    e.code = op.elim
      (Statement.declarator (sketch.scope.follow ts) m ++ Statement.assignHead m ++ (w ++ [';']))
      fun o => m ++ ' ' :: o :: ("= ".toList ++ w ++ [';']) := by
  obtain ⟨k, hk, rfl⟩ := eq_ofItem_of_stands h ht
  rw [ofItem_assignment hk.trim_eq hs ha hm hw]
  rfl

theorem code_of_assigns
    (h : Assigns keywords sketch.scope (ofSketch keywords sketch).emissions ts e n w)
    (hi : n.isIdentifier = true) :
    e.code = Statement.declarator (sketch.scope.follow ts) n ++ Statement.assignHead n ++
      (w ++ [';']) := by
  obtain ⟨t, v, ht, ⟨hs, ha⟩, hw⟩ := h.assigns
  exact code_of_stands h.stands ht hs ha (Text.ne_nil_of_isIdentifier hi) hw

/-- A plain assignment to an identifier is answered with its code, or it fails. -/
theorem assigns_or_failed (h : Stands (ofSketch keywords sketch).emissions ts e)
    (ht : e.statement? = some t) (ha : Statement.IsAssignment t n v)
    (hi : n.isIdentifier = true) :
    (∃ w, Assigns keywords sketch.scope (ofSketch keywords sketch).emissions ts e n w) ∧
        Statement.Binds t n ∨ ∃ k f, e = failed k t f := by
  obtain ⟨k, hk, he⟩ := eq_ofItem_of_stands h ht
  cases hv : Value.ofText v with
  | ok value =>
    refine .inl ⟨⟨_, h, t, v, ht, ha, Scope.reduce_eq_ok_iff.2 ⟨value, hv, rfl⟩⟩, ?_⟩
    exact .assignment v value ha hv hi
  | error f =>
    have hread : Statement.ofText t = .error f := by
      have hne : n.isEmpty = false := by simp [Text.ne_nil_of_isIdentifier hi]
      rw [(Statement.Reads.assignment _ ha.1 ha.2).ofText_eq hk.trim_eq]
      simp [Statement.ofAssignment, hne, hv, Except.map]
    exact .inr ⟨k, _, he.trans (congrArg Prod.fst (ofItem_of_error keywords _ hread))⟩

/-- What declares a name binds it, and the name was not bound before. -/
theorem binds_of_declares (h : Stands (ofSketch keywords sketch).emissions ts e)
    (hd : Declares e n) :
    (∃ t, e.statement? = some t ∧ Statement.Binds t n) ∧ ¬ ∃ u ∈ ts, Statement.Binds u n := by
  obtain ⟨hi, ⟨t, v, ht, ha⟩, hcode⟩ := hd
  rcases assigns_or_failed h ht ha hi with ⟨⟨w, hw⟩, hb⟩ | ⟨k, f, rfl⟩
  · refine ⟨⟨t, ht, hb⟩, ?_⟩
    rw [code_of_assigns hw hi] at hcode
    rw [← binds_follow_iff h, Statement.of_letHead_prefix_declarator hi hcode]
    exact Bool.false_ne_true
  · cases Statement.head_of_letHead_prefix hcode

/-- A line that begins with a declaration comes from an assignment to the name, or from a statement
that begins with `let` itself. -/
theorem declares_or_let (h : e ∈ (ofSketch keywords sketch).emissions) (hi : n.isIdentifier = true)
    (hcode : Statement.letHead n <+: e.code) :
    Declares e n ∨ ∃ t, e.statement? = some t ∧ "let ".toList <+: t := by
  obtain ⟨p, q, hes⟩ := List.append_of_mem h
  obtain ⟨k, i, hk, rfl⟩ := emission_eq hes
  cases i with
  | verbatim c =>
    obtain ⟨-, -, line, -, hmem⟩ := Sketch.mem_schedule hk
    obtain ⟨x, hx⟩ := hcode
    rcases Item.head_of_verbatim_mem_ofLine hmem hx.symm with hb | hb
    · exact absurd hb (by decide)
    · exact absurd hb (by decide)
  | statement t =>
    have htrim := (Sketch.holds_of_mem_schedule hk).trim_eq
    have hst := statement?_ofItem keywords
      ((sketch.scope.follow (p.filterMap statement?)).onLine k) (.statement t)
    cases hr : Statement.ofText t with
    | error f =>
      rw [ofItem_of_error keywords _ hr] at hcode
      cases Statement.head_of_letHead_prefix hcode
    | ok st =>
      have hcode' := hcode
      rw [ofItem_of_ok keywords _ hr] at hcode'
      rcases (Statement.form_of_ofText htrim hr).let_cases htrim hi hcode' with ⟨v, ha⟩ | hl
      · exact .inl ⟨hi, ⟨t, v, hst, ha⟩, hcode⟩
      · exact .inr ⟨t, hst, hl⟩

/-- The emissions of a run declare names by the rules. -/
theorem discipline_ofSketch (keywords : Names) (sketch : Sketch) :
    Discipline keywords sketch.scope (ofSketch keywords sketch).emissions where
  outside ts e n w h hi hin := by
    rw [code_of_assigns h hi,
      Statement.declarator_outside hi ((Scope.inBlock_follow rfl ts).trans hin)]
    simp [Statement.assignHead]
  first ts e n w h hi hin hn := by
    rw [← binds_follow_iff h.stands, Bool.not_eq_true] at hn
    rw [code_of_assigns h hi,
      Statement.declarator_first hi ((Scope.inBlock_follow rfl ts).trans hin) hn]
    simp [Statement.assignHead]
  again ts e n w h hi hin hn := by
    rw [← binds_follow_iff h.stands] at hn
    rw [code_of_assigns h hi,
      Statement.declarator_again hi ((Scope.inBlock_follow rfl ts).trans hin) hn]
    simp [Statement.assignHead]
  declares e he n hi hcode := declares_or_let he hi hcode
  once n := by
    refine List.pairwise_iff_forall_sublist.2 fun {a b} hab => ?_
    rintro ⟨ha, hb⟩
    obtain ⟨r, r', hes, har, hbr⟩ := List.cons_sublist_iff.1 hab
    obtain ⟨x, y, rfl⟩ := List.append_of_mem (List.singleton_sublist.1 hbr)
    have hs : Stands (ofSketch keywords sketch).emissions ((r ++ x).filterMap statement?) b :=
      ⟨r ++ x, y, by rw [hes, List.append_assoc], rfl⟩
    obtain ⟨us, hus⟩ := exists_stands (hab.subset List.mem_cons_self)
    obtain ⟨⟨t, ht, hbinds⟩, -⟩ := binds_of_declares hus ha
    refine (binds_of_declares hs hb).2 ⟨t, ?_, hbinds⟩
    exact List.mem_filterMap.2 ⟨a, List.mem_append_left x har, ht⟩
  fresh ts e n h hd := (binds_of_declares h hd).2
  bound ts e t n v h ht ha hi hcode := by
    rcases assigns_or_failed h ht ha hi with ⟨⟨w, hw⟩, -⟩ | ⟨k, f, rfl⟩
    · rw [code_of_assigns hw hi] at hcode
      obtain ⟨hin, hb⟩ := Statement.of_assignHead_prefix_declarator hi hcode
      exact ⟨(Scope.inBlock_follow rfl ts).symm.trans hin, (binds_follow_iff h).1 hb⟩
    · exact absurd hcode (not_assignHead_prefix_comment hi k t)
  failed j t f he n := by
    obtain ⟨ts, h⟩ := exists_stands he
    obtain ⟨k, hk, he⟩ := eq_ofItem_of_stands h rfl
    exact not_binds_of_failed hk.trim_eq he.symm
  combined ts e t m op v w h ht hs ha hm hw := by
    refine ⟨fun n => not_binds_of_assignment hs ha fun ho => absurd ho (Option.some_ne_none op), ?_⟩
    rw [code_of_stands h ht hs ha hm hw]
    simp
  member ts e t m v w h ht ha hi hm hw := by
    refine ⟨fun n => not_binds_of_assignment ha.1 ha.2 fun _ => hi, ?_⟩
    rw [code_of_stands h ht ha.1 ha.2 hm hw]
    simp [Statement.declarator_of_not_isIdentifier hi, Statement.assignHead]

end Run

namespace HostScript

variable {source : Text} {sketch : Sketch}

/-- **Declarations follow the history of the run.**  The code of a script is the code of its
emissions, which answer the statements of the sketch in order and declare names by the rules of
`Emission.Discipline`.  The rules are about the declarators that assignments are given: a `let` that the
author wrote is copied with its statement, and no rule counts it. -/
theorem declarations_disciplined (keywords : Names) (h : Sketch.ofText? source = some sketch) :
    (ofText keywords source).code =
        Text.ofLines ((Run.ofSketch keywords sketch).emissions.map Emission.code) ∧
      (Run.ofSketch keywords sketch).emissions.filterMap Emission.statement? = sketch.statements ∧
      Emission.Discipline keywords sketch.scope (Run.ofSketch keywords sketch).emissions := by
  refine ⟨?_, Run.statements_ofSketch keywords sketch, Run.discipline_ofSketch keywords sketch⟩
  rw [ofText_of_sketch keywords h]
  rfl

/-- In the block that draws, the first assignment declares its target and the second does not. -/
theorem declarations_disciplined_draw :
    let source := "#kscript\ndraw:\nx = 1\nx = 2\nend".toList
    let sketch : Sketch :=
      ⟨false, ["draw:".toList, "x = 1".toList, "x = 2".toList, "end".toList]⟩
    Sketch.ofText? source = some sketch ∧
      (∃ e ∈ (Run.ofSketch ∅ sketch).emissions, e.code = "let x = 1;".toList) ∧
      ∃ e ∈ (Run.ofSketch ∅ sketch).emissions, e.code = "x = 2;".toList := by
  intro source sketch
  have h : Sketch.ofText? source = some sketch := by decide
  obtain ⟨-, hst, hd⟩ := declarations_disciplined ∅ h
  have h₁ : sketch.statements =
    ["draw:".toList] ++ "x = 1".toList :: ["x = 2".toList, "end".toList] := by decide
  have h₂ : sketch.statements =
    ["draw:".toList, "x = 1".toList] ++ "x = 2".toList :: ["end".toList] := by decide
  obtain ⟨e, he, het⟩ := Emission.exists_stands_of_statements (hst.trans h₁)
  obtain ⟨f, hf, hft⟩ := Emission.exists_stands_of_statements (hst.trans h₂)
  have hx : Text.isIdentifier "x".toList = true := by decide
  refine ⟨h, ⟨e, ?_, ?_⟩, ⟨f, ?_, ?_⟩⟩
  · obtain ⟨p, q, hes, -⟩ := he
    exact hes ▸ List.mem_append_right p List.mem_cons_self
  · refine hd.first _ e "x".toList "1".toList ⟨he, _, "1".toList, het, ⟨by decide, by decide⟩, rfl⟩
      hx (by decide) ?_
    rintro ⟨u, hu, hb⟩
    obtain rfl : u = "draw:".toList := by simpa using hu
    rw [← Statement.mem_boundNames_iff (by decide)] at hb
    exact absurd hb (by decide)
  · obtain ⟨p, q, hes, -⟩ := hf
    exact hes ▸ List.mem_append_right p List.mem_cons_self
  · refine hd.again _ f "x".toList "2".toList ⟨hf, _, "2".toList, hft, ⟨by decide, by decide⟩, rfl⟩
      hx (by decide) ?_
    exact ⟨"x = 1".toList, by decide, .assignment "1".toList (.word "1".toList)
      ⟨by decide, by decide⟩ rfl hx⟩

end HostScript

end KScript
