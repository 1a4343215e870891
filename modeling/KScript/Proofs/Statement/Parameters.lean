import KScript.Session
import KScript.Proofs.Contents.Headers
import KScript.Proofs.Literal.Joining
import KScript.Proofs.Statement.Binding

/-!
# The names that a parameter list binds

A parameter list is split at every comma, also at those that a literal or an escape takes out of its
structure.  The names that are bound are those of the pieces between structural commas, and those that
stand behind a hidden comma.
-/

namespace KScript

open Text

namespace Text

variable {c : Char} {b e p t w : Text} {ps : List Text}

/-! ## Splitting at every occurrence -/

theorem splitOn_append_cons (a b : Text) : (a ++ c :: b).splitOn c = a.splitOn c ++ b.splitOn c :=
  List.splitOnP_append_cons a b (beq_self_eq_true c)

/-- Splitting at every occurrence splits the pieces between structural ones further. -/
theorem CutsInto.splitOn_eq (h : CutsInto (· == c) t ps) :
    t.splitOn c = ps.flatMap fun p => p.splitOn c := by
  induction h with
  | whole t => rw [List.flatMap_singleton]
  | @cut a d b ps ha hd hsep hb ih =>
    obtain rfl : d = c := beq_iff_eq.1 hsep
    rw [splitOn_append_cons, ih, List.flatMap_cons]

/-- Trimming a text trims its first and its last part. -/
theorem map_trim_splitOn_trim (hc : isBlank c = false) (t : Text) :
    (t.trim.splitOn c).map trim = (t.splitOn c).map trim := by
  have hnot {b : Text} (hb : b.Blank) : c ∉ b := fun hmem =>
    Bool.noConfusion (hc.symm.trans (hb c hmem))
  suffices h : ∀ b e : Text, b.Blank → e.Blank →
      ((b ++ (t.trim ++ e)).splitOn c).map trim = (t.trim.splitOn c).map trim by
    obtain ⟨b, e, hb, he, ht⟩ := exists_blank_append_trim_append_blank t
    rw [← h b e hb he, ← ht]
  -- Each side of an occurrence has blanks at one end only.
  generalize t.trim = u
  induction hn : u.length using Nat.strong_induction_on generalizing u with
  | _ n ih =>
    intro b e hb he
    by_cases hmem : c ∈ u
    · obtain ⟨x, y, rfl⟩ := List.append_of_mem hmem
      simp only [List.length_append, List.length_cons] at hn
      have hx := ih x.length (by omega) x rfl b [] hb (List.forall_mem_nil _)
      have hy := ih y.length (by omega) y rfl [] e (List.forall_mem_nil _) he
      rw [List.append_nil] at hx
      rw [List.nil_append] at hy
      rw [List.append_assoc, List.cons_append, ← List.append_assoc, splitOn_append_cons,
        splitOn_append_cons, List.map_append, List.map_append, hx, hy]
    · have hmem' : c ∉ b ++ (u ++ e) := by
        simp only [List.mem_append, not_or]
        exact ⟨hnot hb, hmem, hnot he⟩
      rw [List.splitOn_eq_singleton hmem, List.splitOn_eq_singleton hmem', List.map_singleton,
        List.map_singleton, trim_append_left hb, trim_append_right he]

/-- The first part ends at the first occurrence. -/
theorem splitOn_eq_cons (c : Char) (t : Text) :
    t.splitOn c = t.takeWhile (· != c) :: (t.splitOn c).tail := by
  by_cases hmem : c ∈ t
  · obtain ⟨a, b, rfl, ha⟩ := List.eq_append_cons_of_mem hmem
    rw [splitOn_append_cons, List.splitOn_eq_singleton ha, List.singleton_append,
      takeWhile_append_cons ha, List.tail_cons]
  · rw [List.splitOn_eq_singleton hmem, takeWhile_of_not_mem hmem, List.tail_cons]

/-- The parts behind the first one begin behind an occurrence. -/
theorem mem_tail_splitOn_iff :
    w ∈ (t.splitOn c).tail ↔ ∃ a b : Text, t = a ++ c :: b ∧ w = b.takeWhile (· != c) := by
  constructor
  · intro h
    induction hn : t.length using Nat.strong_induction_on generalizing t with
    | _ n ih =>
      by_cases hmem : c ∈ t
      · obtain ⟨a, b, rfl, ha⟩ := List.eq_append_cons_of_mem hmem
        rw [splitOn_append_cons, List.splitOn_eq_singleton ha, List.singleton_append, List.tail_cons,
          splitOn_eq_cons] at h
        rcases List.mem_cons.1 h with rfl | h
        · exact ⟨a, b, rfl, rfl⟩
        · obtain ⟨x, y, rfl, rfl⟩ := ih b.length (by simp at hn; omega) h rfl
          exact ⟨a ++ c :: x, y, by simp, rfl⟩
      · rw [List.splitOn_eq_singleton hmem] at h
        cases h
  · rintro ⟨a, b, rfl, rfl⟩
    rw [splitOn_append_cons, splitOn_eq_cons c b, splitOn_eq_cons c a, List.cons_append, List.tail_cons]
    exact List.mem_append_right _ List.mem_cons_self

end Text

namespace Opener

variable {n p parameters : Text}

/-! ## The name of a parameter -/

/-- Blanks around a parameter do not matter to its name. -/
theorem parameterName_trim (p : Text) : parameterName p.trim = parameterName p := by
  have hnot {b : Text} (hb : b.Blank) : '=' ∉ b := fun h => absurd (hb '=' h) (by decide)
  obtain ⟨b, e, hb, he, hp⟩ := exists_blank_append_trim_append_blank p
  generalize p.trim = m at hp ⊢
  subst hp
  rw [parameterName, parameterName, takeWhile_append_of_not_mem (hnot hb), trim_append_left hb]
  by_cases hm : '=' ∈ m
  · rw [takeWhile_append_of_mem hm]
  · rw [takeWhile_append_of_not_mem hm, takeWhile_of_not_mem hm, takeWhile_of_not_mem (hnot he),
      trim_append_right he]

theorem map_parameterName_trim (ps : List Text) :
    (ps.map trim).map parameterName = ps.map parameterName := by
  rw [List.map_map]
  exact List.map_congr_left fun p _ => parameterName_trim p

/-! ## The names of a parameter list -/

/-- The names of the pieces between structural commas, those that are identifiers. -/
def structuralNames (parameters : Text) : List Text :=
  ((parameters.pieces (· == ',')).map parameterName).filter Text.isIdentifier

/-- The names behind the commas that are not structural, those that are identifiers. -/
def hiddenNames (parameters : Text) : List Text :=
  (((parameters.pieces (· == ',')).flatMap fun p => (p.splitOn ',').tail).map parameterName).filter
    Text.isIdentifier

/-- A hidden name stands behind a comma that a literal or an escape takes out of its piece. -/
theorem mem_hiddenNames : n ∈ hiddenNames parameters ↔
    (∃ p ∈ parameters.pieces (· == ','), ∃ a b : Text, p = a ++ ',' :: b ∧
      (Scan.start.past a).structural ',' = false ∧ parameterName (b.takeWhile (· != ',')) = n) ∧
        n.isIdentifier = true := by
  rw [hiddenNames, List.mem_filter, List.mem_map]
  refine and_congr_left fun _ => ⟨?_, ?_⟩
  · rintro ⟨q, hq, rfl⟩
    obtain ⟨p, hp, hq⟩ := List.mem_flatMap.1 hq
    obtain ⟨a, b, rfl, rfl⟩ := mem_tail_splitOn_iff.1 hq
    refine ⟨_, hp, a, b, rfl, ?_, rfl⟩
    -- A structural comma would have been the end of the piece.
    rw [Bool.eq_false_iff]
    intro hstructural
    have hfree := (cutsInto_pieces (· == ',') parameters).forall_mem_skeleton_of_mem hp
    exact Bool.noConfusion (hfree ',' (mem_skeleton_of_structural hstructural b))
  · rintro ⟨p, hp, a, b, rfl, -, rfl⟩
    exact ⟨_, List.mem_flatMap.2 ⟨_, hp, mem_tail_splitOn_iff.2 ⟨a, b, rfl, rfl⟩⟩, rfl⟩

/-- Up to its first comma a piece has the same name, if it has one. -/
theorem parameterName_takeWhile (hfree : ∀ d ∈ p.skeleton, (d == ',') = false)
    (hn : n.isIdentifier = true) :
    parameterName (p.takeWhile (· != ',')) = n ↔ parameterName p = n := by
  by_cases hmem : ',' ∈ p
  · obtain ⟨q, r, rfl, hq⟩ := List.eq_append_cons_of_mem hmem
    rw [takeWhile_append_cons hq]
    by_cases hsign : '=' ∈ q
    · rw [parameterName, parameterName, takeWhile_append_of_mem hsign]
    · -- Up to the comma nothing ends the name, which then begins with that text and the comma.
      refine iff_of_false (fun h => ?_) fun h => ?_
      · rw [parameterName, takeWhile_of_not_mem hsign] at h
        have hinert : Inert q := inert_of_isIdentifier_trim (h.symm ▸ hn)
        have hstructural : (Scan.start.past q).structural ',' = true :=
          Scan.structural_iff.2 ⟨Scan.past_start_inert hinert, by decide⟩
        exact Bool.noConfusion (hfree ',' (mem_skeleton_of_structural hstructural r))
      · rw [parameterName, takeWhile_append_of_not_mem hsign,
          List.takeWhile_cons_of_pos (by decide)] at h
        have hcomma := not_mem_of_isIdentifier_trim (c := ',') (by decide) (by decide) (h.symm ▸ hn)
        exact hcomma (List.mem_append_right q List.mem_cons_self)
  · rw [takeWhile_of_not_mem hmem]

/-- The bound names are the structural and the hidden ones. -/
theorem mem_parameterNames_iff :
    n ∈ parameterNames parameters ↔ n ∈ structuralNames parameters ∨ n ∈ hiddenNames parameters := by
  have hcuts := cutsInto_pieces (· == ',') parameters
  rw [parameterNames_eq_filter, hcuts.splitOn_eq, structuralNames, hiddenNames, List.mem_filter,
    List.mem_filter, List.mem_filter, ← or_and_right]
  refine and_congr_left fun hn => ?_
  simp only [List.mem_map, List.mem_flatMap]
  constructor
  · rintro ⟨q, ⟨p, hp, hq⟩, rfl⟩
    rw [splitOn_eq_cons] at hq
    rcases List.mem_cons.1 hq with rfl | hq
    · have hname := parameterName_takeWhile (hcuts.forall_mem_skeleton_of_mem hp) hn
      exact .inl ⟨p, hp, hname.1 rfl⟩
    · exact .inr ⟨q, ⟨p, hp, hq⟩, rfl⟩
  · rintro (⟨p, hp, hname⟩ | ⟨q, ⟨p, hp, hq⟩, hname⟩)
    · refine ⟨p.takeWhile (· != ','), ⟨p, hp, ?_⟩, ?_⟩
      · rw [splitOn_eq_cons]
        exact List.mem_cons_self
      · exact (parameterName_takeWhile (hcuts.forall_mem_skeleton_of_mem hp) hn).2 hname
    · exact ⟨q, ⟨p, hp, List.mem_of_mem_tail hq⟩, hname⟩

/-- Blanks around the list do not matter. -/
theorem parameterNames_trim (parameters : Text) :
    parameterNames parameters.trim = parameterNames parameters := by
  rw [parameterNames_eq_filter, parameterNames_eq_filter, ← map_parameterName_trim,
    map_trim_splitOn_trim (by decide), map_parameterName_trim]

/-- Without hidden commas there are no hidden names. -/
theorem hiddenNames_eq_nil (h : ∀ p ∈ parameters.pieces (· == ','), ',' ∉ p) :
    hiddenNames parameters = [] := by
  rw [List.eq_nil_iff_forall_not_mem]
  intro n hn
  obtain ⟨⟨p, hp, a, b, rfl, -⟩, -⟩ := mem_hiddenNames.1 hn
  exact h _ hp (List.mem_append_right a List.mem_cons_self)

/-! ## Headers -/

variable {header signature name : Text}

theorem ofSignature_append_cons (hname : ',' ∉ name) :
    ofSignature (name ++ ',' :: parameters) = .withParameters name.trim parameters.trim := by
  have hcut : cutAt? (· == ',') (name ++ ',' :: parameters) = some (name, parameters) :=
    cutAt?_eq_some_iff.2 ⟨',', rfl, rfl, fun d hd => beq_eq_false_iff_ne.2 fun h => hname (h ▸ hd)⟩
  rw [ofSignature, hcut]

/-- A header whose signature has a comma is a block with parameters. -/
theorem Signature.ofHeader_eq (h : Signature header signature)
    (hsignature : signature = name ++ ',' :: parameters) (hname : ',' ∉ name) :
    ofHeader header = .withParameters name.trim parameters.trim := by
  have hdraw : header ≠ "draw".toList := by
    rintro rfl
    cases h with
    | block s h => exact absurd h (by simp)
    | bare =>
      have hcomma : ',' ∈ "draw".toList := hsignature ▸ List.mem_append_right name List.mem_cons_self
      exact absurd hcomma (by decide)
  rw [ofHeader, if_neg hdraw]
  cases h with
  | block s h =>
    rw [h, dropPrefix?_append]
    dsimp only
    rw [hsignature, ofSignature_append_cons hname]
  | bare h₁ h₂ =>
    rw [dropPrefix?_eq_none_iff.2 h₁, dropPrefix?_eq_none_iff.2 h₂, hsignature]
    exact ofSignature_append_cons hname

end Opener

namespace Session

open Opener

/-- **The names that the header of a block binds.**  A header with a comma opens a block, whatever the
literals of its parameters hold.  A name that was not bound is bound then exactly if it is a name
between structural commas or one behind a hidden comma.  If every comma is structural, the names are
those of the parameters and no others. -/
theorem transform_parameters {statement header signature name parameters : Text} (s : Session)
    (hstatement : statement.trim = header ++ [':']) (hheader : Signature header.trim signature)
    (hsignature : signature = name ++ ',' :: parameters) (hname : ',' ∉ name) :
    let code := "function ".toList ++ name.trim ++ '(' :: parameters.trim ++ ") \x7b".toList
    let scope := (s.scope.bindAll (parameterNames parameters)).inside
    s.transform statement = (.ok code, { s with scope := scope }) ∧
      (∀ n, s.scope.binds n = false →
        (scope.binds n = true ↔ n ∈ structuralNames parameters ∨ n ∈ hiddenNames parameters)) ∧
      ((∀ p ∈ parameters.pieces (· == ','), ',' ∉ p) →
        ∀ n, s.scope.binds n = false → (scope.binds n = true ↔ n ∈ structuralNames parameters)) := by
  intro code scope
  have hreads : Statement.ofText statement =
      .ok (.opener (.withParameters name.trim parameters.trim)) := by
    have hcolon : dropSuffix? (header ++ [':']) [':'] = some header := by
      rw [dropSuffix?_eq_some_iff]
    rw [Statement.ofText, hstatement, Statement.ofTrimmed, hcolon]
    dsimp only
    rw [hheader.ofHeader_eq hsignature hname]
  have htransform : s.transform statement = (.ok code, { s with scope := scope }) := by
    have hafter : Statement.after s.scope (.opener (.withParameters name.trim parameters.trim)) =
        scope := by
      rw [Statement.after, Opener.binds, parameterNames_trim]
    rw [transform, Scope.transform, hreads, ← hafter]
    rfl
  have hbinds (n : Text) (hn : s.scope.binds n = false) :
      scope.binds n = true ↔ n ∈ structuralNames parameters ∨ n ∈ hiddenNames parameters := by
    have hall : scope.binds n = true ↔ s.scope.binds n = true ∨ n ∈ parameterNames parameters :=
      Scope.binds_bindAll
    rw [hall, hn, mem_parameterNames_iff]
    simp
  refine ⟨htransform, hbinds, fun hcommas n hn => ?_⟩
  rw [hbinds n hn, hiddenNames_eq_nil hcommas]
  simp

/-- Two parameters, one of them with a default value. -/
theorem transform_parameters_default :
    let s := start ∅
    let statement : Text := "plot, t , size = 10 :".toList
    (s.transform statement).1 = .ok "function plot(t , size = 10) \x7b".toList ∧
      ∀ n, (s.transform statement).2.scope.binds n = true ↔ n ∈ ["t".toList, "size".toList] := by
  intro s statement
  have hstatement : statement.trim = "plot, t , size = 10 ".toList ++ [':'] := by decide
  have hheader : Signature (Text.trim "plot, t , size = 10 ".toList) "plot, t , size = 10".toList :=
    .bare (by decide) (by decide)
  have hsignature : "plot, t , size = 10".toList = "plot".toList ++ ',' :: " t , size = 10".toList := by
    decide
  have hcommas : ∀ p ∈ Text.pieces (· == ',') " t , size = 10".toList, ',' ∉ p := by decide
  have hnames : structuralNames " t , size = 10".toList = ["t".toList, "size".toList] := by decide
  have hnone (n : Text) : s.scope.binds n = false := by simp [s, start, Scope.empty, Scope.binds]
  obtain ⟨htransform, -, hbinds⟩ :=
    transform_parameters s hstatement hheader hsignature (by decide)
  rw [htransform, ← hnames]
  exact ⟨by decide, fun n => hbinds hcommas n (hnone n)⟩

/-- A name in the literal of a default value is bound, so its first assignment does not declare it. -/
theorem transform_parameters_hidden :
    let s := start ∅
    let parameters : Text := " a = \"x, y, z\"".toList
    let after := (s.transform ("block f,".toList ++ parameters ++ [':'])).2
    parameters.closed = true ∧ structuralNames parameters = ["a".toList] ∧
      hiddenNames parameters = ["y".toList] ∧ s.scope.binds "y".toList = false ∧
      after.scope.binds "y".toList = true ∧
      (after.transform "y = 1".toList).1 = .ok "y = 1;".toList := by
  decide

end Session

end KScript
