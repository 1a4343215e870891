import KScript.HostScript
import KScript.Proofs.Run.History

/-!
# Runs as replays

The loop over the lines and the loop over the items of a line are one loop over the schedule of the
sketch.  What an entry of the schedule becomes depends on the keywords, on the line and on the
statements before it, and on nothing else.
-/

namespace KScript

/-! ## Schedules -/

/-- The items of lines that are counted from `k`, each with its line. -/
def schedule (k : Nat) : List Text → List (Nat × Item)
  | [] => []
  | line :: r => (Item.ofLine line).map (fun i => (k, i)) ++ schedule (k + 1) r

theorem schedule_append (k : Nat) (lines lines' : List Text) :
    schedule k (lines ++ lines') = schedule k lines ++ schedule (k + lines.length) lines' := by
  induction lines generalizing k with
  | nil => rfl
  | cons line lines ih =>
    have hlen : k + (lines.length + 1) = k + 1 + lines.length := by omega
    rw [List.cons_append, schedule, schedule, ih, List.append_assoc, List.length_cons, hlen]

/-- The statements of a schedule. -/
def statements (es : List (Nat × Item)) : List Text := es.filterMap fun e => e.2.statement?

@[simp] theorem statements_nil : statements [] = [] := rfl

theorem statements_cons (e : Nat × Item) (es : List (Nat × Item)) :
    statements (e :: es) = e.2.statement?.toList ++ statements es := by
  cases h : e.2.statement? <;> simp [statements, h]

@[simp] theorem statements_append (es fs : List (Nat × Item)) :
    statements (es ++ fs) = statements es ++ statements fs := List.filterMap_append

@[simp] theorem statements_map (k : Nat) (is : List Item) :
    statements (is.map fun i => (k, i)) = is.filterMap Item.statement? := by
  simp [statements, List.filterMap_map]

/-- Every entry of a schedule is an item of its line. -/
theorem mem_schedule {k j : Nat} {i : Item} {lines : List Text} (h : (j, i) ∈ schedule k lines) :
    ∃ line n, lines[n]? = some line ∧ j = k + n ∧ i ∈ Item.ofLine line := by
  induction lines generalizing k with
  | nil => exact absurd h List.not_mem_nil
  | cons line lines ih =>
    rcases List.mem_append.1 h with h | h
    · obtain ⟨i', hi, heq⟩ := List.mem_map.1 h
      cases heq
      exact ⟨line, 0, rfl, rfl, hi⟩
    · obtain ⟨l, n, hl, hj, hi⟩ := ih h
      exact ⟨l, n + 1, hl, by omega, hi⟩

/-- The lines of a schedule do not decrease. -/
theorem pairwise_schedule (k : Nat) (lines : List Text) :
    (schedule k lines).Pairwise fun a b => a.1 ≤ b.1 := by
  induction lines generalizing k with
  | nil => exact .nil
  | cons line lines ih =>
    refine List.pairwise_append.2 ⟨?_, ih (k + 1), ?_⟩
    · exact List.pairwise_map.2 (List.pairwise_of_forall fun _ _ => Nat.le_refl k)
    · rintro ⟨a, i⟩ ha ⟨b, j⟩ hb
      obtain ⟨_, -, heq⟩ := List.mem_map.1 ha
      obtain ⟨_, n, -, hn, -⟩ := mem_schedule hb
      cases heq
      exact hn ▸ (by omega)

/-! ## Replays -/

namespace Emission

/-- The emissions for the entries of a schedule. -/
def replay (keywords : Names) (s : Scope) : List (Nat × Item) → List Emission
  | [] => []
  | e :: r => (ofItem keywords (s.onLine e.1) e.2).1 ::
      replay keywords (s.follow e.2.statement?.toList) r

variable {keywords : Names}

@[simp] theorem length_replay (s : Scope) (es : List (Nat × Item)) :
    (replay keywords s es).length = es.length := by
  induction es generalizing s with
  | nil => rfl
  | cons e es ih => rw [replay, List.length_cons, List.length_cons, ih]

/-- The line of the scope that a replay starts with does not matter. -/
theorem replay_onLine (s : Scope) (j : Nat) (es : List (Nat × Item)) :
    replay keywords (s.onLine j) es = replay keywords s es := by
  induction es generalizing s with
  | nil => rfl
  | cons e es ih => rw [replay, replay, Scope.onLine_onLine, Scope.onLine_follow, ih]

theorem replay_append (s : Scope) (es fs : List (Nat × Item)) :
    replay keywords s (es ++ fs) =
      replay keywords s es ++ replay keywords (s.follow (statements es)) fs := by
  induction es generalizing s with
  | nil => simp [replay]
  | cons e es ih =>
    rw [List.cons_append, replay, replay, ih, Scope.follow_follow, statements_cons]
    rfl

/-- Where a replay stands at one of its emissions. -/
theorem replay_eq_append_cons {s : Scope} {es : List (Nat × Item)} {p q : List Emission}
    {e : Emission} (h : replay keywords s es = p ++ e :: q) :
    ∃ as k i bs, es = as ++ (k, i) :: bs ∧ p = replay keywords s as ∧
      e = (ofItem keywords ((s.follow (statements as)).onLine k) i).1 := by
  induction p generalizing s es with
  | nil =>
    cases es with
    | nil => cases h
    | cons a es =>
      refine ⟨[], a.1, a.2, es, rfl, rfl, ?_⟩
      rw [statements_nil, Scope.follow_nil]
      exact (List.cons.inj h).1.symm
  | cons x p ih =>
    cases es with
    | nil => cases h
    | cons a es =>
      obtain ⟨rfl, ht⟩ := List.cons.inj h
      obtain ⟨as, k, i, bs, rfl, rfl, rfl⟩ := ih ht
      refine ⟨a :: as, k, i, bs, rfl, rfl, ?_⟩
      rw [statements_cons, ← Scope.follow_follow]

/-- The statements that a replay answers are those of its schedule. -/
theorem filterMap_statement?_replay (s : Scope) (es : List (Nat × Item)) :
    (replay keywords s es).filterMap statement? = statements es := by
  induction es generalizing s with
  | nil => rfl
  | cons e es ih =>
    rw [replay, List.filterMap_cons, statement?_ofItem, statements_cons, ih]
    cases e.2.statement? <;> rfl

/-- The loop over the items of a line is a replay. -/
theorem carry_ofItem (s : Scope) (is : List Item)
    (h : ∀ i ∈ is, ∀ t, i.statement? = some t → t.trim = t) :
    carry (ofItem keywords) s is =
      (replay keywords s (is.map fun i => (s.line, i)),
        s.follow (is.filterMap Item.statement?)) := by
  induction is generalizing s with
  | nil => simp [replay]
  | cons i is ih =>
    have hi := scope_ofItem keywords s (h i List.mem_cons_self)
    have hr := ih (s.follow i.statement?.toList) fun j hj => h j (List.mem_cons_of_mem i hj)
    rw [carry_cons, hi, hr, List.map_cons, replay, Scope.follow_follow, Scope.onLine_self]
    cases hs : i.statement? <;> simp [hs]

/-- The loop over the lines is a replay of their schedule. -/
theorem ofLines_eq_replay (keywords : Names) (s : Scope) (lines : List Text) :
    (ofLines keywords s lines).1.flatten = replay keywords s (schedule (s.line + 1) lines) ∧
      (ofLines keywords s lines).2 =
        (s.follow (statements (schedule (s.line + 1) lines))).onLine (s.line + lines.length) := by
  induction lines generalizing s with
  | nil => simp [ofLines, schedule, replay]
  | cons line lines ih =>
    have htrim : ∀ i ∈ Item.ofLine line, ∀ t, i.statement? = some t → t.trim = t := by
      rintro (_ | u) hi t ht
      · cases ht
      · cases ht
        exact (Item.statement_of_mem_ofLine hi).2.1
    have hline : ofLine keywords s line =
        (replay keywords s ((Item.ofLine line).map fun i => (s.line + 1, i)),
          (s.follow ((Item.ofLine line).filterMap Item.statement?)).onLine (s.line + 1)) := by
      rw [ofLine, carry_ofItem _ _ htrim, ← replay_onLine s (s.line + 1)]
      rfl
    obtain ⟨hflat, hscope⟩ :=
      ih ((s.follow ((Item.ofLine line).filterMap Item.statement?)).onLine (s.line + 1))
    rw [ofLines] at hflat hscope
    rw [ofLines, carry_cons, hline, schedule, replay_append, statements_append, statements_map]
    constructor
    · rw [List.flatten_cons, hflat, replay_onLine]
      rfl
    · have hlen : s.line + (lines.length + 1) = s.line + 1 + lines.length := by omega
      rw [hscope, List.length_cons, hlen, Scope.onLine_follow, Scope.follow_follow]
      rfl

end Emission

/-! ## Runs of sketches -/

namespace Sketch

variable (sketch : Sketch)

/-- All items of a sketch, each with its line. -/
def schedule : List (Nat × Item) := KScript.schedule 1 sketch.body

/-- All statements of a sketch. -/
def statements : List Text := KScript.statements sketch.schedule

/-- The scope before the first line. -/
def scope : Scope := { Scope.empty with debug := sketch.debug }

variable {sketch}

theorem mem_schedule {k : Nat} {i : Item} (h : (k, i) ∈ sketch.schedule) :
    1 ≤ k ∧ k ≤ sketch.body.length ∧
      ∃ line, sketch.body[k - 1]? = some line ∧ i ∈ Item.ofLine line := by
  obtain ⟨line, n, hl, rfl, hi⟩ := KScript.mem_schedule h
  have hn : n < sketch.body.length := (List.getElem?_eq_some_iff.1 hl).1
  exact ⟨by omega, by omega, line, by simpa using hl, hi⟩

/-- A statement that stands on a line: a trimmed part of it that is not empty. -/
structure Holds (sketch : Sketch) (k : Nat) (t : Text) : Prop where
  one_le : 1 ≤ k
  le_length : k ≤ sketch.body.length
  ne_nil : t ≠ []
  trim_eq : t.trim = t
  isInfix : ∃ line, sketch.body[k - 1]? = some line ∧ t <:+: line

theorem holds_of_mem_schedule {k : Nat} {t : Text} (h : (k, Item.statement t) ∈ sketch.schedule) :
    sketch.Holds k t := by
  obtain ⟨h₁, h₂, line, hl, hi⟩ := mem_schedule h
  obtain ⟨hne, htrim, hpart⟩ := Item.statement_of_mem_ofLine hi
  exact ⟨h₁, h₂, hne, htrim, line, hl, hpart⟩

theorem trim_of_mem_statements {t : Text} (h : t ∈ sketch.statements) : t.trim = t := by
  obtain ⟨⟨k, _ | u⟩, he, hi⟩ := List.mem_filterMap.1 h
  · cases hi
  · cases hi
    exact (holds_of_mem_schedule he).trim_eq

end Sketch

namespace Run

/-- The statements that a run answers. -/
def statements (r : Run) : List Text := r.emissions.filterMap Emission.statement?

variable (keywords : Names) (sketch : Sketch)

/-- A run replays the schedule of its sketch. -/
theorem emissions_ofSketch :
    (ofSketch keywords sketch).emissions =
      Emission.replay keywords sketch.scope sketch.schedule :=
  (Emission.ofLines_eq_replay keywords sketch.scope sketch.body).1

/-- The last scope of a run follows all statements of the sketch. -/
theorem scope_ofSketch :
    (ofSketch keywords sketch).scope =
      (sketch.scope.follow sketch.statements).onLine sketch.body.length := by
  have h := (Emission.ofLines_eq_replay keywords sketch.scope sketch.body).2
  rw [show sketch.scope.line + sketch.body.length = sketch.body.length from Nat.zero_add _] at h
  exact h

/-- Every statement of the sketch is answered, in order, whatever the keywords are. -/
theorem statements_ofSketch : (ofSketch keywords sketch).statements = sketch.statements := by
  rw [statements, emissions_ofSketch, Emission.filterMap_statement?_replay]
  rfl

variable {keywords sketch} {p q : List Emission} {e : Emission}

/-- Every emission is made in the scope that the statements before it determine. -/
theorem emission_eq (h : (ofSketch keywords sketch).emissions = p ++ e :: q) :
    ∃ k i, (k, i) ∈ sketch.schedule ∧
      e = (Emission.ofItem keywords
        ((sketch.scope.follow (p.filterMap Emission.statement?)).onLine k) i).1 := by
  rw [emissions_ofSketch] at h
  obtain ⟨as, k, i, bs, hs, rfl, he⟩ := Emission.replay_eq_append_cons h
  refine ⟨k, i, hs ▸ List.mem_append_right as List.mem_cons_self, ?_⟩
  rw [he, Emission.filterMap_statement?_replay]

/-- An emission for a statement is the statement's, on a line that holds it. -/
theorem emission_eq_of_statement? (h : (ofSketch keywords sketch).emissions = p ++ e :: q)
    {t : Text} (ht : e.statement? = some t) :
    ∃ k, (k, Item.statement t) ∈ sketch.schedule ∧
      e = (Emission.ofItem keywords
        ((sketch.scope.follow (p.filterMap Emission.statement?)).onLine k) (.statement t)).1 := by
  obtain ⟨k, i, hi, rfl⟩ := emission_eq h
  rw [Emission.statement?_ofItem] at ht
  cases i with
  | verbatim c => cases ht
  | statement u =>
    cases ht
    exact ⟨k, hi, rfl⟩

end Run

/-! ## Places in a run -/

namespace Emission

/-- Among the emissions `es`, `e` stands behind those that answer the statements `ts`. -/
def Stands (es : List Emission) (ts : List Text) (e : Emission) : Prop :=
  ∃ p q, es = p ++ e :: q ∧ p.filterMap statement? = ts

variable {es : List Emission} {ts us : List Text} {e : Emission} {t : Text}

/-- Every statement is answered, behind the answers to those before it. -/
theorem exists_stands_of_statements (h : es.filterMap statement? = ts ++ t :: us) :
    ∃ e, Stands es ts e ∧ e.statement? = some t := by
  obtain ⟨p, r, rfl, hp, hr⟩ := List.filterMap_eq_append_iff.1 h
  obtain ⟨x, e, q, rfl, hx, he, -⟩ := List.filterMap_eq_cons_iff.1 hr
  have hx' : x.filterMap statement? = [] := List.filterMap_eq_nil_iff.2 hx
  refine ⟨e, ⟨p ++ x, q, (List.append_assoc p x (e :: q)).symm, ?_⟩, he⟩
  rw [List.filterMap_append, hp, hx', List.append_nil]

theorem exists_stands (h : e ∈ es) : ∃ ts, Stands es ts e := by
  obtain ⟨p, q, rfl⟩ := List.append_of_mem h
  exact ⟨_, p, q, rfl, rfl⟩

end Emission

namespace Run

open Emission

variable {keywords : Names} {sketch : Sketch} {ts : List Text} {e : Emission} {t : Text}

/-- The statements before an emission are statements of the sketch. -/
theorem subset_of_stands (h : Stands (ofSketch keywords sketch).emissions ts e) :
    ts ⊆ sketch.statements := by
  obtain ⟨p, q, hes, rfl⟩ := h
  rw [← statements_ofSketch keywords sketch, statements, hes, List.filterMap_append]
  exact List.subset_append_left _ _

/-- What a statement becomes is determined by its line and by the statements before it. -/
theorem eq_ofItem_of_stands (h : Stands (ofSketch keywords sketch).emissions ts e)
    (ht : e.statement? = some t) :
    ∃ k, sketch.Holds k t ∧
      e = (ofItem keywords ((sketch.scope.follow ts).onLine k) (.statement t)).1 := by
  obtain ⟨p, q, hes, rfl⟩ := h
  obtain ⟨k, hk, he⟩ := emission_eq_of_statement? hes ht
  exact ⟨k, Sketch.holds_of_mem_schedule hk, he⟩

end Run

/-! ## Scripts of sketches -/

namespace HostScript

variable {source : Text} {sketch : Sketch} (keywords : Names)
  (h : Sketch.ofText? source = some sketch)

include h

theorem ofText_of_sketch : ofText keywords source = ofRun (Run.ofSketch keywords sketch) := by
  simp [ofText, Run.ofText?, h]

theorem records_of_sketch : records keywords source = (Run.ofSketch keywords sketch).records := by
  simp [records, Run.ofText?, h]

end HostScript

end KScript
