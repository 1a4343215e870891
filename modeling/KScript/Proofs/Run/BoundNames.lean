import KScript.Proofs.Run.Replay
import Mathlib.Order.Compare

/-!
# The names that a sketch binds

The script of a sketch lists exactly the names that its statements bind, without repetition and by
code point.  Keywords, the flag of the scope and the order of the statements have no part in it.
-/

namespace KScript

/-! ## Lists of names -/

/-- Names are compared by code point. -/
theorem compare_eq_lt_iff {a b : Text} : compare a b = .lt ↔ a < b := by
  induction a generalizing b with
  | nil => cases b <;> simp
  | cons c a ih =>
    cases b with
    | nil => simp
    | cons d b =>
      have hcd : compare c d = .lt ↔ c < d := compareOfLessAndEq_eq_lt
      rw [List.compare_cons_cons, Ordering.then_eq_lt, List.cons_lt_cons_iff, hcd, ih,
        Std.LawfulEqCmp.compare_eq_iff_eq]

namespace Names

theorem pairwise_toList (s : Names) : s.toList.Pairwise (· < ·) :=
  s.ordered_toList.imp compare_eq_lt_iff.1

@[simp] theorem mem_toList {s : Names} {n : Text} : n ∈ s.toList ↔ n ∈ s :=
  Std.ExtTreeSet.mem_toList

/-- Sets with the same members have the same list. -/
theorem toList_congr {s t : Names} (h : ∀ n, n ∈ s ↔ n ∈ t) : s.toList = t.toList := by
  rw [Std.ExtTreeSet.ext_mem h]

end Names

/-! ## Identifiers -/

/-- Only identifiers are bound. -/
theorem Statement.Binds.isIdentifier {t n : Text} (h : Statement.Binds t n) :
    n.isIdentifier = true := by
  cases h with
  | draw _ _ _ hn => rw [hn]; decide
  | parameter _ _ _ _ _ hi => exact hi
  | assignment _ _ _ _ hi => exact hi

/-! ## Scopes -/

theorem Scope.mem_names_follow {s : Scope} {ts : List Text} (ht : ∀ t ∈ ts, t.trim = t) {n : Text} :
    n ∈ (s.follow ts).names ↔ n ∈ s.names ∨ ∃ t ∈ ts, Statement.Binds t n := by
  simp only [follow, Names.mem_addAll, List.mem_flatMap]
  exact or_congr_right (exists_congr fun t => and_congr_right fun hm =>
    Statement.mem_boundNames_iff (ht t hm))

/-- The names after a sketch, whatever the flags of the scope before it are. -/
theorem Emission.mem_names_ofLines (keywords : Names) (sketch : Sketch) (inBlock debug : Bool)
    {n : Text} :
    n ∈ (ofLines keywords ⟨∅, inBlock, 0, debug⟩ sketch.body).2.names ↔
      ∃ t ∈ sketch.statements, Statement.Binds t n := by
  rw [(ofLines_eq_replay keywords _ _).2]
  change n ∈ (Scope.follow _ sketch.statements).names ↔ _
  rw [Scope.mem_names_follow fun t => Sketch.trim_of_mem_statements]
  simp

theorem Run.mem_names_ofSketch (keywords : Names) (sketch : Sketch) {n : Text} :
    n ∈ (ofSketch keywords sketch).scope.names ↔
      ∃ t ∈ sketch.statements, Statement.Binds t n :=
  Emission.mem_names_ofLines keywords sketch false sketch.debug

namespace HostScript

variable {source : Text} {sketch : Sketch}

theorem boundNames_of_sketch (keywords : Names) (h : Sketch.ofText? source = some sketch) :
    (ofText keywords source).boundNames =
      (Run.ofSketch keywords sketch).scope.names.toList := by
  rw [ofText_of_sketch keywords h, ofRun]

theorem mem_boundNames_iff (keywords : Names) (h : Sketch.ofText? source = some sketch) {n : Text} :
    n ∈ (ofText keywords source).boundNames ↔ ∃ t ∈ sketch.statements, Statement.Binds t n := by
  rw [boundNames_of_sketch keywords h, Names.mem_toList, Run.mem_names_ofSketch]

/-- **The bound names are exact.**  They are listed by code point, all are identifiers, and they
are those that the statements of the run bind.  Two sketches whose statements bind the same names
have the same list, whatever the keywords are and in whatever order the statements stand, and the
flags of the first scope do not matter. -/
theorem boundNames_exact (keywords : Names) (h : Sketch.ofText? source = some sketch) :
    (Run.ofSketch keywords sketch).statements = sketch.statements ∧
    (ofText keywords source).boundNames.Pairwise (· < ·) ∧
    (∀ n ∈ (ofText keywords source).boundNames, n.isIdentifier = true) ∧
    (∀ n, n ∈ (ofText keywords source).boundNames ↔
      ∃ t ∈ sketch.statements, Statement.Binds t n) ∧
    (∀ keywords' source' sketch', Sketch.ofText? source' = some sketch' →
      (∀ n, (∃ t ∈ sketch'.statements, Statement.Binds t n) ↔
        ∃ t ∈ sketch.statements, Statement.Binds t n) →
      (ofText keywords' source').boundNames = (ofText keywords source).boundNames) ∧
    ∀ inBlock debug,
      (Emission.ofLines keywords ⟨∅, inBlock, 0, debug⟩ sketch.body).2.names.toList =
        (ofText keywords source).boundNames := by
  refine ⟨Run.statements_ofSketch keywords sketch, ?_, ?_, ?_, ?_, ?_⟩
  · rw [boundNames_of_sketch keywords h]
    exact Names.pairwise_toList _
  · intro n hn
    obtain ⟨t, -, ht⟩ := (mem_boundNames_iff keywords h).1 hn
    exact ht.isIdentifier
  · exact fun n => mem_boundNames_iff keywords h
  · intro keywords' source' sketch' h' hsame
    rw [boundNames_of_sketch keywords h, boundNames_of_sketch keywords' h']
    refine Names.toList_congr fun n => ?_
    rw [Run.mem_names_ofSketch, Run.mem_names_ofSketch]
    exact hsame n
  · intro inBlock debug
    rw [boundNames_of_sketch keywords h]
    refine Names.toList_congr fun n => ?_
    rw [Run.mem_names_ofSketch, Emission.mem_names_ofLines]

/-- An assignment beside a statement that fails, a parameter with a default value and the time of
the block that draws are bound. -/
theorem boundNames_exact_mixed :
    let source := "#kscript\nx = 1; , 2\nblock wave, amp = 2:\nend\ndraw:\nend".toList
    let sketch : Sketch := ⟨false, ["x = 1; , 2".toList, "block wave, amp = 2:".toList,
      "end".toList, "draw:".toList, "end".toList]⟩
    Sketch.ofText? source = some sketch ∧
    "amp".toList ∈ (ofText ∅ source).boundNames ∧ "time".toList ∈ (ofText ∅ source).boundNames ∧
      "x".toList ∈ (ofText ∅ source).boundNames := by
  intro source sketch
  have h : Sketch.ofText? source = some sketch := by decide
  have hiff := (boundNames_exact ∅ h).2.2.2.1
  refine ⟨h, (hiff _).2 ?_, (hiff _).2 ?_, (hiff _).2 ?_⟩
  · exact ⟨"block wave, amp = 2:".toList, by decide, .parameter "block wave, amp = 2".toList
      "wave, amp = 2".toList (by decide) (.block "wave, amp = 2".toList (by decide))
      ⟨"wave".toList, " amp = 2".toList, by decide, by decide, "amp = 2".toList, by decide,
        by decide⟩ (by decide)⟩
  · exact ⟨"draw:".toList, by decide, .draw "draw".toList (by decide) (by decide) rfl⟩
  · exact ⟨"x = 1".toList, by decide, .assignment "1".toList (.word "1".toList)
      ⟨by decide, by decide⟩ rfl (by decide)⟩

end HostScript

end KScript
