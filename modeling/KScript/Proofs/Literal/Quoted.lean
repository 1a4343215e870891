import KScript.Literal.Quoted
import KScript.Proofs.Literal.Scan

/-!
# Quoted texts

The quoted form of a text is one literal: a scan enters it at the first character, leaves it at the
last one, and finds nothing structural in between.
-/

namespace KScript

namespace Scan

variable {c : Char}

/-- Behind the quote that opens a double-quoted literal. -/
def inDouble : Scan := ⟨some .double, false⟩

theorem step_inDouble (h : ¬ (c = '"' ∨ c = '\\')) : inDouble.step c = inDouble := by
  obtain ⟨hq, hb⟩ := not_or.1 h
  by_cases hs : c = '\''
  · subst hs
    rfl
  · exact step_of_not_reacts (not_reacts_iff.2 ⟨hb, by simp [Quote.ofChar?, hq, hs]⟩)

/-- An escaped text does not close the literal around it. -/
theorem past_escape (t : Text) : inDouble.past t.escape = inDouble := by
  induction t with
  | nil => rfl
  | cons c t ih =>
    unfold Text.escape
    split
    · next hc => rcases hc with rfl | rfl <;> exact ih
    · next hc => rw [past_cons, step_inDouble hc, ih]

/-- Nothing inside a literal is structural. -/
theorem not_structural_of_isSome {s : Scan} (h : s.literal.isSome = true) (c : Char) :
    s.structural c = false := by
  rw [Bool.eq_false_iff, ne_eq, structural_iff]
  rintro ⟨rfl, -⟩
  cases h

/-- Nothing of an escaped text is structural in the literal around it. -/
theorem filter_structural_marks_escape (t : Text) :
    (inDouble.marks t.escape).filter (·.structural) = [] := by
  have hfalse (c : Char) : inDouble.structural c = false := not_structural_of_isSome rfl c
  induction t with
  | nil => rfl
  | cons c t ih =>
    unfold Text.escape
    split
    · next hc =>
      have hescaped : (inDouble.step '\\').structural c = false := not_structural_of_isSome rfl c
      have hback : (inDouble.step '\\').step c = inDouble := by rcases hc with rfl | rfl <;> rfl
      rw [marks_cons, marks_cons, hback, List.filter_cons_of_neg (by simp [hfalse]),
        List.filter_cons_of_neg (by simp [hescaped]), ih]
    · next hc =>
      rw [marks_cons, step_inDouble hc, List.filter_cons_of_neg (by simp [hfalse]), ih]

end Scan

namespace Text

theorem past_quote (t : Text) : Scan.start.past t.quote = .start := by
  have hopen : Scan.start.step '"' = .inDouble := by decide
  rw [quote, Scan.past_cons, Scan.past_append, hopen, Scan.past_escape]
  rfl

theorem closed_quote (t : Text) : t.quote.closed = true := by
  rw [closed, past_quote]
  rfl

/-- A quoted text has no structural characters. -/
theorem skeleton_quote (t : Text) : t.quote.skeleton = [] := by
  have hopen : Scan.start.step '"' = .inDouble := by decide
  rw [skeleton, List.map_eq_nil_iff, quote, marks, Scan.marks_cons, Scan.marks_append, hopen,
    Scan.past_escape, List.filter_cons_of_neg (by decide), List.filter_append,
    Scan.filter_structural_marks_escape]
  rfl

theorem isQuoted_quote (t : Text) : t.quote.isQuoted = true := by
  rw [quote, isQuoted, List.getLast?_concat]
  rfl

/-- A quoted text begins and ends with its quotes. -/
theorem trim_quote (t : Text) : t.quote.trim = t.quote :=
  trim_cons_concat (by decide) (by decide) t.escape

end Text

end KScript
