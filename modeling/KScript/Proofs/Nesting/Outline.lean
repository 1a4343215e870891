import KScript.Text.Line
import Mathlib.Data.List.Basic

/-!
# Outlines

What remains of a program when only the nesting of its lines is kept.  In host code the braces at
the ends of the lines carry the nesting, and a sequence of braces is that of at most one outline.
-/

namespace KScript.Nesting

/-- The part that a line of code plays in the nesting. -/
inductive Brace where
  /-- A line without a part. -/
  | plain
  | opens
  /-- A line that closes one body and opens the next. -/
  | turns
  | closes
deriving DecidableEq

/-- The part of a line of host code.  It shows at the end of the line; comments have no part. -/
def Brace.ofCode (code : Text) : Brace :=
  if "//".toList.isPrefixOf code then plain
  else match code.getLast? with
    | some '\x7b' => if code.head? = some '\x7d' then turns else opens
    | some '\x7d' => closes
    | _ => plain

mutual

/-- The nesting of a sequence of lines. -/
inductive Outline where
  | nil
  | plain (rest : Outline)
  | group (body : Outline) (turns : Turns) (rest : Outline)

/-- What follows the first body of a group. -/
inductive Turns where
  | close
  | turn (body : Outline) (turns : Turns)

end

mutual

/-- The braces of an outline. -/
def Outline.braces : Outline → List Brace
  | .nil => []
  | .plain rest => .plain :: rest.braces
  | .group body turns rest => .opens :: (body.braces ++ (turns.braces ++ rest.braces))

/-- The braces of the part of a group after its first body. -/
def Turns.braces : Turns → List Brace
  | .close => [.closes]
  | .turn body turns => .turns :: (body.braces ++ turns.braces)

end

/-- Whether a sequence of braces can stand after a finished sequence of lines. -/
def Brace.IsRest : List Brace → Prop
  | [] | .turns :: _ | .closes :: _ => True
  | .plain :: _ | .opens :: _ => False

theorem Turns.isRest_braces_append (a : Turns) (x : List Brace) :
    Brace.IsRest (a.braces ++ x) := by
  cases a <;> trivial

mutual

/-- Where a sequence of lines ends is settled by the braces. -/
theorem Outline.braces_append_inj {a b : Outline} {x y : List Brace} (hx : Brace.IsRest x)
    (hy : Brace.IsRest y) (h : a.braces ++ x = b.braces ++ y) : a = b ∧ x = y := by
  match a, b with
  | .nil, .nil => exact ⟨rfl, h⟩
  | .nil, .plain r =>
    obtain rfl : x = .plain :: (r.braces ++ y) := h
    exact hx.elim
  | .nil, .group c t r =>
    obtain rfl : x = .opens :: ((c.braces ++ (t.braces ++ r.braces)) ++ y) := h
    exact hx.elim
  | .plain r, .nil =>
    obtain rfl : .plain :: (r.braces ++ x) = y := h
    exact hy.elim
  | .group c t r, .nil =>
    obtain rfl : .opens :: ((c.braces ++ (t.braces ++ r.braces)) ++ x) = y := h
    exact hy.elim
  | .plain r, .group c t r' => exact nomatch (List.cons.inj h).1
  | .group c t r, .plain r' => exact nomatch (List.cons.inj h).1
  | .plain r, .plain r' =>
    obtain ⟨rfl, hxy⟩ := Outline.braces_append_inj hx hy (List.cons.inj h).2
    exact ⟨rfl, hxy⟩
  | .group c t r, .group c' t' r' =>
    have hbody : c.braces ++ (t.braces ++ (r.braces ++ x)) =
        c'.braces ++ (t'.braces ++ (r'.braces ++ y)) := by
      simpa [List.append_assoc] using (List.cons.inj h).2
    obtain ⟨rfl, hturns⟩ := Outline.braces_append_inj (t.isRest_braces_append _)
      (t'.isRest_braces_append _) hbody
    obtain ⟨rfl, hrest⟩ := Turns.braces_append_inj hturns
    obtain ⟨rfl, hxy⟩ := Outline.braces_append_inj hx hy hrest
    exact ⟨rfl, hxy⟩

/-- Where a group ends is settled by the braces. -/
theorem Turns.braces_append_inj {a b : Turns} {x y : List Brace}
    (h : a.braces ++ x = b.braces ++ y) : a = b ∧ x = y := by
  match a, b with
  | .close, .close => exact ⟨rfl, (List.cons.inj h).2⟩
  | .close, .turn c t => exact nomatch (List.cons.inj h).1
  | .turn c t, .close => exact nomatch (List.cons.inj h).1
  | .turn c t, .turn c' t' =>
    have hbody : c.braces ++ (t.braces ++ x) = c'.braces ++ (t'.braces ++ y) := by
      simpa [List.append_assoc] using (List.cons.inj h).2
    obtain ⟨rfl, hturns⟩ := Outline.braces_append_inj (t.isRest_braces_append _)
      (t'.isRest_braces_append _) hbody
    obtain ⟨rfl, hxy⟩ := Turns.braces_append_inj hturns
    exact ⟨rfl, hxy⟩

end

/-- Braces are those of at most one outline. -/
theorem Outline.braces_injective : Function.Injective Outline.braces := by
  intro a b h
  exact (Outline.braces_append_inj (x := []) (y := []) trivial trivial (by rw [h])).1

end KScript.Nesting
