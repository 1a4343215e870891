import KScript.Proofs.Text.Joining
import Mathlib.Data.List.Chain

/-!
# Line layouts

A text can be given by its lines and by the way in which each line is ended.  A CR with an LF behind it
is one break and not two, so between these two there is no empty line.  When the breaks are unified,
the lines are what is left.
-/

namespace KScript

/-- The ways to end a line. -/
inductive LineBreak where
  | lf
  | cr
  | crlf
deriving DecidableEq

/-- The characters of a break. -/
def LineBreak.text : LineBreak → Text
  | lf => ['\n']
  | cr => ['\r']
  | crlf => ['\r', '\n']

/-- Lines with the breaks between them. -/
structure LineLayout where
  /-- The lines that a break ends, each with its break. -/
  ended : List (Text × LineBreak)
  /-- The line behind the last break. -/
  last : Text
  no_feed : ∀ l ∈ ended.map Prod.fst ++ [last], '\n' ∉ l
  no_return : ∀ l ∈ ended.map Prod.fst ++ [last], '\r' ∉ l
  /-- No CR is followed by an empty line that an LF ends. -/
  unmerged : ended.IsChain fun a b => a.2 = .cr → b ≠ ([], .lf)

namespace LineLayout

/-- The lines. -/
def lines (v : LineLayout) : List Text := v.ended.map Prod.fst ++ [v.last]

/-- Lines and their breaks, in front of a last line. -/
def write (last : Text) : List (Text × LineBreak) → Text
  | [] => last
  | (l, b) :: r => l ++ (b.text ++ write last r)

/-- The text. -/
def text (v : LineLayout) : Text := write v.last v.ended

variable {l t last : Text} {ended : List (Text × LineBreak)}

/-- The break behind a line is unified, unless it is a CR that an LF completes. -/
theorem unifyBreaks_line_append {b : LineBreak} (hl : '\r' ∉ l)
    (ht : b = .cr → t.head? ≠ some '\n') :
    Text.unifyBreaks (l ++ (b.text ++ t)) = l ++ '\n' :: Text.unifyBreaks t := by
  have hlast : l.getLast? ≠ some '\r' := fun h => hl (List.mem_of_getLast? h)
  rw [Text.unifyBreaks_append (.inl hlast), Text.unifyBreaks_eq_self hl]
  congr 1
  cases b with
  | lf => exact Text.unifyBreaks_cons_of_ne (by decide) t
  | cr => exact Text.unifyBreaks_return_cons (ht rfl)
  | crlf => rfl

/-- Only an empty line that an LF ends begins with an LF. -/
theorem head?_write_ne (hfeed : ∀ l ∈ ended.map Prod.fst ++ [last], '\n' ∉ l)
    (h : ∀ e ∈ ended.head?, e ≠ ([], .lf)) : (write last ended).head? ≠ some '\n' := by
  intro hhead
  cases ended with
  | nil => exact hfeed last List.mem_cons_self (List.mem_of_mem_head? hhead)
  | cons e r =>
    obtain ⟨l, b⟩ := e
    cases l with
    | nil =>
      cases b with
      | lf => exact h ([], .lf) rfl rfl
      | cr | crlf => simp [write, LineBreak.text] at hhead
    | cons c l =>
      obtain rfl : c = '\n' := by simpa [write] using hhead
      exact hfeed _ List.mem_cons_self List.mem_cons_self

/-- When the breaks are unified, the lines are left. -/
theorem unifyBreaks_write (hfeed : ∀ l ∈ ended.map Prod.fst ++ [last], '\n' ∉ l)
    (hreturn : ∀ l ∈ ended.map Prod.fst ++ [last], '\r' ∉ l)
    (hchain : ended.IsChain fun a b => a.2 = .cr → b ≠ ([], .lf)) :
    (write last ended).unifyBreaks = Text.ofLines (ended.map Prod.fst ++ [last]) := by
  induction ended with
  | nil =>
    rw [List.map_nil, List.nil_append, Text.ofLines_singleton]
    exact Text.unifyBreaks_eq_self (hreturn last List.mem_cons_self)
  | cons e r ih =>
    obtain ⟨l, b⟩ := e
    rw [List.map_cons, List.cons_append, List.forall_mem_cons] at hfeed hreturn
    obtain ⟨hb, hchain⟩ := List.isChain_cons.1 hchain
    have hne : r.map Prod.fst ++ [last] ≠ [] := by simp
    obtain ⟨m, ms, hms⟩ := List.exists_cons_of_ne_nil hne
    rw [write, unifyBreaks_line_append hreturn.1, ih hfeed.2 hreturn.2 hchain, List.map_cons,
      List.cons_append, hms, Text.ofLines_cons_cons]
    intro hcr
    exact head?_write_ne hfeed.2 fun e he => hb e he hcr

@[simp] theorem lines_unifyBreaks_text (v : LineLayout) : v.text.unifyBreaks.lines = v.lines := by
  have hne : v.lines ≠ [] := by simp [lines]
  rw [text, unifyBreaks_write v.no_feed v.no_return v.unmerged]
  exact Text.lines_ofLines hne v.no_feed

end LineLayout

end KScript
