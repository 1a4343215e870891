import KScript.Text.Basic

/-!
# Scanning for string literals

A quote character opens a literal and only the same quote character closes it.  A backslash escapes
the character that follows it, inside a literal and outside.  A character is *structural* if it
stands outside every literal and is neither a quote, nor a backslash, nor escaped.
-/

namespace KScript

/-- The two kinds of string literal. -/
inductive Quote where
  | single
  | double
deriving DecidableEq

/-- The kind of literal that a character delimits. -/
def Quote.ofChar? (c : Char) : Option Quote :=
  if c = '"' then some .double else if c = '\'' then some .single else none

/-- Where a scan stands between two characters. -/
structure Scan where
  /-- The literal around the position, if there is one. -/
  literal : Option Quote
  /-- Whether the next character is escaped. -/
  escaped : Bool
deriving DecidableEq

namespace Scan

/-- Before the first character. -/
def start : Scan := ⟨none, false⟩

/-- Past one more character. -/
def step (s : Scan) (c : Char) : Scan :=
  if s.escaped then ⟨s.literal, false⟩
  else if c = '\\' then ⟨s.literal, true⟩
  else match Quote.ofChar? c, s.literal with
    | none, _ => s
    | some q, none => ⟨some q, false⟩
    | some q, some p => if p = q then ⟨none, false⟩ else s

/-- Past a whole text. -/
def past (s : Scan) (t : Text) : Scan := t.foldl step s

/-- Whether `c` is structural at the position. -/
def structural (s : Scan) (c : Char) : Bool :=
  !s.escaped && s.literal.isNone && c != '\\' && (Quote.ofChar? c).isNone

@[simp] theorem past_nil (s : Scan) : s.past [] = s := rfl

@[simp] theorem past_cons (s : Scan) (c : Char) (t : Text) :
    s.past (c :: t) = (s.step c).past t := rfl

theorem past_append (s : Scan) (t u : Text) : s.past (t ++ u) = (s.past t).past u := by
  simp [past, List.foldl_append]

end Scan

/-- A character of a scanned text. -/
structure Mark where
  char : Char
  structural : Bool
deriving DecidableEq

/-- Every character with the verdict of a scan that starts at `s`. -/
def Scan.marks (s : Scan) : Text → List Mark
  | [] => []
  | c :: r => ⟨c, s.structural c⟩ :: (s.step c).marks r

namespace Scan

@[simp] theorem marks_nil (s : Scan) : s.marks [] = [] := rfl

@[simp] theorem marks_cons (s : Scan) (c : Char) (t : Text) :
    s.marks (c :: t) = ⟨c, s.structural c⟩ :: (s.step c).marks t := rfl

/-- The second part of a text is scanned from where the first part leaves the scan. -/
theorem marks_append (s : Scan) (t u : Text) :
    s.marks (t ++ u) = s.marks t ++ (s.past t).marks u := by
  induction t generalizing s with
  | nil => rfl
  | cons c t ih => simp [ih]

/-- Scanning keeps the characters. -/
@[simp] theorem map_char_marks (s : Scan) (t : Text) : (s.marks t).map Mark.char = t := by
  induction t generalizing s with
  | nil => rfl
  | cons c t ih => simp [ih]

end Scan

namespace Text

/-- The characters of a text, each with the verdict of a fresh scan. -/
def marks (t : Text) : List Mark := Scan.start.marks t

/-- Whether every literal of the text is closed. -/
def closed (t : Text) : Bool := (Scan.start.past t).literal.isNone

/-- The structural characters of a text. -/
def skeleton (t : Text) : Text := (t.marks.filter (·.structural)).map Mark.char

end Text

end KScript
