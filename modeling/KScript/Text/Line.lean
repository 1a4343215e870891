import KScript.Text.Basic

/-!
# Lines

A line ends with LF, CR or the pair CR LF.  Text is first brought to LF alone and then cut.
-/

namespace KScript

namespace Text

/-- Every line break written as LF. -/
def unifyBreaks : Text → Text
  | [] => []
  | '\r' :: '\n' :: r => '\n' :: unifyBreaks r
  | '\r' :: r => '\n' :: unifyBreaks r
  | c :: r => c :: unifyBreaks r

/-- The lines of a text whose breaks are LF.  There is always at least one. -/
def lines (t : Text) : List Text := t.splitOn '\n'

/-- The text that has the given lines. -/
def ofLines (ls : List Text) : Text := ['\n'].intercalate ls

end Text

end KScript
