import KScript.Literal.Scan

/-!
# Quoted text

The double-quoted form of a text, in which quotes and backslashes are escaped, and the test for a
value that is written in quotes.
-/

namespace KScript

namespace Text

/-- A text with every double quote and every backslash escaped. -/
def escape : Text → Text
  | [] => []
  | c :: r => if c = '"' ∨ c = '\\' then '\\' :: c :: escape r else c :: escape r

/-- The string literal that stands for a text. -/
def quote (t : Text) : Text := '"' :: (t.escape ++ ['"'])

/-- Whether a text begins and ends with the same quote, as two characters. -/
def isQuoted : Text → Bool
  | [] => false
  | c :: r => (Quote.ofChar? c).isSome && r.getLast? == some c

/-- Whether a text is written in square brackets or in braces. -/
def isCollection (t : Text) : Bool :=
  t.head? == some '[' && t.getLast? == some ']' || t.head? == some '\x7b' && t.getLast? == some '\x7d'

end Text

end KScript
