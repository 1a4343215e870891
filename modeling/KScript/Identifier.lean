import KScript.Text.Alphabetic
import KScript.Text.Basic
import KScript.Text.Numeric

/-!
# Identifiers

A letter, `_` or `$`, followed by letters, numbers, `_` and `$`.
-/

namespace KScript

/-- Characters that may begin an identifier. -/
def isIdentifierStart (c : Char) : Bool := isAlphabetic c || c == '_' || c == '$'

/-- Characters that may continue an identifier. -/
def isIdentifierRest (c : Char) : Bool := isIdentifierStart c || isNumeric c

/-- Whether a text is an identifier: no member access, no index, no blank. -/
def Text.isIdentifier : Text → Bool
  | [] => false
  | c :: r => isIdentifierStart c && r.all isIdentifierRest

end KScript
