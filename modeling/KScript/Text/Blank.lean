import KScript.Text.CodeRange

/-!
# The Unicode property `White_Space`

The 25 characters that separate words and that trimming removes.  Zero-width spaces (U+200B,
U+FEFF, U+180E) do not have the property.
-/

namespace KScript

/-- The ranges of the property `White_Space`. -/
def blankRanges : List CodeRange :=
  [(0x0009, 0x000D), (0x0020, 0x0020), (0x0085, 0x0085), (0x00A0, 0x00A0), (0x1680, 0x1680),
   (0x2000, 0x200A), (0x2028, 0x2029), (0x202F, 0x202F), (0x205F, 0x205F), (0x3000, 0x3000)]

/-- White space in the sense of Unicode. -/
def isBlank (c : Char) : Bool := inRanges blankRanges c

end KScript
