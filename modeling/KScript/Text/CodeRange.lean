/-!
# Ranges of code points

Character properties of the Unicode standard are published as lists of closed code point ranges.
-/

namespace KScript

/-- A closed range of code points, first and last. -/
abbrev CodeRange := Nat × Nat

/-- Whether the code point of `c` lies in one of the ranges. -/
def inRanges (ranges : List CodeRange) (c : Char) : Bool :=
  ranges.any fun r => r.1 ≤ c.toNat && c.toNat ≤ r.2

end KScript
