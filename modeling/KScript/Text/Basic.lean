import KScript.Text.Blank

/-!
# Script text

Sketches, statements, values and generated code are sequences of characters.
-/

namespace KScript

/-- A piece of script or of generated code. -/
abbrev Text := List Char

namespace Text

/-- Leading blanks removed. -/
def trimStart (t : Text) : Text := t.dropWhile isBlank

/-- Trailing blanks removed. -/
def trimEnd (t : Text) : Text := (t.reverse.dropWhile isBlank).reverse

/-- Blanks removed at both ends. -/
def trim (t : Text) : Text := t.trimStart.trimEnd

/-- What follows the start `p` of `t`, if `t` starts with it. -/
def dropPrefix? (t p : Text) : Option Text := p.isPrefixOf? t

/-- What precedes the end `p` of `t`, if `t` ends with it. -/
def dropSuffix? (t p : Text) : Option Text := p.isSuffixOf? t

/-- The two sides of the first character with the property `p`. -/
def cutAt? (p : Char → Bool) (t : Text) : Option (Text × Text) :=
  match t.dropWhile (fun c => !p c) with
  | [] => none
  | _ :: r => some (t.takeWhile (fun c => !p c), r)

@[simp] theorem trim_nil : trim [] = [] := rfl

end Text

end KScript
