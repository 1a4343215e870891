import KScript.Text.Basic

/-!
# Number literals

An optional sign, then `Infinity`, a hexadecimal, octal or binary integer, or a decimal number with
an optional fraction and an optional exponent.
-/

namespace KScript

namespace Number

/-- A text without its sign.  At most one sign is taken. -/
def unsigned : Text → Text
  | '-' :: r => r
  | '+' :: r => r
  | t => t

/-- Whether `c` is a digit of a base up to sixteen. -/
def isDigitOf (base : Nat) (c : Char) : Bool :=
  if c.isDigit then c.toNat - 48 < base
  else if 'a' ≤ c ∧ c ≤ 'f' then c.toNat - 87 < base
  else if 'A' ≤ c ∧ c ≤ 'F' then c.toNat - 55 < base
  else false

/-- One digit or more. -/
def isDigits (digit : Char → Bool) (t : Text) : Bool := !t.isEmpty && t.all digit

/-- The base that the letter after a leading zero announces. -/
def base? : Char → Option Nat
  | 'x' | 'X' => some 16
  | 'o' | 'O' => some 8
  | 'b' | 'B' => some 2
  | _ => none

/-- ASCII digits with at most one point, and at least one digit. -/
def isMantissa (t : Text) : Bool :=
  match t.cutAt? (· == '.') with
  | none => isDigits Char.isDigit t
  | some (whole, fraction) => isDigits Char.isDigit (whole ++ fraction)

/-- A mantissa and, after the first `e`, an optionally signed run of digits. -/
def isDecimal (t : Text) : Bool :=
  match t.cutAt? (fun c => c == 'e' || c == 'E') with
  | none => isMantissa t
  | some (mantissa, exponent) =>
    isMantissa mantissa && isDigits Char.isDigit (unsigned exponent)

/-- A number literal without its sign. -/
def isUnsigned (t : Text) : Bool :=
  t == "Infinity".toList ||
    match t with
    | '0' :: c :: r =>
      match base? c with
      | some base => isDigits (isDigitOf base) r
      | none => isDecimal t
    | _ => isDecimal t

end Number

/-- Whether a text is a number literal. -/
def Text.isNumber (t : Text) : Bool := Number.isUnsigned (Number.unsigned t)

end KScript
