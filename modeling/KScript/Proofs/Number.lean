import KScript.Number
import KScript.Proofs.Text.Cut

/-!
# The grammar of number literals

The recogniser takes a sign away, looks at two characters for a base, and cuts at the first letter of an
exponent and at the first point.  Here the literals are given by a grammar, one inductive for each of its
symbols, and the recogniser decides it: the alternatives overlap, but no decimal number has the letter of
a base behind a leading zero, none has an exponent letter in its mantissa, and nothing that a sign can
stand before begins with a sign.
-/

namespace KScript

namespace Number

open Text

/-! ## Grammar -/

def decimalDigits : Text := "0123456789".toList

/-- At most one sign. -/
inductive Sign : Text → Prop
  | absent : Sign []
  | plus : Sign ['+']
  | minus : Sign ['-']

/-- One digit of an alphabet or more. -/
inductive Digits (alphabet : Text) : Text → Prop
  | last {d : Char} (hd : d ∈ alphabet) : Digits alphabet [d]
  | cons {d : Char} {t : Text} (hd : d ∈ alphabet) (h : Digits alphabet t) : Digits alphabet (d :: t)

/-- The letters that announce a base, and the digits that can follow them. -/
inductive Radix : Char → Text → Prop
  | hexadecimal {c : Char} (hc : c = 'x' ∨ c = 'X') : Radix c "0123456789abcdefABCDEF".toList
  | octal {c : Char} (hc : c = 'o' ∨ c = 'O') : Radix c "01234567".toList
  | binary {c : Char} (hc : c = 'b' ∨ c = 'B') : Radix c "01".toList

/-- Digits with at most one point among them, in front of them or behind them. -/
inductive Mantissa : Text → Prop
  | whole {w : Text} (h : Digits decimalDigits w) : Mantissa w
  | point {w f : Text} (h : Digits decimalDigits (w ++ f)) : Mantissa (w ++ '.' :: f)

inductive Exponent : Text → Prop
  | absent : Exponent []
  | power {c : Char} {s d : Text} (hc : c = 'e' ∨ c = 'E') (hs : Sign s) (hd : Digits decimalDigits d) :
      Exponent (c :: (s ++ d))

/-- A number literal that has no sign. -/
inductive Unsigned : Text → Prop
  | infinity : Unsigned "Infinity".toList
  | radix {c : Char} {digits d : Text} (hc : Radix c digits) (hd : Digits digits d) :
      Unsigned ('0' :: c :: d)
  | decimal {m e : Text} (hm : Mantissa m) (he : Exponent e) : Unsigned (m ++ e)

/-- A number literal. -/
inductive Numeral : Text → Prop
  | signed {s u : Text} (hs : Sign s) (hu : Unsigned u) : Numeral (s ++ u)

/-! ## Digits -/

variable {c : Char} {digit : Char → Bool} {alphabet s t d m : Text} {base : Nat}

theorem Digits.ne_nil (h : Digits alphabet t) : t ≠ [] := by
  cases h <;> exact List.cons_ne_nil _ _

theorem Digits.subset (h : Digits alphabet t) : t ⊆ alphabet := by
  induction h with
  | last hd => exact List.cons_subset.2 ⟨hd, List.nil_subset _⟩
  | cons hd _ ih => exact List.cons_subset.2 ⟨hd, ih⟩

/-- A test decides a run of digits if it decides a digit. -/
theorem isDigits_iff (hdigit : ∀ c, digit c = true ↔ c ∈ alphabet) :
    isDigits digit t = true ↔ Digits alphabet t := by
  constructor
  · intro h
    induction t with
    | nil => cases h
    | cons c r ih =>
      obtain ⟨hc, hr⟩ := Bool.and_eq_true_iff.1 (Bool.and_eq_true_iff.1 h).2
      cases r with
      | nil => exact .last ((hdigit c).1 hc)
      | cons d r => exact .cons ((hdigit c).1 hc) (ih hr)
  · intro h
    refine Bool.and_eq_true_iff.2 ⟨?_, List.all_eq_true.2 fun c hc => (hdigit c).2 (h.subset hc)⟩
    simpa using h.ne_nil

/-- A test that only ASCII characters pass is decided by its values on them. -/
theorem digit_iff_mem (hascii : digit c = true → c.toNat < 128)
    (hall : ∀ n < 128, digit (.ofNat n) = true → Char.ofNat n ∈ alphabet)
    (hmem : alphabet.all digit = true) : digit c = true ↔ c ∈ alphabet := by
  constructor
  · intro h
    have hc := hall c.toNat (hascii h)
    rw [Char.ofNat_toNat] at hc
    exact hc h
  · exact List.all_eq_true.1 hmem c

theorem toNat_lt_of_isDigit (h : c.isDigit = true) : c.toNat < 128 := by
  have hnine : c.toNat ≤ 57 := of_decide_eq_true (Bool.and_eq_true_iff.1 h).2
  omega

theorem isDigit_iff (c : Char) : c.isDigit = true ↔ c ∈ decimalDigits :=
  digit_iff_mem toNat_lt_of_isDigit (by decide) (by decide)

theorem toNat_lt_of_isDigitOf (h : isDigitOf base c = true) : c.toNat < 128 := by
  unfold isDigitOf at h
  split at h
  · next hd => exact toNat_lt_of_isDigit hd
  · split at h
    · next hlower => exact Nat.lt_of_le_of_lt hlower.2 (by decide)
    · split at h
      · next hupper => exact Nat.lt_of_le_of_lt hupper.2 (by decide)
      · cases h

theorem isDigitOf_iff (hall : ∀ n < 128, isDigitOf base (.ofNat n) = true → Char.ofNat n ∈ alphabet)
    (hmem : alphabet.all (isDigitOf base) = true) (c : Char) :
    isDigitOf base c = true ↔ c ∈ alphabet :=
  digit_iff_mem toNat_lt_of_isDigitOf hall hmem

/-- The base that a letter announces has the digits that can follow the letter. -/
theorem Radix.exists_base (h : Radix c alphabet) :
    ∃ base, base? c = some base ∧ ∀ d, isDigitOf base d = true ↔ d ∈ alphabet := by
  cases h with
  | hexadecimal hc =>
    exact ⟨16, by rcases hc with rfl | rfl <;> rfl, isDigitOf_iff (by decide) (by decide)⟩
  | octal hc => exact ⟨8, by rcases hc with rfl | rfl <;> rfl, isDigitOf_iff (by decide) (by decide)⟩
  | binary hc => exact ⟨2, by rcases hc with rfl | rfl <;> rfl, isDigitOf_iff (by decide) (by decide)⟩

theorem exists_radix (h : base? c = some base) : ∃ alphabet, Radix c alphabet := by
  unfold base? at h
  split at h
  · exact ⟨_, .hexadecimal (.inl rfl)⟩
  · exact ⟨_, .hexadecimal (.inr rfl)⟩
  · exact ⟨_, .octal (.inl rfl)⟩
  · exact ⟨_, .octal (.inr rfl)⟩
  · exact ⟨_, .binary (.inl rfl)⟩
  · exact ⟨_, .binary (.inr rfl)⟩
  · cases h

/-! ## Signs -/

/-- Taking the sign away leaves the rest. -/
theorem exists_sign (t : Text) : ∃ s, Sign s ∧ t = s ++ unsigned t := by
  unfold unsigned
  split
  · exact ⟨_, .minus, rfl⟩
  · exact ⟨_, .plus, rfl⟩
  · exact ⟨_, .absent, rfl⟩

/-- What does not begin with a sign is left when the sign in front of it is taken away. -/
theorem unsigned_append (hs : Sign s) (hplus : t.head? ≠ some '+') (hminus : t.head? ≠ some '-') :
    unsigned (s ++ t) = t := by
  cases hs with
  | plus | minus => rfl
  | absent =>
    rw [List.nil_append]
    unfold unsigned
    split
    · exact absurd rfl hminus
    · exact absurd rfl hplus
    · rfl

theorem unsigned_sign_append (hs : Sign s) (hd : Digits decimalDigits d) : unsigned (s ++ d) = d := by
  apply unsigned_append hs
  · intro h
    exact absurd (hd.subset (List.mem_of_head? h)) (by decide)
  · intro h
    exact absurd (hd.subset (List.mem_of_head? h)) (by decide)

/-! ## Decimal numbers -/

/-- The characters of a mantissa are digits and points. -/
theorem Mantissa.subset (h : Mantissa m) : m ⊆ '.' :: decimalDigits := by
  cases h with
  | whole h => exact fun c hc => List.mem_cons_of_mem _ (h.subset hc)
  | point h =>
    intro c hc
    rcases List.mem_append.1 hc with hc | hc
    · exact List.mem_cons_of_mem _ (h.subset (List.mem_append_left _ hc))
    · rcases List.mem_cons.1 hc with rfl | hc
      · exact List.mem_cons_self
      · exact List.mem_cons_of_mem _ (h.subset (List.mem_append_right _ hc))

/-- What holds of digits and of the point holds of the characters of a mantissa. -/
theorem Mantissa.forall_mem (h : Mantissa m) (hall : ('.' :: decimalDigits).all digit = true) :
    ∀ c ∈ m, digit c = true := fun c hc => List.all_eq_true.1 hall c (h.subset hc)

theorem isMantissa_iff : isMantissa t = true ↔ Mantissa t := by
  constructor
  · intro h
    unfold isMantissa at h
    split at h
    · exact .whole ((isDigits_iff isDigit_iff).1 h)
    · next w f hcut =>
      obtain ⟨c, rfl, hc, -⟩ := cutAt?_eq_some_iff.1 hcut
      obtain rfl := beq_iff_eq.1 hc
      exact .point ((isDigits_iff isDigit_iff).1 h)
  · intro h
    have hfree {w : Text} (hw : w ⊆ decimalDigits) : ∀ c ∈ w, (c == '.') = false := by
      intro c hc
      refine beq_eq_false_iff_ne.2 ?_
      rintro rfl
      exact absurd (hw hc) (by decide)
    cases h with
    | whole h =>
      rw [isMantissa, cutAt?_eq_none_iff.2 (hfree h.subset)]
      exact (isDigits_iff isDigit_iff).2 h
    | @point w f h =>
      have hw : w ⊆ decimalDigits := fun c hc => h.subset (List.mem_append_left f hc)
      rw [isMantissa, cutAt?_eq_some_iff.2 ⟨'.', rfl, rfl, hfree hw⟩]
      exact (isDigits_iff isDigit_iff).2 h

/-- A decimal number is cut behind its mantissa, at the letter of its exponent if it has one. -/
theorem isDecimal_iff : isDecimal t = true ↔ ∃ m e, Mantissa m ∧ Exponent e ∧ t = m ++ e := by
  constructor
  · intro h
    unfold isDecimal at h
    split at h
    · exact ⟨t, [], isMantissa_iff.1 h, .absent, (List.append_nil t).symm⟩
    · next m x hcut =>
      obtain ⟨c, rfl, hc, -⟩ := cutAt?_eq_some_iff.1 hcut
      obtain ⟨hm, hx⟩ := Bool.and_eq_true_iff.1 h
      obtain ⟨s, hs, hsigned⟩ := exists_sign x
      refine ⟨m, c :: x, isMantissa_iff.1 hm, ?_, rfl⟩
      rw [hsigned]
      exact .power (by simpa using hc) hs ((isDigits_iff isDigit_iff).1 hx)
  · rintro ⟨m, e, hm, he, rfl⟩
    have hall : ('.' :: decimalDigits).all (fun c => !(c == 'e' || c == 'E')) = true := rfl
    have hfree : ∀ c ∈ m, (c == 'e' || c == 'E') = false := fun c hc => by
      simpa using hm.forall_mem hall c hc
    cases he with
    | absent =>
      rw [List.append_nil, isDecimal, cutAt?_eq_none_iff.2 hfree]
      exact isMantissa_iff.2 hm
    | @power c s d hc hs hd =>
      have hletter : (c == 'e' || c == 'E') = true := by simpa using hc
      rw [isDecimal, cutAt?_eq_some_iff.2 ⟨c, rfl, hletter, hfree⟩]
      refine Bool.and_eq_true_iff.2 ⟨isMantissa_iff.2 hm, ?_⟩
      rw [unsigned_sign_append hs hd]
      exact (isDigits_iff isDigit_iff).2 hd

theorem Mantissa.ne_nil (h : Mantissa m) : m ≠ [] := by
  cases h with
  | whole h => exact h.ne_nil
  | point h => exact List.append_ne_nil_of_right_ne_nil _ (List.cons_ne_nil _ _)

/-- No decimal number has a letter that announces a base behind its first character. -/
theorem base?_eq_none_of_decimal {e r : Text} {x : Char} (hm : Mantissa m) (he : Exponent e)
    (h : m ++ e = x :: c :: r) : base? c = none := by
  obtain ⟨y, m', rfl⟩ := List.exists_cons_of_ne_nil hm.ne_nil
  obtain ⟨-, h⟩ := List.cons_eq_cons.1 h
  cases m' with
  | nil =>
    cases he with
    | absent => cases h
    | power hc =>
      obtain ⟨rfl, -⟩ := List.cons_eq_cons.1 h
      rcases hc with rfl | rfl <;> rfl
  | cons z m' =>
    obtain ⟨rfl, -⟩ := List.cons_eq_cons.1 h
    have hall : ('.' :: decimalDigits).all (fun c => (base? c).isNone) = true := rfl
    exact Option.isNone_iff_eq_none.1
      (hm.forall_mem hall z (List.mem_cons_of_mem _ List.mem_cons_self))

/-! ## Number literals -/

theorem isUnsigned_iff : isUnsigned t = true ↔ Unsigned t := by
  constructor
  · intro h
    have hdecimal (h : isDecimal t = true) : Unsigned t := by
      obtain ⟨m, e, hm, he, rfl⟩ := isDecimal_iff.1 h
      exact .decimal hm he
    rcases Bool.or_eq_true_iff.1 h with h | h
    · rw [beq_iff_eq.1 h]
      exact .infinity
    · split at h
      · next c r =>
        split at h
        · next base hbase =>
          obtain ⟨digits, hradix⟩ := exists_radix hbase
          obtain ⟨base', hbase', hdigit⟩ := hradix.exists_base
          obtain rfl := Option.some.inj (hbase.symm.trans hbase')
          exact .radix hradix ((isDigits_iff hdigit).1 h)
        · exact hdecimal h
      · exact hdecimal h
  · intro h
    refine Bool.or_eq_true_iff.2 ?_
    cases h with
    | infinity => exact .inl rfl
    | radix hc hd =>
      obtain ⟨base, hbase, hdigit⟩ := hc.exists_base
      right
      simp only [hbase]
      exact (isDigits_iff hdigit).2 hd
    | decimal hm he =>
      have hdecimal := isDecimal_iff.2 ⟨_, _, hm, he, rfl⟩
      right
      split
      · next c r heq =>
        rw [base?_eq_none_of_decimal hm he heq]
        exact hdecimal
      · exact hdecimal

/-- No number literal without a sign begins with one. -/
theorem Unsigned.head_ne (h : Unsigned t) : t.head? ≠ some '+' ∧ t.head? ≠ some '-' := by
  cases h with
  | infinity => decide
  | radix => simp
  | @decimal m e hm he =>
    obtain ⟨c, r, rfl⟩ := List.exists_cons_of_ne_nil hm.ne_nil
    have hall : ('.' :: decimalDigits).all (fun c => c != '+' && c != '-') = true := rfl
    simpa using hm.forall_mem hall c List.mem_cons_self

end Number

namespace Text

open Number

/-- **Number literals are what the grammar says.**  The recogniser accepts a text exactly if it is an
optional sign and then infinity, digits of a base that is announced, or a mantissa with an optional
exponent. -/
theorem isNumber_iff_numeral (t : Text) : t.isNumber = true ↔ Numeral t := by
  rw [isNumber, isUnsigned_iff]
  constructor
  · intro h
    obtain ⟨s, hs, ht⟩ := exists_sign t
    rw [ht]
    exact .signed hs h
  · rintro ⟨hs, hu⟩
    obtain ⟨hplus, hminus⟩ := hu.head_ne
    rwa [unsigned_append hs hplus hminus]

/-- A letter that is a digit and no exponent, a point behind its digits, a point in an exponent, and
two signs. -/
example : isNumber "-0x1e".toList = true ∧ isNumber "+1.E-3".toList = true ∧
    isNumber "1e.5".toList = false ∧ isNumber "+-1".toList = false := by decide

end Text

end KScript
