import KScript.Proofs.Identifier
import KScript.Proofs.Literal.Scan
import KScript.Proofs.Number

/-!
# Names and numbers hold no literal

Neither identifiers nor number literals hold a quote or a backslash, so no scan acts on them.
-/

namespace KScript

namespace Text

theorem inert_of_isIdentifier {w : Text} (h : w.isIdentifier = true) : w.Inert := by
  intro c hc
  rw [Bool.eq_false_iff, ne_eq, Scan.reacts_iff]
  have hrest := isIdentifierRest_of_mem h hc
  rintro (rfl | rfl | rfl) <;> exact absurd hrest (by decide)

variable {t : Text}

/-- Blanks around an identifier hold no quote either. -/
theorem inert_of_isIdentifier_trim (h : t.trim.isIdentifier = true) : t.Inert := by
  obtain ⟨b, e, hb, he, ht⟩ := exists_blank_append_trim_append_blank t
  rw [ht]
  exact List.forall_mem_append.2 ⟨hb.inert, List.forall_mem_append.2
    ⟨inert_of_isIdentifier h, he.inert⟩⟩

/-- An identifier and the blanks around it hold nothing else. -/
theorem not_mem_of_isIdentifier_trim {c : Char} (hblank : isBlank c = false)
    (hrest : isIdentifierRest c = false) (h : t.trim.isIdentifier = true) : c ∉ t := by
  obtain ⟨b, e, hb, he, ht⟩ := exists_blank_append_trim_append_blank t
  rw [ht, List.mem_append, List.mem_append]
  rintro (hc | hc | hc)
  · exact Bool.noConfusion (hblank.symm.trans (hb c hc))
  · exact Bool.noConfusion (hrest.symm.trans (isIdentifierRest_of_mem h hc))
  · exact Bool.noConfusion (hblank.symm.trans (he c hc))

end Text

namespace Number

open Text

variable {c : Char} {alphabet t : Text}

theorem Sign.inert (h : Sign t) : t.Inert := by
  cases h <;> decide

theorem Digits.inert (h : Digits alphabet t) (halphabet : alphabet.Inert) : t.Inert :=
  fun c hc => halphabet c (h.subset hc)

theorem Radix.inert (h : Radix c alphabet) : Scan.reacts c = false ∧ alphabet.Inert := by
  cases h with
  | hexadecimal hc | octal hc | binary hc => rcases hc with rfl | rfl <;> decide

theorem Mantissa.inert (h : Mantissa t) : t.Inert := by
  have hall : Inert ('.' :: decimalDigits) := by decide
  exact fun c hc => hall c (h.subset hc)

theorem Exponent.inert (h : Exponent t) : t.Inert := by
  cases h with
  | absent => exact List.forall_mem_nil _
  | power hc hs hd =>
    refine List.forall_mem_cons.2 ⟨?_, List.forall_mem_append.2 ⟨hs.inert, hd.inert (by decide)⟩⟩
    rcases hc with rfl | rfl <;> rfl

theorem Unsigned.inert (h : Unsigned t) : t.Inert := by
  cases h with
  | infinity => decide
  | radix hc hd =>
    obtain ⟨hletter, halphabet⟩ := hc.inert
    exact List.forall_mem_cons.2 ⟨rfl, List.forall_mem_cons.2 ⟨hletter, hd.inert halphabet⟩⟩
  | decimal hm he => exact List.forall_mem_append.2 ⟨hm.inert, he.inert⟩

end Number

theorem Text.inert_of_isNumber {t : Text} (h : t.isNumber = true) : t.Inert := by
  obtain ⟨s, hs, ht⟩ := Number.exists_sign t
  rw [ht]
  exact List.forall_mem_append.2 ⟨hs.inert, (Number.isUnsigned_iff.1 h).inert⟩

end KScript
