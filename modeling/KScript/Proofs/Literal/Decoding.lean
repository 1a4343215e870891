import KScript.Proofs.Literal.Joining
import KScript.Proofs.Value.Literals

/-!
# Reading quoted texts back

A quoted text is read back by taking its quotes off and putting every escaped character in the place of
its escape.  So texts that differ are quoted differently, whatever quotes and backslashes they hold.  A
scan finds one literal in a quoted text, and no cut divides it.
-/

namespace KScript

namespace Text

variable {t : Text} {c : Char}

/-- Every escaped character in the place of its escape.  A backslash at the end escapes nothing. -/
def unescape : Text → Text
  | [] => []
  | '\\' :: c :: r => c :: unescape r
  | c :: r => c :: unescape r

@[simp] theorem unescape_escaped (c : Char) (t : Text) :
    unescape ('\\' :: c :: t) = c :: t.unescape := rfl

theorem unescape_cons_of_ne (hc : c ≠ '\\') (t : Text) : unescape (c :: t) = c :: t.unescape := by
  rw [unescape]
  intro d r h
  exact absurd h hc

/-- Escaping is undone. -/
theorem unescape_escape (t : Text) : t.escape.unescape = t := by
  induction t with
  | nil => rfl
  | cons c t ih =>
    unfold escape
    split
    · rw [unescape_escaped, ih]
    · next hc => rw [unescape_cons_of_ne (fun h => hc (.inr h)), ih]

theorem quote_injective : Function.Injective quote := by
  intro t u h
  obtain ⟨-, hbody⟩ := List.cons.inj h
  exact Function.LeftInverse.injective unescape_escape (List.append_inj' hbody rfl).1

/-! ## Cutting a quoted text -/

theorem skeleton_eq_nil_iff : t.skeleton = [] ↔ ∀ m ∈ t.marks, m.structural = false := by
  rw [skeleton, List.map_eq_nil_iff, List.filter_eq_nil_iff]
  simp

/-- No separator divides a quoted text. -/
theorem cut_quote (sep : Char → Bool) (t : Text) : t.quote.cut sep = .ok [t.quote] := by
  refine cut_eq_singleton_iff.2 ⟨closed_quote t, ?_⟩
  rw [skeleton_quote]
  exact List.forall_mem_nil _

theorem commaPieces_quote (t : Text) : t.quote.commaPieces = .ok [t.quote] := by
  rw [commaPieces, cut_quote, Except.map, List.map_singleton, trim_quote]

theorem words_quote (t : Text) : t.quote.words = .ok [t.quote] := by
  rw [words, cut_quote]
  rfl

/-- **A quoted text is one literal that stands for the text.**  What stands between its quotes, unescaped,
is the text, so no two texts are quoted alike.  A scan is inside the literal behind every character but
the last, finds nothing structural, and ends where it began.  The cuts at commas, at blanks and at
semicolons leave it whole. -/
theorem quote_decodes (line : Nat) :
    Function.Injective quote ∧ ∀ t : Text,
      (∃ b : Text, t.quote = '"' :: (b ++ ['"']) ∧ b.unescape = t) ∧
      (∀ i < t.quote.length, 0 < i → (Scan.start.past (t.quote.take i)).literal.isSome = true) ∧
      (∀ m ∈ t.quote.marks, m.structural = false) ∧ Scan.start.past t.quote = .start ∧
      located line t.quote.commaPieces = .ok [t.quote] ∧
      located line t.quote.words = .ok [t.quote] ∧
      located line t.quote.statements = .ok [t.quote] := by
  refine ⟨quote_injective, fun t => ?_⟩
  refine ⟨⟨t.escape, rfl, unescape_escape t⟩, (isLiteral_quote t).stays, ?_, past_quote t, ?_, ?_, ?_⟩
  · exact skeleton_eq_nil_iff.1 (skeleton_quote t)
  · exact located_eq_ok_iff.2 (commaPieces_quote t)
  · exact located_eq_ok_iff.2 (words_quote t)
  · exact located_eq_ok_iff.2 (cut_quote (· == ';') t)

/-- Both kinds of quotes, a backslash and all separators; and a quote behind a backslash, which is not
quoted as the quote alone is. -/
theorem quote_decodes_mixed :
    let t : Text := "it's \\ \"a, b\";".toList
    let u : Text := "\\\"".toList
    let w : Text := "\"".toList
    t.quote = "\"it's \\\\ \\\"a, b\\\";\"".toList ∧
      (∃ b : Text, t.quote = '"' :: (b ++ ['"']) ∧ b.unescape = t) ∧
      18 < t.quote.length ∧ (Scan.start.past (t.quote.take 18)).literal.isSome = true ∧
      (∃ m ∈ t.quote.marks, m.char = ',' ∧ m.structural = false) ∧
      Scan.start.past t.quote = .start ∧
      located 3 t.quote.commaPieces = .ok [t.quote] ∧ located 3 t.quote.words = .ok [t.quote] ∧
      located 3 t.quote.statements = .ok [t.quote] ∧ u ≠ w ∧ u.quote ≠ w.quote := by
  intro t u w
  have hmem : ⟨',', false⟩ ∈ t.quote.marks := by decide
  have hne : u ≠ w := by decide
  obtain ⟨hinjective, hquote⟩ := quote_decodes 3
  obtain ⟨hbody, hstays, hmarks, hpast, hcommas, hwords, hstatements⟩ := hquote t
  exact ⟨by decide, hbody, by decide, hstays 18 (by decide) (by decide),
    ⟨_, hmem, rfl, hmarks _ hmem⟩, hpast, hcommas, hwords, hstatements, hne, hinjective.ne hne⟩

end Text

end KScript
