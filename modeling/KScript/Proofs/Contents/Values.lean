import KScript.Proofs.Literal.Alike
import KScript.Proofs.Literal.Tokens
import KScript.Proofs.Value

/-!
# What the literals of a value say

Values that are alike are read alike and have host syntax that is alike.  The exceptions are the
characters that are looked for in the whole value, literals included: parentheses, points, brackets
and the operators that mark an argument as an expression.
-/

namespace KScript

open Text

/-- Outcomes of which both are failures in the same stage or both are results related by `R`. -/
inductive Matches {α β : Type} (R : α → β → Prop) : Except Fault α → Except Fault β → Prop
  | ok {a : α} {b : β} (h : R a b) : Matches R (.ok a) (.ok b)
  | error {f f' : Fault} (h : f.kind = f'.kind) : Matches R (.error f) (.error f')

theorem Matches.map {α β γ δ : Type} {R : α → β → Prop} {S : γ → δ → Prop} {o : Except Fault α}
    {o' : Except Fault β} {f : α → γ} {g : β → δ} (h : Matches R o o')
    (hfg : ∀ a b, R a b → S (f a) (g b)) : Matches S (o.map f) (o'.map g) := by
  cases h with
  | ok h => exact .ok (hfg _ _ h)
  | error h => exact .error h

namespace Text

variable {free : Char → Bool} {t t' : Text}

/-- A property that only inert texts have does not tell apart texts that are alike. -/
theorem Alike.congr_inert {p : Text → Bool} (h : Alike free t t') (hp : ∀ n, p n = true → n.Inert) :
    p t = p t' := by
  rw [Bool.eq_iff_iff]
  constructor
  · intro ht
    rwa [h.eq_of_inert (hp t ht)]
  · intro ht'
    rwa [h.symm.eq_of_inert (hp t' ht')]

theorem Alike.isQuoted_eq (h : Alike free t t') : t.isQuoted = t'.isQuoted := by
  cases t with
  | nil => rw [h.eq_of_inert (List.forall_mem_nil _)]
  | cons c r =>
    obtain ⟨r', rfl, hr⟩ := h.scan.cons_inv (Scan.not_ordinary_of_literal rfl c)
    have hlast := h.getLast?_eq
    have hlength := hr.length_eq
    rw [isQuoted, isQuoted]
    -- The last character of the rest is the last one of the text, if there is a rest.
    cases r with
    | nil => rw [List.eq_nil_of_length_eq_zero hlength.symm]
    | cons d r =>
      cases r' with
      | nil => cases hlength
      | cons d' r' =>
        rw [List.getLast?_cons_cons, List.getLast?_cons_cons] at hlast
        rw [hlast]

theorem Alike.isCollection_eq (h : Alike free t t') : t.isCollection = t'.isCollection := by
  rw [isCollection, isCollection, h.head?_eq, h.getLast?_eq]

/-! ## Cutting -/

theorem Alike.commaPieces (h : Alike free t t') : List.Forall₂ (Alike free)
    ((t.pieces (· == ',')).map Text.trim) ((t'.pieces (· == ',')).map Text.trim) := by
  rw [List.forall₂_map_left_iff, List.forall₂_map_right_iff]
  exact (h.pieces (· == ',')).imp fun _ _ hp => hp.trim

theorem Alike.words (h : Alike free t t') : List.Forall₂ (Alike free)
    ((t.pieces isBlank).filter fun p => !p.isEmpty)
    ((t'.pieces isBlank).filter fun p => !p.isEmpty) :=
  List.rel_filter (fun _ _ hp => by dsimp only; rw [hp.isEmpty_eq]) (h.pieces isBlank)

end Text

namespace Value

/-! ## Reading -/

/-- Values of the same shape with texts that are alike. -/
inductive Alike (free : Char → Bool) : Value → Value → Prop
  | verbatim {t t' : Text} (h : Text.Alike free t t') : Alike free (verbatim t) (verbatim t')
  | word {t t' : Text} (h : Text.Alike free t t') : Alike free (word t) (word t')
  | call {f f' : Text} {args args' : List Text} (h : Text.Alike free f f')
      (ha : List.Forall₂ (Text.Alike free) args args') : Alike free (call f args) (call f' args')

/-- The characters that are looked for in literals as well. -/
def seeks (c : Char) : Bool := c == '(' || c == ')' || isExpressionChar c

variable {free : Char → Bool} {v v' : Text} {ts ts' : List Text}

theorem matches_ofTokens (h : List.Forall₂ (Text.Alike free) ts ts') :
    Matches (Alike free) (ofTokens ts) (ofTokens ts') := by
  cases h with
  | nil => exact .error rfl
  | cons hf ha =>
    simp only [ofTokens, hf.trim.isEmpty_eq]
    split
    · exact .error rfl
    · exact .ok (.call hf.trim ha)

theorem inert_of_operators {t : Text} (h : operators.contains t = true) : t.Inert := by
  have hall : ∀ w ∈ operators, w.Inert := by decide
  exact hall t (List.contains_iff_mem.1 h)

theorem alike_quote_nil : Alike free (verbatim (quote [])) (verbatim (quote [])) :=
  .verbatim (.refl (closed_quote []))

theorem matches_ofWords (hv : Text.Alike free v v') (h : List.Forall₂ (Text.Alike free) ts ts') :
    Matches (Alike free) (ofWords v ts) (ofWords v' ts') := by
  cases h with
  | nil => exact .ok alike_quote_nil
  | cons hf ha =>
    cases ha with
    | nil => exact .ok (.word hf)
    | cons ht ha =>
      simp only [ofWords, ht.congr_inert fun _ => inert_of_operators]
      split
      · exact .ok (.verbatim hv)
      · exact matches_ofTokens (.cons hf (.cons ht ha))

/-- What the literals of a value say does not matter to how it is read. -/
theorem matches_ofTrimmed (hfree : ∀ c, seeks c = true → free c = false)
    (h : Text.Alike free v v') : Matches (Alike free) (ofTrimmed v) (ofTrimmed v') := by
  rw [ofTrimmed_of_closed h.closed, ofTrimmed_of_closed h.symm.closed, h.isEmpty_eq, h.isQuoted_eq,
    h.contains_eq (hfree '(' rfl), h.contains_eq (hfree ')' rfl), h.isCollection_eq, h.skeleton_eq]
  split
  · exact .ok alike_quote_nil
  · split
    · exact .ok (.verbatim h)
    · split
      · exact matches_ofTokens h.commaPieces
      · exact matches_ofWords h h.words

theorem matches_ofText (hfree : ∀ c, seeks c = true → free c = false) (h : Text.Alike free v v') :
    Matches (Alike free) (ofText v) (ofText v') := matches_ofTrimmed hfree h.trim

/-! ## Rendering -/

variable {known : Text → Bool} {t t' : Text}

theorem isPlain_eq (hknown : ∀ n, known n = true → n.Inert) (h : Text.Alike free t t') :
    isPlain known t = isPlain known t' := by
  rw [isPlain, isPlain, h.isQuoted_eq, h.congr_inert fun _ => inert_of_isNumber, h.congr_inert hknown]

theorem alike_renderWord (hfree : ∀ c, seeks c = true → free c = false)
    (hknown : ∀ n, known n = true → n.Inert) (h : Text.Alike free t t') :
    Text.Alike free (renderWord known t) (renderWord known t') := by
  rw [renderWord, renderWord, isPlain_eq hknown h, h.contains_eq (hfree '.' rfl),
    h.contains_eq (hfree '[' rfl)]
  split
  · exact h
  · exact h.quote

theorem alike_renderArgument (hfree : ∀ c, seeks c = true → free c = false)
    (hknown : ∀ n, known n = true → n.Inert) (h : Text.Alike free t t') :
    Text.Alike free (renderArgument known t) (renderArgument known t') := by
  have hany : t.trim.any isExpressionChar = t'.trim.any isExpressionChar :=
    h.trim.any_eq fun c hc => hfree c (by rw [seeks, hc, Bool.or_true])
  simp only [renderArgument, isPlain_eq hknown h.trim, hany]
  split
  · exact h.trim
  · exact h.trim.quote

theorem alike_intercalate (h : List.Forall₂ (Text.Alike free) ts ts') :
    Text.Alike free ([',', ' '].intercalate ts) ([',', ' '].intercalate ts') := by
  have hsep : Inert [',', ' '] := by decide
  induction h with
  | nil => exact .refl rfl
  | cons hf ha ih =>
    cases ha with
    | nil =>
      rw [List.intercalate_singleton, List.intercalate_singleton]
      exact hf
    | cons ht ha =>
      rw [List.intercalate_cons_cons, List.intercalate_cons_cons, List.append_assoc, List.append_assoc]
      exact hf.append_word hsep (List.cons_ne_nil _ _) ih

/-- What the literals of a value say does not matter to its host syntax beyond them. -/
theorem Alike.render {value value' : Value} (hfree : ∀ c, seeks c = true → free c = false)
    (hknown : ∀ n, known n = true → n.Inert) (h : Alike free value value') :
    Text.Alike free (value.render known) (value'.render known) := by
  cases h with
  | verbatim h => exact h
  | word h => exact alike_renderWord hfree hknown h
  | @call f f' args args' h ha =>
    have hargs : List.Forall₂ (Text.Alike free) (args.map (renderArgument known))
        (args'.map (renderArgument known)) := by
      rw [List.forall₂_map_left_iff, List.forall₂_map_right_iff]
      exact ha.imp fun _ _ => alike_renderArgument hfree hknown
    have hlist := (alike_intercalate hargs).append_cons (c := ')') (by decide) (.refl (t := []) rfl)
    rw [Value.render, Value.render, List.append_assoc, List.append_assoc]
    exact h.append_cons (by decide) hlist

end Value

end KScript
