import KScript.Proofs.Value.Settled
import Mathlib.Data.List.Induction

/-!
# Values that are one literal

A literal is a quote, a body in which that quote stands behind backslashes only, and the quote again.
The test for quoted values compares the two ends and does not look at the body, so it also accepts
values that begin with one literal and end with another.
-/

namespace KScript

/-- The character that delimits the literals of a kind. -/
def Quote.char : Quote → Char
  | .single => '\''
  | .double => '"'

namespace Quote

variable {p : Quote} {c : Char}

@[simp] theorem ofChar?_char (p : Quote) : ofChar? p.char = some p := by cases p <;> rfl

theorem ofChar?_eq_some_iff : ofChar? c = some p ↔ c = p.char := by
  constructor
  · intro h
    unfold ofChar? at h
    split at h
    · next hc =>
      obtain rfl := Option.some.inj h
      exact hc
    · split at h
      · next hc =>
        obtain rfl := Option.some.inj h
        exact hc
      · cases h
  · rintro rfl
    exact ofChar?_char p

end Quote

namespace Scan

variable {p : Quote} {c : Char} {b r : Text}

/-- Inside a literal, where nothing is escaped. -/
def within (p : Quote) : Scan := ⟨some p, false⟩

theorem step_start_char (p : Quote) : start.step p.char = within p := by cases p <;> rfl

theorem step_within_char (p : Quote) : (within p).step p.char = start := by cases p <;> rfl

theorem step_within_escape (p : Quote) (c : Char) : ((within p).step '\\').step c = within p := rfl

/-- The other quote is a character like any other. -/
theorem step_within (hquote : c ≠ p.char) (hescape : c ≠ '\\') : (within p).step c = within p := by
  cases hc : Quote.ofChar? c with
  | none => exact step_of_not_reacts (not_reacts_iff.2 ⟨hescape, hc⟩)
  | some q =>
    have hne : p ≠ q := by
      rintro rfl
      exact hquote (Quote.ofChar?_eq_some_iff.1 hc)
    simp [step, within, hescape, hc, hne]

/-- Only a quote leads into a literal. -/
theorem exists_char_of_isSome (h : (start.step c).literal.isSome = true) : ∃ p : Quote, c = p.char := by
  cases hc : Quote.ofChar? c with
  | none =>
    by_cases hescape : c = '\\'
    · subst hescape
      cases h
    · rw [step_of_not_reacts (not_reacts_iff.2 ⟨hescape, hc⟩)] at h
      cases h
  | some p => exact ⟨p, Quote.ofChar?_eq_some_iff.1 hc⟩

end Scan

/-! ## Literals -/

/-- The bodies of literals: the quote `q` occurs behind backslashes only. -/
inductive Enclosed (q : Char) : Text → Prop
  | nil : Enclosed q []
  | plain {c : Char} {b : Text} (hquote : c ≠ q) (hescape : c ≠ '\\') (hb : Enclosed q b) :
      Enclosed q (c :: b)
  | escaped (c : Char) {b : Text} (hb : Enclosed q b) : Enclosed q ('\\' :: c :: b)

namespace Enclosed

variable {p : Quote} {b r : Text}

/-- A body leads back to where it begins and never out of the literal. -/
theorem past_take (h : Enclosed p.char b) :
    (Scan.within p).past b = .within p ∧
      ∀ i, ((Scan.within p).past (b.take i)).literal.isSome = true := by
  induction h with
  | nil => exact ⟨rfl, fun i => by rw [List.take_nil]; rfl⟩
  | plain hquote hescape _ ih =>
    obtain ⟨hpast, htake⟩ := ih
    have hstep := Scan.step_within hquote hescape
    refine ⟨by rw [Scan.past_cons, hstep, hpast], fun i => ?_⟩
    cases i with
    | zero => rfl
    | succ i => rw [List.take_succ_cons, Scan.past_cons, hstep, htake i]
  | escaped c _ ih =>
    obtain ⟨hpast, htake⟩ := ih
    have hstep := Scan.step_within_escape p c
    refine ⟨by rw [Scan.past_cons, Scan.past_cons, hstep, hpast], fun i => ?_⟩
    match i with
    | 0 => rfl
    | 1 => rfl
    | i + 2 =>
      rw [List.take_succ_cons, List.take_succ_cons, Scan.past_cons, Scan.past_cons, hstep, htake i]

/-- A scan that leaves its literal at the last character and not before has passed a body. -/
theorem of_past (hstays : ∀ i < r.length, ((Scan.within p).past (r.take i)).literal.isSome = true)
    (hcloses : ((Scan.within p).past r).literal.isNone = true) :
    ∃ b, r = b ++ [p.char] ∧ Enclosed p.char b := by
  induction r using List.twoStepInduction with
  | nil => cases hcloses
  | singleton c =>
    by_cases hquote : c = p.char
    · exact ⟨[], by rw [hquote]; rfl, .nil⟩
    · exfalso
      by_cases hescape : c = '\\'
      · subst hescape
        cases hcloses
      · rw [Scan.past_cons, Scan.step_within hquote hescape] at hcloses
        cases hcloses
  | cons_cons c d r hskip hnext =>
    by_cases hquote : c = p.char
    · -- The literal is closed while there is more to come.
      have hopen := hstays 1 (by simp)
      rw [List.take_succ_cons, List.take_zero, Scan.past_cons, hquote, Scan.step_within_char] at hopen
      cases hopen
    by_cases hescape : c = '\\'
    · subst hescape
      obtain ⟨b, rfl, hb⟩ := hskip (fun i hi => hstays (i + 2) (by simpa using hi)) hcloses
      exact ⟨'\\' :: d :: b, rfl, .escaped d hb⟩
    · have hstep := Scan.step_within hquote hescape
      have hstays' : ∀ i < (d :: r).length,
          ((Scan.within p).past ((d :: r).take i)).literal.isSome = true := by
        intro i hi
        have hopen := hstays (i + 1) (by simpa using hi)
        rwa [List.take_succ_cons, Scan.past_cons, hstep] at hopen
      rw [Scan.past_cons, hstep] at hcloses
      obtain ⟨b, hr, hb⟩ := hnext d hstays' hcloses
      exact ⟨c :: b, by rw [hr]; rfl, .plain hquote hescape hb⟩

end Enclosed

namespace Text

variable {t v : Text}

/-- The text is one literal: a scan enters it at the first character and leaves it at the last one
and not before. -/
structure IsLiteral (t : Text) : Prop where
  opens : (Scan.start.past (t.take 1)).literal.isSome = true
  stays : ∀ i < t.length, 0 < i → (Scan.start.past (t.take i)).literal.isSome = true
  closes : t.closed = true

theorem isLiteral_def : t.IsLiteral ↔
    (Scan.start.past (t.take 1)).literal.isSome = true ∧
      (∀ i < t.length, 0 < i → (Scan.start.past (t.take i)).literal.isSome = true) ∧
        t.closed = true :=
  ⟨fun h => ⟨h.opens, h.stays, h.closes⟩, fun ⟨h, h', h''⟩ => ⟨h, h', h''⟩⟩

instance : DecidablePred IsLiteral := fun _ => decidable_of_iff _ isLiteral_def.symm

/-- What a scan finds to be one literal is a body between two quotes. -/
theorem isLiteral_iff :
    t.IsLiteral ↔ ∃ (p : Quote) (b : Text), t = p.char :: (b ++ [p.char]) ∧ Enclosed p.char b := by
  constructor
  · rintro ⟨hopens, hstays, hcloses⟩
    cases t with
    | nil => cases hopens
    | cons c r =>
      obtain ⟨p, rfl⟩ := Scan.exists_char_of_isSome hopens
      have hstays' : ∀ i < r.length,
          ((Scan.within p).past (r.take i)).literal.isSome = true := by
        intro i hi
        have hopen := hstays (i + 1) (by simpa using hi) i.succ_pos
        rwa [List.take_succ_cons, Scan.past_cons, Scan.step_start_char] at hopen
      rw [closed, Scan.past_cons, Scan.step_start_char] at hcloses
      obtain ⟨b, rfl, hb⟩ := Enclosed.of_past hstays' hcloses
      exact ⟨p, b, rfl, hb⟩
  · rintro ⟨p, b, rfl, hb⟩
    obtain ⟨hpast, htake⟩ := hb.past_take
    refine ⟨?_, fun i hi hpos => ?_, ?_⟩
    · rw [List.take_succ_cons, List.take_zero, Scan.past_cons, Scan.step_start_char]
      rfl
    · obtain ⟨i, rfl⟩ := Nat.exists_eq_succ_of_ne_zero hpos.ne'
      have hle : i ≤ b.length := by simp at hi; omega
      rw [List.take_succ_cons, List.take_append_of_le_length hle, Scan.past_cons,
        Scan.step_start_char, htake i]
    · rw [closed, Scan.past_cons, Scan.step_start_char, Scan.past_append, hpast, Scan.past_cons,
        Scan.step_within_char]
      rfl

/-- The test for quoted values looks at the two ends. -/
theorem isQuoted_iff : t.isQuoted = true ↔ ∃ (p : Quote) (b : Text), t = p.char :: (b ++ [p.char]) := by
  cases t with
  | nil => simp [isQuoted]
  | cons c r =>
    rw [isQuoted, Bool.and_eq_true, Option.isSome_iff_exists, beq_iff_eq, List.getLast?_eq_some_iff]
    constructor
    · rintro ⟨⟨p, hp⟩, b, rfl⟩
      obtain rfl := Quote.ofChar?_eq_some_iff.1 hp
      exact ⟨p, b, rfl⟩
    · rintro ⟨p, b, h⟩
      obtain ⟨rfl, rfl⟩ := List.cons.inj h
      exact ⟨⟨p, Quote.ofChar?_char p⟩, b, rfl⟩

/-- The quoted form of a text is one literal. -/
theorem isLiteral_quote (t : Text) : t.quote.IsLiteral := by
  refine isLiteral_iff.2 ⟨.double, t.escape, rfl, ?_⟩
  induction t with
  | nil => exact .nil
  | cons c t ih =>
    unfold escape
    split
    · exact .escaped c ih
    · next hc => exact .plain (fun h => hc (.inl h)) (fun h => hc (.inr h)) ih

end Text

namespace Scope

/-- **A value in quotes is taken as it stands, and it is one literal exactly if the quote stands
behind backslashes only.**  The test for quoted values compares the first character with the last
one: every literal passes it, and what passes it without being a literal has a body that ends the
literal early or escapes the last quote.  All of them are reduced to themselves. -/
theorem reduce_quoted (s : Scope) (keywords : Names) :
    (∀ t : Text, t.IsLiteral ↔
      ∃ (p : Quote) (b : Text), t = p.char :: (b ++ [p.char]) ∧ Enclosed p.char b) ∧
    (∀ t : Text, t.isQuoted = true ↔ ∃ (p : Quote) (b : Text), t = p.char :: (b ++ [p.char])) ∧
    (∀ (p : Quote) (b : Text), Text.IsLiteral (p.char :: (b ++ [p.char])) ↔ Enclosed p.char b) ∧
    ∀ v : Text, v.trim.isQuoted = true → s.reduce keywords v = .ok v.trim := by
  refine ⟨fun t => Text.isLiteral_iff, fun t => Text.isQuoted_iff, fun p b => ?_, fun v hv => ?_⟩
  · rw [Text.isLiteral_iff]
    constructor
    · rintro ⟨q, b', h, hb'⟩
      obtain ⟨hchar, hbody⟩ := List.cons.inj h
      rw [hchar, (List.append_inj' hbody rfl).1]
      exact hb'
    · intro hb
      exact ⟨p, b, rfl, hb⟩
  · have hne : v.trim ≠ [] := by
      rintro h
      rw [h] at hv
      cases hv
    exact reduce_eq_ok_iff.2 ⟨_, Value.ofTrimmed_of_isVerbatim hne (.inl hv), rfl⟩

/-- A literal between blanks in which the quote is escaped. -/
theorem reduce_quoted_apostrophe :
    let v : Text := " 'it\\'s' ".toList
    v.trim.isQuoted = true ∧ v.trim.IsLiteral ∧ empty.reduce ∅ v = .ok v.trim := by
  intro v
  obtain ⟨hliteral, hends, -, hreduce⟩ := reduce_quoted empty ∅
  have htrim : v.trim = Quote.single.char :: ("it\\'s".toList ++ [Quote.single.char]) := by decide
  have hbody : Enclosed Quote.single.char "it\\'s".toList :=
    .plain (by decide) (by decide) (.plain (by decide) (by decide)
      (.escaped '\'' (.plain (by decide) (by decide) .nil)))
  have hquoted : v.trim.isQuoted = true := (hends v.trim).2 ⟨.single, _, htrim⟩
  exact ⟨hquoted, (hliteral v.trim).2 ⟨.single, _, htrim, hbody⟩, hreduce v hquoted⟩

/-- Two literals with an operator between them are taken for one. -/
theorem isQuoted_sum_not_isLiteral :
    let t : Text := "\"a\" + \"b\"".toList
    t.isQuoted = true ∧ ¬ t.IsLiteral ∧ empty.reduce ∅ t = .ok t ∧
      ¬ ∀ u : Text, u.isQuoted = true ↔ u.IsLiteral := by
  intro t
  have hquoted : t.isQuoted = true := by decide
  have hliteral : ¬ t.IsLiteral := by decide
  exact ⟨hquoted, hliteral, rfl, fun h => hliteral ((h t).1 hquoted)⟩

end Scope

end KScript
