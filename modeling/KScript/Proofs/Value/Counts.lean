import KScript.Proofs.Literal.Words
import KScript.Proofs.Value.Calls

/-!
# How many tokens a value has

A value is cut at commas if it has one outside literals, and into words if it holds a blank anywhere.  A
comma outside literals leaves two pieces at least, which is what is asked of a call.  A blank divides a
trimmed value only where it stands outside literals and is not escaped, and then there are words on both
sides of it; any other blank leaves the value whole.
-/

namespace KScript

open Text

namespace Text

variable {t v : Text} {ws : List Text}

namespace HasWords

/-- Only blank texts have no words. -/
theorem ne_nil (h : HasWords t ws) (ht : ¬ t.Blank) : ws ≠ [] := by
  rintro rfl
  obtain ⟨b, ps, hb, -, hps, rfl⟩ := h.exists_gaps
  rw [List.map_eq_nil_iff.1 hps, spaced_nil, List.append_nil] at ht
  exact ht hb

theorem eq_singleton (h : HasWords t ws) (ht : t.Unspaced) : ws = [t] := by
  have hwhole : t.words = .ok [t] := words_eq_ok_iff.2 (.last t ht)
  exact Except.ok.inj ((words_eq_ok_iff.2 h).symm.trans hwhole)

/-- If a trimmed text has one word, this is the text, and no blank outside literals divides it. -/
theorem unspaced_of_length_eq_one (h : HasWords v ws) (hv : v.trim = v) (hlength : ws.length = 1) :
    v.Unspaced := by
  obtain ⟨w, rfl⟩ := List.length_eq_one_iff.1 hlength
  obtain rfl := eq_of_words_eq_singleton hv (words_eq_ok_iff.2 h)
  exact h.unspaced w List.mem_cons_self

/-- Trimming leaves something to stand on either side of a blank outside literals. -/
theorem length_eq_one_iff (h : HasWords v ws) (hv : v.trim = v) (hne : v ≠ []) :
    ws.length = 1 ↔ ∀ c ∈ v.skeleton, isBlank c = false := by
  constructor
  · intro hlength
    exact (h.unspaced_of_length_eq_one hv hlength).no_blank
  · intro hfree
    rw [h.eq_singleton ⟨hne, hfree, h.closed⟩, List.length_singleton]

end HasWords

end Text

namespace Value

variable {v : Text} {ts : List Text}

/-- Trimmed pieces are read as a call, or there is nothing to call. -/
theorem ofTokens_cases (hne : ts ≠ []) (htrim : ∀ t ∈ ts, t.trim = t) :
    (∃ f args, ts = f :: args ∧ ofTokens ts = .ok (.call f args)) ∨
      ofTokens ts = .error (.missingCallee ts) := by
  obtain ⟨f, args, rfl⟩ := List.exists_cons_of_ne_nil hne
  by_cases hf : f.trim = []
  · exact .inr (ofTokens_cons_eq_error_iff.2 ⟨hf, rfl⟩)
  · refine .inl ⟨f, args, rfl, ofTokens_cons_eq_ok_iff.2 ⟨hf, ?_⟩⟩
    rw [htrim f List.mem_cons_self]

/-- A value with a comma outside literals never gets past the cut at commas. -/
theorem ofTrimmed_of_comma (hw : ¬ IsWhole v) (hcomma : ',' ∈ v.skeleton)
    (h : v.commaPieces = .ok ts) :
    (∃ f args, ts = f :: args ∧ ofTrimmed v = .ok (.call f args)) ∨
      ofTrimmed v = .error (.missingCallee ts) := by
  have hcount : 2 ≤ ts.length := two_le_length_of_commaPieces hcomma h
  have hne : ts ≠ [] := List.ne_nil_of_length_pos (by omega)
  have htrim : ∀ t ∈ ts, t.trim = t := by
    obtain ⟨ps, -, rfl⟩ := map_eq_ok_iff.1 h
    exact List.forall_mem_map.2 fun p _ => trim_trim p
  have hread : ofTrimmed v = ofTokens ts := by
    rw [ofTrimmed_of_not_isWhole hw, if_pos hcomma, h]
    rfl
  rw [hread]
  exact ofTokens_cases hne htrim

/-- A value that blanks do not divide is a word, blanks in literals and escaped ones included. -/
theorem ofTrimmed_of_unspaced (hw : ¬ IsWhole v) (hcomma : ',' ∉ v.skeleton) (h : v.Unspaced) :
    ofTrimmed v = .ok (.word v) := by
  rw [ofTrimmed_of_not_isWhole hw, if_neg hcomma, ofSpaced, words_eq_ok_iff.2 (.last v h)]
  split <;> rfl

end Value

namespace Scope

/-- **The number of tokens agrees with the tests in front of the cuts.**  Take a value that is not blank
and leaves no literal open.  If it has a comma outside literals, the cut at commas gives two tokens at
least, and a value that is no whole becomes the call of the first one or lacks something to call.  The cut
at blanks gives one token at least, and exactly one if there is no blank outside literals, whatever blanks
there are in literals and behind escapes; that token is the value, and without a comma outside literals it
is rendered as a single word. -/
theorem reduce_counts (s : Scope) (keywords : Names) {u : Text} (hne : u.trim ≠ [])
    (hclosed : u.trim.closed = true) :
    let v := u.trim
    let outcome := s.reduce keywords u
    (',' ∈ v.skeleton → ∃ ts, located s.line v.commaPieces = .ok ts ∧ 2 ≤ ts.length ∧
      (¬ Value.IsWhole v →
        (∃ f args, ts = f :: args ∧ outcome = .ok ((Value.call f args).render (s.knows keywords))) ∨
          outcome = .error ((Fault.missingCallee ts).on s.line))) ∧
    ∃ ws, located s.line v.words = .ok ws ∧ ws ≠ [] ∧
      (ws.length = 1 ↔ ∀ c ∈ v.skeleton, isBlank c = false) ∧ (ws.length = 1 → ws = [v]) ∧
      (¬ Value.IsWhole v → ',' ∉ v.skeleton → ws.length = 1 →
        outcome = .ok (Value.renderWord (s.knows keywords) v)) := by
  intro v outcome
  have hv : v.trim = v := trim_trim u
  constructor
  · intro hcomma
    obtain ⟨ts, hts⟩ : ∃ ts, v.commaPieces = .ok ts := ⟨_, commaPieces_of_closed hclosed⟩
    refine ⟨ts, located_eq_ok_iff.2 hts, two_le_length_of_commaPieces hcomma hts, fun hw => ?_⟩
    rcases Value.ofTrimmed_of_comma hw hcomma hts with ⟨f, args, hcall, hread⟩ | hread
    · exact .inl ⟨f, args, hcall, reduce_eq_ok_iff.2 ⟨_, hread, rfl⟩⟩
    · exact .inr (reduce_eq_error_iff.2 ⟨_, hread, rfl⟩)
  · have hblank : ¬ v.Blank := fun h => hne (hv.symm.trans (trim_eq_nil_iff.2 h))
    obtain ⟨ws, hws⟩ : ∃ ws, HasWords v ws := ⟨_, (cutsInto_pieces isBlank v).hasWords hclosed⟩
    refine ⟨ws, located_words_eq_ok_iff.2 hws, hws.ne_nil hblank, hws.length_eq_one_iff hv hne, ?_, ?_⟩
    · intro hlength
      exact hws.eq_singleton (hws.unspaced_of_length_eq_one hv hlength)
    · intro hw hcomma hlength
      have hword := Value.ofTrimmed_of_unspaced hw hcomma (hws.unspaced_of_length_eq_one hv hlength)
      exact reduce_eq_ok_iff.2 ⟨_, hword, rfl⟩

/-- A call with a comma in a literal of its own, and a word with one blank in a literal and another behind
a backslash. -/
theorem reduce_counts_blanks :
    let t : Text := "say, \"a, b\"".toList
    let w : Text := "a\\ \"b c\"".toList
    t ≠ [] ∧ t.closed = true ∧ ',' ∈ t.skeleton ∧ ¬ Value.IsWhole t ∧
      (∃ ts, located 0 t.commaPieces = .ok ts ∧ 2 ≤ ts.length ∧
        ((∃ f args, ts = f :: args ∧
            empty.reduce ∅ (' ' :: t) = .ok ((Value.call f args).render (empty.knows ∅))) ∨
          empty.reduce ∅ (' ' :: t) = .error ((Fault.missingCallee ts).on 0))) ∧
      w ≠ [] ∧ w.closed = true ∧ ¬ Value.IsWhole w ∧ ',' ∉ w.skeleton ∧
      (∀ c ∈ w.skeleton, isBlank c = false) ∧ located 0 w.words = .ok [w] ∧
      empty.reduce ∅ w = .ok (Value.renderWord (empty.knows ∅) w) := by
  intro t w
  have ht : t ≠ [] ∧ t.closed = true ∧ ',' ∈ t.skeleton ∧ ¬ Value.IsWhole t := by decide
  have hw : w.Unspaced ∧ ¬ Value.IsWhole w ∧ ',' ∉ w.skeleton := by decide
  obtain ⟨hne, hclosed, hcomma, hcut⟩ := ht
  obtain ⟨⟨hne', hfree, hclosed'⟩, hword, hnone⟩ := hw
  obtain ⟨hcommas, -⟩ := reduce_counts empty ∅ (u := ' ' :: t) hne hclosed
  obtain ⟨ts, hts, hlength, hcall⟩ := hcommas hcomma
  obtain ⟨-, ws, hws, -, hone, hwhole, hrender⟩ := reduce_counts empty ∅ (u := w) hne' hclosed'
  have hlength' : ws.length = 1 := hone.2 hfree
  refine ⟨hne, hclosed, hcomma, hcut, ⟨ts, hts, hlength, hcall hcut⟩, hne', hclosed', hword, hnone,
    hfree, ?_, hrender hword hnone hlength'⟩
  exact hwhole hlength' ▸ hws

end Scope

end KScript
