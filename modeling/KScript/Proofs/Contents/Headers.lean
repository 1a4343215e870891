import KScript.Statement.Rendering
import KScript.Proofs.Literal.Alike
import KScript.Proofs.Literal.Tokens
import KScript.Proofs.Statement.Reading

/-!
# What the literals of a header say

Headers are copied, so those that are alike have code that is alike.  The header of a block is split
at every comma; if no literal hides one, headers that are alike bind the same names as well.
-/

namespace KScript

open Text

variable {free : Char → Bool} {t t' : Text}

namespace Text

/-- Inert text around two texts changes nothing about their literals. -/
theorem Alike.wrap {a b : Text} (ha : a.Inert) (hb : b.Inert) (hne : b ≠ []) (h : Alike free t t') :
    Alike free (a ++ t ++ b) (a ++ t' ++ b) := by
  have hjoined := Alike.word_append ha (h.append_word hb hne (.refl (t := []) rfl))
  rwa [List.append_nil, ← List.append_assoc, ← List.append_assoc] at hjoined

/-- A character between two texts that no scan acts on separates their literals. -/
theorem Alike.join {a b u u' : Text} {c : Char} (ha : a.Inert) (hc : Scan.reacts c = false)
    (hb : b.Inert) (hne : b ≠ []) (h : Alike free t t') (hu : Alike free u u') :
    Alike free (a ++ t ++ c :: u ++ b) (a ++ t' ++ c :: u' ++ b) := by
  have hrest := h.append_cons hc (hu.append_word hb hne (.refl (t := []) rfl))
  rw [List.append_nil] at hrest
  rw [List.append_assoc, List.append_assoc, List.append_assoc, List.append_assoc]
  exact .word_append ha hrest

/-- Both texts begin with an inert text or none of them does. -/
theorem Alike.dropPrefix?_cases {w : Text} (hw : w.Inert) (h : Alike free t t') :
    (∃ r r', t = w ++ r ∧ t'.dropPrefix? w = some r' ∧ t.dropPrefix? w = some r ∧ Alike free r r') ∨
      t.dropPrefix? w = none ∧ t'.dropPrefix? w = none := by
  cases ht : t.dropPrefix? w with
  | some r =>
    obtain rfl := dropPrefix?_eq_some_iff.1 ht
    obtain ⟨r', rfl, hr⟩ := h.word_append_inv hw
    exact .inl ⟨r, r', rfl, dropPrefix?_append w r', rfl, hr⟩
  | none =>
    refine .inr ⟨rfl, dropPrefix?_eq_none_iff.2 ?_⟩
    rintro ⟨r', rfl⟩
    obtain ⟨r, rfl, -⟩ := h.symm.word_append_inv hw
    exact dropPrefix?_eq_none_iff.1 ht ⟨r, rfl⟩

end Text

/-! ## Branches and loops -/

namespace Control

/-- A control header is copied with the literals of its condition. -/
theorem Reads.alike {c : Control} (h : Reads t c) (ht : Alike free t t') :
    ∃ c', Reads t' c' ∧ Alike free c.render c'.render := by
  have hclose : Inert ") \x7b".toList := by decide
  have hne : ") \x7b".toList ≠ [] := by decide
  cases h with
  | orElse =>
    rw [ht.eq_of_inert (by decide)]
    exact ⟨.orElse, .orElse, .refl (by decide)⟩
  | orElseIf x =>
    obtain ⟨x', rfl, hx⟩ := ht.word_append_inv (by decide)
    exact ⟨_, .orElseIf x', hx.trim.wrap (by decide) hclose hne⟩
  | ifThen x =>
    obtain ⟨x', rfl, hx⟩ := ht.word_append_inv (by decide)
    exact ⟨_, .ifThen x', hx.trim.wrap (by decide) hclose hne⟩
  | whileLoop x =>
    obtain ⟨x', rfl, hx⟩ := ht.word_append_inv (by decide)
    exact ⟨_, .whileLoop x', hx.trim.wrap (by decide) hclose hne⟩
  | forLoop x =>
    obtain ⟨x', rfl, hx⟩ := ht.word_append_inv (by decide)
    exact ⟨_, .forLoop x', hx.trim.wrap (by decide) hclose hne⟩

end Control

/-! ## Parameters -/

namespace Opener

/-- The name of a parameter: what stands before its default value. -/
def parameterName (p : Text) : Text := Text.trim (p.takeWhile (· != '='))

theorem parameterNames_eq_filter (parameters : Text) :
    parameterNames parameters =
      ((parameters.splitOn ',').map parameterName).filter Text.isIdentifier := rfl

/-- A default value begins behind the same name, unless a literal stands before it. -/
theorem takeWhile_eq_of_inert (h : Alike free t t') (hi : Inert (t.takeWhile (· != '='))) :
    t'.takeWhile (· != '=') = t.takeWhile (· != '=') := by
  have hsplit : t.takeWhile (· != '=') ++ t.dropWhile (· != '=') = t :=
    List.takeWhile_append_dropWhile
  have hall : ∀ c ∈ t.takeWhile (· != '='), (c != '=') = true := fun _ => List.mem_takeWhile_imp
  generalize t.takeWhile (· != '=') = name at hsplit hi hall ⊢
  cases hd : t.dropWhile (· != '=') with
  | nil =>
    rw [hd, List.append_nil] at hsplit
    subst hsplit
    rw [h.eq_of_inert hi]
    exact List.takeWhile_eq_self_iff.2 hall
  | cons c r =>
    have hc : (c != '=') = false := by
      have hhead := List.head_dropWhile_not (· != '=') (l := t) (by rw [hd]; exact List.cons_ne_nil c r)
      simpa [hd] using hhead
    rw [hd] at hsplit
    subst hsplit
    obtain ⟨u, rfl, hu⟩ := h.word_append_inv hi
    obtain ⟨r', rfl, -⟩ := hu.scan.cons_inv (Scan.not_ordinary_of_literal rfl c)
    rw [List.takeWhile_append_of_pos hall, List.takeWhile_cons_of_neg (by rw [hc]; decide),
      List.append_nil]

/-- A parameter that is an identifier is the same in both texts. -/
theorem parameterName_eq (h : Alike free t t') (hi : (parameterName t).isIdentifier = true) :
    parameterName t' = parameterName t := by
  rw [parameterName, takeWhile_eq_of_inert h (inert_of_isIdentifier_trim hi), ← parameterName]

theorem filter_isIdentifier_congr {ps ps' : List Text} (h : List.Forall₂ (Alike free) ps ps') :
    (ps.map parameterName).filter Text.isIdentifier =
      (ps'.map parameterName).filter Text.isIdentifier := by
  induction h with
  | nil => rfl
  | @cons p p' _ _ hp _ ih =>
    rw [List.map_cons, List.map_cons, List.filter_cons, List.filter_cons, ih]
    cases hi : (parameterName p).isIdentifier with
    | true => rw [parameterName_eq hp hi, hi]
    | false =>
      have hi' : (parameterName p').isIdentifier = false := by
        by_contra hn
        rw [Bool.not_eq_false] at hn
        rw [parameterName_eq hp.symm hn, hn] at hi
        cases hi
      rw [hi', if_neg Bool.false_ne_true, if_neg Bool.false_ne_true]

/-! ## Commas -/

theorem not_hides_of_append_cons {a b : Text} {d : Char} (hd : Scan.reacts d = false)
    (h : hides d .start (a ++ d :: b) = false) : hides d .start b = false := by
  have ha : (Scan.start.past a).literal = none := by simpa [closed] using closed_of_not_hides h
  rw [hides_append, hides, Scan.step_of_not_reacts hd, ha, Bool.or_eq_false_iff,
    Bool.or_eq_false_iff] at h
  exact h.2.2

/-- If no literal hides a comma, the pieces between all commas are alike. -/
theorem forall₂_splitOn (hfree : free ',' = false) (h : Alike free t t')
    (hh : hides ',' .start t = false) :
    List.Forall₂ (Alike free) (t.splitOn ',') (t'.splitOn ',') := by
  have hcomma : Scan.reacts ',' = false := by decide
  induction hn : t.length using Nat.strong_induction_on generalizing t t' with
  | _ n ih =>
    by_cases hmem : ',' ∈ t
    · obtain ⟨a, b, rfl⟩ := List.append_of_mem hmem
      obtain ⟨a', b', rfl, ha, hb⟩ := h.append_cons_inv (closed_of_not_hides hh) hcomma
      have hha := hh
      rw [hides_append, Bool.or_eq_false_iff] at hha
      simp only [List.length_append, List.length_cons] at hn
      have hpieces := ih a.length (by omega) ha hha.1 rfl
      have hpieces' := ih b.length (by omega) hb (not_hides_of_append_cons hcomma hh) rfl
      have hsplit (x y : Text) : (x ++ ',' :: y).splitOn ',' = x.splitOn ',' ++ y.splitOn ',' :=
        List.splitOnP_append_cons x y rfl
      rw [hsplit, hsplit]
      exact List.rel_append hpieces hpieces'
    · have hmem' : ',' ∉ t' := mt (h.scan.mem_iff hfree).2 hmem
      rw [List.splitOn_eq_singleton hmem, List.splitOn_eq_singleton hmem']
      exact .cons h .nil

/-- Parameters that are alike bind the same names. -/
theorem parameterNames_eq (hfree : free ',' = false) (h : Alike free t t')
    (hh : hides ',' .start t = false) : parameterNames t = parameterNames t' := by
  rw [parameterNames_eq_filter, parameterNames_eq_filter]
  exact filter_isIdentifier_congr (forall₂_splitOn hfree h hh)

/-! ## Blocks -/

/-- Openers that bind the same names and have code that is alike. -/
structure Alike (free : Char → Bool) (o o' : Opener) : Prop where
  binds_eq : o.binds = o'.binds
  code : Text.Alike free o.render o'.render

theorem alike_plain (h : Text.Alike free t t') : Alike free (plain t) (plain t') where
  binds_eq := rfl
  code := h.wrap (by decide) (by decide) (by decide)

theorem alike_withParameters {name name' parameters parameters' : Text} (hfree : free ',' = false)
    (hn : Text.Alike free name name') (hp : Text.Alike free parameters parameters')
    (hh : hides ',' .start parameters = false) :
    Alike free (withParameters name parameters) (withParameters name' parameters') where
  binds_eq := parameterNames_eq hfree hp hh
  code := hn.join (by decide) (by decide) (by decide) (by decide) hp

theorem alike_ofSignature (hfree : free ',' = false) (h : Text.Alike free t t')
    (hh : hides ',' .start t = false) : Alike free (ofSignature t) (ofSignature t') := by
  unfold ofSignature
  cases hcut : t.cutAt? (· == ',') with
  | none =>
    have hmem : ',' ∉ t := fun hc => by simpa using cutAt?_eq_none_iff.1 hcut ',' hc
    have hcut' : t'.cutAt? (· == ',') = none := cutAt?_eq_none_iff.2 fun c hc => by
      rw [beq_eq_false_iff_ne]
      rintro rfl
      exact hmem ((h.scan.mem_iff hfree).2 hc)
    rw [hcut']
    exact alike_plain h
  | some sides =>
    obtain ⟨a, b⟩ := sides
    obtain ⟨c, rfl, hc, hfirst⟩ := cutAt?_eq_some_iff.1 hcut
    obtain rfl : c = ',' := by simpa using hc
    have hcomma : Scan.reacts ',' = false := by decide
    obtain ⟨a', b', rfl, ha, hb⟩ := h.append_cons_inv (closed_of_not_hides hh) hcomma
    have hcut' : Text.cutAt? (· == ',') (a' ++ ',' :: b') = some (a', b') := by
      refine cutAt?_eq_some_iff.2 ⟨',', rfl, rfl, fun d hd => ?_⟩
      rw [beq_eq_false_iff_ne]
      rintro rfl
      simpa using hfirst ',' ((ha.scan.mem_iff hfree).2 hd)
    rw [hcut']
    exact alike_withParameters hfree ha.trim hb.trim
      (not_hides_trim (not_hides_of_append_cons hcomma hh))

/-- What the literals of a block's header say does not matter to the names that it binds. -/
theorem alike_ofHeader (hfree : free ',' = false) (h : Text.Alike free t t')
    (hh : hides ',' .start t = false) : Alike free (ofHeader t) (ofHeader t') := by
  have hdraw : t = "draw".toList ↔ t' = "draw".toList := by
    constructor
    · rintro rfl
      exact h.eq_of_inert (by decide)
    · rintro rfl
      exact h.symm.eq_of_inert (by decide)
  unfold ofHeader
  by_cases hd : t = "draw".toList
  · rw [if_pos hd, if_pos (hdraw.1 hd)]
    exact ⟨rfl, .refl (by decide)⟩
  · rw [if_neg hd, if_neg (mt hdraw.2 hd)]
    rcases h.dropPrefix?_cases (w := "block ".toList) (by decide) with
      ⟨r, r', rfl, hr', hr, halike⟩ | ⟨hn, hn'⟩
    · rw [hr, hr']
      rw [hides_append, Scan.past_start_inert (by decide), Bool.or_eq_false_iff] at hh
      exact alike_ofSignature hfree halike.trim (not_hides_trim hh.2)
    · rw [hn, hn']
      rcases h.dropPrefix?_cases (w := "block:".toList) (by decide) with
        ⟨r, r', -, hr', hr, halike⟩ | ⟨hn, hn'⟩
      · rw [hr, hr']
        exact alike_plain halike.trim
      · rw [hn, hn']
        exact alike_ofSignature hfree h hh

end Opener

end KScript
