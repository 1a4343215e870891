import KScript.Proofs.Literal.Escapes
import KScript.Proofs.Literal.Quoted
import KScript.Proofs.Literal.Tokens
import KScript.Proofs.Value.Failures

/-!
# Calls

The callee and the arguments of a call can be written with commas or with blanks between them, and both
forms are read alike.  The code of a call separates its arguments by commas, and it is cut at these
commas into the code of the arguments: quoting and joining neither add a comma nor hide one.
-/

namespace KScript

open Text

/-! ## Lists -/

namespace Text

variable {t : Text} {ps : List Text}

/-- A text that can stand between two commas: trimmed, without commas outside literals, and such that
behind it a scan could start. -/
structure IsItem (t : Text) : Prop where
  trim_eq : t.trim = t
  no_comma : ',' ∉ t.skeleton
  past_eq : Scan.start.past t = .start

/-- A list is cut into its items. -/
theorem commaPieces_intercalate (hne : ps ≠ []) (h : ∀ p ∈ ps, p.IsItem) :
    commaPieces ([',', ' '].intercalate ps) = .ok ps := by
  have hpast : Scan.start.past ([',', ' '].intercalate ps) = .start :=
    past_intercalate (by decide) fun p hp => (h p hp).past_eq
  have hclosed : closed ([',', ' '].intercalate ps) = true := (past_eq_start_iff.1 hpast).1
  have htrim : ps.map trim = ps := by
    conv_rhs => rw [← List.map_id ps]
    exact List.map_congr_left fun p hp => (h p hp).trim_eq
  rw [commaPieces_of_closed hclosed, map_trim_pieces_intercalate rfl (by decide) (by decide) hne
    (fun p hp => (h p hp).no_comma) fun p hp => (h p hp).past_eq, htrim]

/-- A text that can stand between two blanks: not empty, without blanks outside literals, and such that
behind it a scan could start. -/
structure IsWord (t : Text) : Prop where
  ne_nil : t ≠ []
  no_blank : ∀ c ∈ t.skeleton, isBlank c = false
  past_eq : Scan.start.past t = .start

theorem cutsInto_of_isWord (hne : ps ≠ []) (h : ∀ p ∈ ps, p.IsWord) :
    CutsInto isBlank ([' '].intercalate ps) ps := by
  apply CutsInto.join (by decide) (by decide) hne
  · intro p hp
    exact (h p hp).no_blank
  · intro p hp
    exact (h p (List.mem_of_mem_dropLast hp)).past_eq

/-- A text is cut into its words. -/
theorem words_intercalate (hne : ps ≠ []) (h : ∀ p ∈ ps, p.IsWord) :
    words ([' '].intercalate ps) = .ok ps := by
  have hpast : Scan.start.past ([' '].intercalate ps) = .start :=
    past_intercalate (by decide) fun p hp => (h p hp).past_eq
  have hclosed : closed ([' '].intercalate ps) = true := (past_eq_start_iff.1 hpast).1
  rw [words_of_closed hclosed, (cutsInto_of_isWord hne h).pieces_eq]
  refine congrArg _ (List.filter_eq_self.2 fun p hp => ?_)
  simpa using (h p hp).ne_nil

theorem isItem_quote (t : Text) : t.quote.IsItem where
  trim_eq := trim_quote t
  no_comma := by
    rw [skeleton_quote]
    exact List.not_mem_nil
  past_eq := past_quote t

/-- A closed text without commas outside literals can stand in a list once it is trimmed. -/
theorem NoBareEscape.isItem_trim (h : t.NoBareEscape) (hclosed : t.closed = true)
    (hcomma : ',' ∉ t.skeleton) : t.trim.IsItem where
  trim_eq := trim_trim t
  no_comma := fun hmem => hcomma (skeleton_trim_subset t hmem)
  past_eq := h.trim.past_eq_start ((closed_trim t).trans hclosed)

/-! ## Arguments -/

/-- A text that is one argument in every form of a call: its ends are not blank, it has no parentheses,
outside literals it has no commas and no blanks, and behind it a scan could start. -/
@[mk_iff]
structure IsArgument (t : Text) : Prop where
  solid : t.Solid
  no_open : '(' ∉ t
  no_close : ')' ∉ t
  no_comma : ',' ∉ t.skeleton
  no_blank : ∀ c ∈ t.skeleton, isBlank c = false
  past_eq : Scan.start.past t = .start

instance : DecidablePred IsArgument := fun t =>
  decidable_of_iff (t.Solid ∧ '(' ∉ t ∧ ')' ∉ t ∧ ',' ∉ t.skeleton ∧
    t.skeleton.all (fun c => !isBlank c) = true ∧ Scan.start.past t = .start)
    (by simp [isArgument_iff])

theorem IsArgument.isItem (h : t.IsArgument) : t.IsItem := ⟨h.solid.trim_eq, h.no_comma, h.past_eq⟩

theorem IsArgument.isWord (h : t.IsArgument) : t.IsWord := ⟨h.solid.ne_nil, h.no_blank, h.past_eq⟩

theorem isArgument_of_isIdentifier (h : t.isIdentifier = true) : t.IsArgument := by
  have hmem {c : Char} (hc : c ∈ t) : isIdentifierRest c = true := isIdentifierRest_of_mem h hc
  refine ⟨solid_of_isIdentifier h, ?_, ?_, ?_, ?_, Scan.past_start_inert (inert_of_isIdentifier h)⟩
  · exact fun hc => absurd (hmem hc) (by decide)
  · exact fun hc => absurd (hmem hc) (by decide)
  · exact fun hc => absurd (hmem (mem_of_mem_skeleton hc)) (by decide)
  · exact fun c hc => not_isBlank_of_mem h (mem_of_mem_skeleton hc)

end Text

namespace Value

variable {known : Text → Bool} {u f a : Text} {args ts : List Text}

/-- What can stand in a list can do so as an argument in host syntax. -/
theorem isItem_renderArgument (h : a.IsItem) : (renderArgument known a).IsItem := by
  unfold renderArgument
  dsimp only
  split
  · rwa [h.trim_eq]
  · exact isItem_quote a.trim

/-! ## Tokens -/

/-- The tokens of a trimmed value: its pieces between commas if it has a comma outside literals, and
its words otherwise. -/
def tokens (v : Text) : Except Fault (List Text) :=
  if ',' ∈ v.skeleton then v.commaPieces else v.words

/-- The tokens of a value without backslashes outside literals can stand in a list as they are. -/
theorem isItem_of_mem_tokens (hescape : u.NoBareEscape) (h : tokens u = .ok ts) :
    ∀ t ∈ ts, t.IsItem := by
  intro t ht
  unfold tokens at h
  split at h
  · obtain ⟨ps, hcut, rfl⟩ := map_eq_ok_iff.1 h
    obtain ⟨hclosed, rfl⟩ := cut_eq_ok_iff.1 hcut
    obtain ⟨p, hp, rfl⟩ := List.mem_map.1 ht
    have hcuts := cutsInto_pieces (· == ',') u
    have hcomma : ',' ∉ p.skeleton := fun hmem =>
      absurd (hcuts.forall_mem_skeleton_of_mem hp ',' hmem) (by decide)
    exact (hescape.of_cutsInto hcuts hp).isItem_trim (hcuts.closed_iff.1 hclosed p hp) hcomma
  · next hcomma =>
    obtain ⟨ps, hcut, rfl⟩ := map_eq_ok_iff.1 h
    obtain ⟨hclosed, rfl⟩ := cut_eq_ok_iff.1 hcut
    obtain ⟨hp, hne⟩ := List.mem_filter.1 ht
    have hcuts := cutsInto_pieces isBlank u
    have hbare : t.NoBareEscape := hescape.of_cutsInto hcuts hp
    have hpiece : t.closed = true := hcuts.closed_iff.1 hclosed t hp
    -- A word has no blanks around it, so trimming does not change it.
    have hsolid : t.Solid := hbare.solid hpiece (by simpa using hne)
      (hcuts.forall_mem_skeleton_of_mem hp)
    have hitem := hbare.isItem_trim hpiece fun hmem => hcomma (hcuts.skeleton_subset hp hmem)
    rwa [hsolid.trim_eq] at hitem

theorem ofTokens_eq_call_iff : ofTokens ts = .ok (.call f args) ↔
    ∃ t, ts = t :: args ∧ t.trim = f ∧ f ≠ [] := by
  constructor
  · intro h
    cases ts with
    | nil => cases h
    | cons t r =>
      obtain ⟨hne, hcall⟩ := ofTokens_cons_eq_ok_iff.1 h
      cases hcall
      exact ⟨t, rfl, rfl, hne⟩
  · rintro ⟨t, rfl, rfl, hne⟩
    exact ofTokens_cons_eq_ok_iff.2 ⟨hne, rfl⟩

/-- Words make a call if there are two at least and the second is no operator. -/
theorem ofWords_eq_call_iff : ofWords u ts = .ok (.call f args) ↔
    ∃ t a as, ts = t :: a :: as ∧ t.trim = f ∧ f ≠ [] ∧ args = a :: as ∧ a ∉ operators := by
  constructor
  · intro h
    match ts with
    | [] => cases h
    | [_] => cases h
    | t :: a :: as =>
      rw [ofWords] at h
      split at h
      · cases h
      · next ha =>
        obtain ⟨_, hts, hf, hne⟩ := ofTokens_eq_call_iff.1 h
        cases hts
        exact ⟨t, a, as, rfl, hf, hne, rfl, by simpa using ha⟩
  · rintro ⟨t, a, as, rfl, hf, hne, rfl, ha⟩
    rw [ofWords, if_neg (by simpa using ha)]
    exact ofTokens_eq_call_iff.2 ⟨t, rfl, hf, hne⟩

/-- **When a value is a call.**  A trimmed value is a call if it is cut into something to call and at
least one argument; where it is cut at blanks, the first argument must not be an operator. -/
theorem ofTrimmed_eq_call_iff : ofTrimmed u = .ok (.call f args) ↔
    isCut u = true ∧ ∃ t a as, tokens u = .ok (t :: a :: as) ∧ t.trim = f ∧ f ≠ [] ∧
      args = a :: as ∧ (',' ∈ u.skeleton ∨ a ∉ operators) := by
  by_cases hcut : isCut u = true
  · rw [ofTrimmed_eq_of_isCut hcut, tokens, and_iff_right hcut]
    by_cases hcomma : ',' ∈ u.skeleton
    · rw [if_pos hcomma, if_pos hcomma, bind_eq_ok_iff]
      constructor
      · rintro ⟨ts, hts, hcall⟩
        obtain ⟨t, rfl, hf, hne⟩ := ofTokens_eq_call_iff.1 hcall
        have hcount : 1 + 1 ≤ args.length + 1 := two_le_length_of_commaPieces hcomma hts
        obtain ⟨a, as, rfl⟩ := List.exists_cons_of_length_pos (Nat.le_of_succ_le_succ hcount)
        exact ⟨t, a, as, hts, hf, hne, rfl, .inl hcomma⟩
      · rintro ⟨t, a, as, hts, hf, hne, rfl, -⟩
        exact ⟨_, hts, ofTokens_eq_call_iff.2 ⟨t, rfl, hf, hne⟩⟩
    · rw [if_neg hcomma, if_neg hcomma, bind_eq_ok_iff]
      constructor
      · rintro ⟨ts, hts, hcall⟩
        obtain ⟨t, a, as, rfl, hf, hne, hargs, ha⟩ := ofWords_eq_call_iff.1 hcall
        exact ⟨t, a, as, hts, hf, hne, hargs, .inr ha⟩
      · rintro ⟨t, a, as, hts, hf, hne, hargs, ha⟩
        have hoperator := ha.resolve_left hcomma
        exact ⟨_, hts, ofWords_eq_call_iff.2 ⟨t, a, as, rfl, hf, hne, hargs, hoperator⟩⟩
  · constructor
    · intro h
      obtain ⟨t, ht | ht⟩ := ofTrimmed_of_not_isCut (Bool.not_eq_true _ ▸ hcut)
      all_goals
        rw [h] at ht
        cases ht
    · exact fun h => absurd h.1 hcut

/-! ## Two forms of a call -/

/-- What begins with an identifier and has no parenthesis is no whole. -/
theorem not_isWhole_of_isPrefix (hf : f.isIdentifier = true) (hu : f <+: u) (hopen : '(' ∉ u) :
    ¬ IsWhole u := by
  obtain ⟨c, r, rfl, hc⟩ := exists_cons_of_isIdentifier hf
  obtain ⟨t, rfl⟩ := hu
  rintro (hnil | hquoted | ⟨hparen, -⟩ | hcollection)
  · cases hnil
  · obtain ⟨-, hnone⟩ := Scan.not_reacts_iff.1 (inert_of_isIdentifier hf c List.mem_cons_self)
    obtain ⟨hsome, -⟩ := Bool.and_eq_true_iff.1 hquoted
    rw [hnone] at hsome
    cases hsome
  · exact hopen hparen
  · rcases Bool.or_eq_true_iff.1 hcollection with h | h
    all_goals
      obtain ⟨hhead, -⟩ := Bool.and_eq_true_iff.1 h
      obtain rfl := Option.some.inj (beq_iff_eq.1 hhead)
      exact absurd hc (by decide)

/-- The first separator of joined texts stands behind the first of them. -/
theorem exists_intercalate_cons_cons (c : Char) (w f a : Text) (ts : List Text) :
    ∃ r : Text, (c :: w).intercalate (f :: a :: ts) = f ++ c :: r :=
  ⟨w ++ (c :: w).intercalate (a :: ts), by
    rw [List.intercalate_cons_cons, List.append_assoc, List.cons_append]⟩

section Forms

variable {d : Char} {w : Text} {as : List Text} (hf : f.isIdentifier = true)
  (hargs : ∀ p ∈ a :: as, p.IsArgument)

include hf hargs

theorem forall_isArgument : ∀ p ∈ f :: a :: as, p.IsArgument :=
  List.forall_mem_cons.2 ⟨isArgument_of_isIdentifier hf, hargs⟩

theorem trim_intercalate : Text.trim (w.intercalate (f :: a :: as)) = w.intercalate (f :: a :: as) :=
  (solid_intercalate (List.cons_ne_nil _ _) fun p hp => (forall_isArgument hf hargs p hp).solid).trim_eq

omit hargs in
/-- With commas between them, the first comma is outside literals. -/
theorem comma_mem_skeleton : ',' ∈ Text.skeleton ((',' :: w).intercalate (f :: a :: as)) := by
  obtain ⟨r, hr⟩ := exists_intercalate_cons_cons ',' w f a as
  rw [hr]
  refine mem_skeleton_of_structural (Scan.structural_iff.2 ⟨?_, rfl⟩) r
  exact (isArgument_of_isIdentifier hf).past_eq

/-- With commas or blanks between them, callee and arguments are cut again. -/
theorem isCut_intercalate (hd : d = ',' ∨ isBlank d = true) (hw : '(' ∉ d :: w) :
    isCut ((d :: w).intercalate (f :: a :: as)) = true := by
  obtain ⟨r, hr⟩ := exists_intercalate_cons_cons d w f a as
  refine isCut_iff.2 ⟨not_isWhole_of_isPrefix hf ⟨d :: r, hr.symm⟩ ?_, ?_⟩
  · intro hopen
    rcases mem_of_mem_intercalate hopen with hopen | ⟨p, hp, hopen⟩
    · exact hw hopen
    · exact (forall_isArgument hf hargs p hp).no_open hopen
  · rcases hd with rfl | hblank
    · exact .inl (comma_mem_skeleton hf)
    · exact .inr ⟨d, hr ▸ List.mem_append_right f List.mem_cons_self, hblank⟩

/-- Callee and arguments are read as a call if they are the tokens of what they are joined to. -/
theorem ofText_of_tokens (hd : d = ',' ∨ isBlank d = true) (hw : '(' ∉ d :: w)
    (htokens : tokens ((d :: w).intercalate (f :: a :: as)) = .ok (f :: a :: as))
    (ha : ',' ∈ Text.skeleton ((d :: w).intercalate (f :: a :: as)) ∨ a ∉ operators) :
    ofText ((d :: w).intercalate (f :: a :: as)) = .ok (.call f (a :: as)) := by
  have hcut := isCut_intercalate hf hargs hd hw
  have htrim : f.trim = f := (solid_of_isIdentifier hf).trim_eq
  rw [ofText, trim_intercalate hf hargs]
  exact ofTrimmed_eq_call_iff.2
    ⟨hcut, f, a, as, htokens, htrim, ne_nil_of_isIdentifier hf, rfl, ha⟩

/-- A call is read from its callee and its arguments with commas between them. -/
theorem ofText_commas : ofText ([',', ' '].intercalate (f :: a :: as)) = .ok (.call f (a :: as)) := by
  have hcomma : ',' ∈ Text.skeleton ([',', ' '].intercalate (f :: a :: as)) := comma_mem_skeleton hf
  have htokens : tokens ([',', ' '].intercalate (f :: a :: as)) = .ok (f :: a :: as) := by
    rw [tokens, if_pos hcomma]
    apply commaPieces_intercalate (List.cons_ne_nil _ _)
    intro p hp
    exact (forall_isArgument hf hargs p hp).isItem
  exact ofText_of_tokens hf hargs (.inl rfl) (by decide) htokens (.inl hcomma)

/-- A call is read from its callee and its arguments with blanks between them. -/
theorem ofText_blanks (ha : a ∉ operators) :
    ofText ([' '].intercalate (f :: a :: as)) = .ok (.call f (a :: as)) := by
  have hne : f :: a :: as ≠ [] := List.cons_ne_nil _ _
  have hwords : ∀ p ∈ f :: a :: as, p.IsWord :=
    fun p hp => (forall_isArgument hf hargs p hp).isWord
  have hcomma : ',' ∉ Text.skeleton ([' '].intercalate (f :: a :: as)) := by
    intro hmem
    rcases (cutsInto_of_isWord hne hwords).mem_skeleton hmem with hblank | ⟨p, hp, hmem⟩
    · exact absurd hblank (by decide)
    · exact (forall_isArgument hf hargs p hp).no_comma hmem
  have htokens : tokens ([' '].intercalate (f :: a :: as)) = .ok (f :: a :: as) := by
    rw [tokens, if_neg hcomma]
    exact words_intercalate hne hwords
  exact ofText_of_tokens hf hargs (.inr (by decide)) (by decide) htokens (.inr ha)

end Forms

end Value

namespace Scope

variable {v f a : Text} {args as : List Text}

/-- **A call can be written with commas or with blanks.**  An identifier and at least one argument, joined
with commas or with blanks, are reduced to the same call of the identifier, with every argument as it is
rendered on its own.  With blanks the first argument must not be an operator. -/
theorem reduce_call_forms (s : Scope) (keywords : Names) (hf : f.isIdentifier = true)
    (hargs : ∀ p ∈ a :: as, p.IsArgument) :
    let code := f ++ '(' ::
      [',', ' '].intercalate ((a :: as).map (Value.renderArgument (s.knows keywords))) ++ [')']
    s.reduce keywords ([',', ' '].intercalate (f :: a :: as)) = .ok code ∧
      (a ∉ Value.operators → s.reduce keywords ([' '].intercalate (f :: a :: as)) = .ok code) := by
  intro code
  constructor
  · exact reduce_eq_ok_iff.2 ⟨_, Value.ofText_commas hf hargs, rfl⟩
  · intro ha
    exact reduce_eq_ok_iff.2 ⟨_, Value.ofText_blanks hf hargs ha, rfl⟩

/-- Arguments with a comma and blanks in a literal, with an escaped quote, and with a name that is bound. -/
theorem reduce_call_forms_say :
    let s : Scope := { empty with names := .ofList ["x".toList] }
    let args : List Text := ["\"a, b\"".toList, "it\\'s".toList, "x".toList]
    let code : Text := "say(\"a, b\", \"it\\\\'s\", x)".toList
    Text.isIdentifier "say".toList = true ∧ (∀ p ∈ args, p.IsArgument) ∧
      "\"a, b\"".toList ∉ Value.operators ∧
      s.reduce ∅ "say, \"a, b\", it\\'s, x".toList = .ok code ∧
      s.reduce ∅ "say \"a, b\" it\\'s x".toList = .ok code := by
  intro s args code
  have hf : Text.isIdentifier "say".toList = true := by decide
  have hargs : ∀ p ∈ args, p.IsArgument := by decide
  have ha : "\"a, b\"".toList ∉ Value.operators := by decide
  obtain ⟨hcommas, hblanks⟩ := reduce_call_forms s ∅ hf hargs
  exact ⟨hf, hargs, ha, hcommas, hblanks ha⟩

/-- **Calls keep their arguments.**  A value without backslashes outside literals that is read as a call
is cut into the callee and the arguments.  The code of the call is the callee and, in parentheses, a text
that is cut at its commas into the code of the arguments, one piece for each of them and none with a
literal that is left open. -/
theorem reduce_call_keeps_arguments (s : Scope) (keywords : Names) (hescape : v.NoBareEscape)
    (h : Value.ofText v = .ok (.call f args)) :
    Value.tokens v.trim = .ok (f :: args) ∧ args ≠ [] ∧
      ∃ code : Text, s.reduce keywords v = .ok (f ++ '(' :: code ++ [')']) ∧
        code.commaPieces = .ok (args.map (Value.renderArgument (s.knows keywords))) ∧
        ∀ a ∈ args, (Value.renderArgument (s.knows keywords) a).closed = true := by
  obtain ⟨-, t, a, as, htokens, hcallee, -, rfl, -⟩ := Value.ofTrimmed_eq_call_iff.1 h
  have hne : a :: as ≠ [] := List.cons_ne_nil a as
  have hitems := Value.isItem_of_mem_tokens hescape.trim htokens
  obtain ⟨ht, hargs⟩ := List.forall_mem_cons.1 hitems
  obtain rfl : t = f := ht.trim_eq.symm.trans hcallee
  have hcode : ∀ b ∈ a :: as, (Value.renderArgument (s.knows keywords) b).IsItem :=
    fun b hb => Value.isItem_renderArgument (hargs b hb)
  refine ⟨htokens, hne, _, reduce_eq_ok_iff.2 ⟨_, h, rfl⟩, ?_, ?_⟩
  · exact commaPieces_intercalate (mt List.map_eq_nil_iff.1 hne) (List.forall_mem_map.2 hcode)
  · intro b hb
    exact (past_eq_start_iff.1 (hcode b hb).past_eq).1

/-- An argument in quotes with escaped quotes and a comma, one that is quoted around a literal with a
comma, and an empty one. -/
theorem reduce_call_keeps_arguments_log :
    let v : Text := "log, \"say \\\"hi, you\\\"\", red', 'green,".toList
    let args : List Text := ["\"say \\\"hi, you\\\"\"".toList, "red', 'green".toList, []]
    let code : List Text :=
      ["\"say \\\"hi, you\\\"\"".toList, "\"red', 'green\"".toList, "\"\"".toList]
    v.NoBareEscape ∧ Value.ofText v = .ok (.call "log".toList args) ∧
      Value.tokens v.trim = .ok ("log".toList :: args) ∧ args ≠ [] ∧
      ∃ t : Text, empty.reduce ∅ v = .ok ("log".toList ++ '(' :: t ++ [')']) ∧
        t.commaPieces = .ok code ∧
        ∀ a ∈ args, (Value.renderArgument (empty.knows ∅) a).closed = true := by
  intro v args code
  have hescape : v.NoBareEscape := by decide
  have hcall : Value.ofText v = .ok (.call "log".toList args) := by decide
  exact ⟨hescape, hcall, reduce_call_keeps_arguments empty ∅ hescape hcall⟩

end Scope

end KScript
