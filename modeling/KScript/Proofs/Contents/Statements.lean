import KScript.Session
import KScript.Proofs.Contents.Headers
import KScript.Proofs.Contents.Values
import KScript.Proofs.Statement.Assignment
import KScript.Proofs.Statement.Declaring

/-!
# What the literals of a statement say

Two statements that differ in what their literals say both fail or both succeed, have the same effect
on the scope, and have code that differs in what its literals say.
-/

namespace KScript

open Text

variable {free : Char → Bool} {t t' : Text}

/-! ## Assignments -/

namespace Assignment

/-- Texts that are alike have their signs at the same places. -/
theorem sign_eq {s : Scan} {before before' : Text} (c : Char) (h : (s.step c).Alike free t t')
    (hbefore : s = .start → before.head? = before'.head?) :
    (s.structural c && c == '=' && isSign before.head? t.head?) =
      (s.structural c && c == '=' && isSign before'.head? t'.head?) := by
  cases hs : s.structural c with
  | false => rfl
  | true =>
    rw [Scan.step_of_structural hs] at h
    have hnext : t.head? = t'.head? := by
      cases h with
      | nil | keep => rfl
      | vary hc => cases hc
    rw [hbefore (Scan.structural_iff.1 hs).1, hnext]

/-- Texts that are alike are split at the same sign. -/
theorem around?_alike {s : Scan} {before before' l r : Text} (h : s.Alike free t t')
    (hbefore : s = .start → before.head? = before'.head?)
    (ha : around? before (s.marks t) = some (l, r)) :
    ∃ k k' r', l = before.reverse ++ k ∧
      around? before' (s.marks t') = some (before'.reverse ++ k', r') ∧
        s.Alike free k k' ∧ Scan.start.Alike free r r' := by
  induction h generalizing before before' with
  | nil => cases ha
  | @keep s u u' c h ih =>
    rw [around?_marks_cons, sign_eq c h hbefore] at ha
    rw [around?_marks_cons]
    split at ha
    · next hsign =>
      cases ha
      obtain ⟨⟨hs, -⟩, -⟩ : (s.structural c = true ∧ _) ∧ _ := by simpa using hsign
      rw [Scan.step_of_structural hs] at h
      exact ⟨[], [], u', by simp, by simp [hsign], .nil, h⟩
    · next hsign =>
      have hhead : s.step c = .start → (c :: before).head? = (c :: before').head? := fun _ => rfl
      obtain ⟨k, k', r', rfl, ha', hk, hr⟩ := ih hhead ha
      refine ⟨c :: k, c :: k', r', by simp, ?_, .keep c hk, hr⟩
      rw [if_neg hsign, ha']
      simp
  | @vary s c c' u u' hc hf hc' hf' h ih =>
    -- The scan is inside a literal, so the characters in front of it need not be the same.
    have hhead : s = .start → (c :: before).head? = (c' :: before').head? := by
      rintro rfl
      cases hc
    rw [around?_marks_cons, Scan.not_structural_of_ordinary hc, Scan.step_of_ordinary hc] at ha
    rw [around?_marks_cons, Scan.not_structural_of_ordinary hc', Scan.step_of_ordinary hc']
    obtain ⟨k, k', r', rfl, ha', hk, hr⟩ := ih hhead ha
    refine ⟨c :: k, c' :: k', r', by simp, ?_, .vary hc hf hc' hf' hk, hr⟩
    rw [Bool.false_and, Bool.false_and, if_neg Bool.false_ne_true, ha']
    simp

theorem not_reacts_of_isOperator {c : Char} (h : isOperator c = true) : Scan.reacts c = false := by
  have hall : Inert operators := by decide
  exact hall c (mem_operators h)

/-- Assignments with the same operator whose sides are alike. -/
structure Alike (free : Char → Bool) (a a' : Assignment) : Prop where
  operator_eq : a.operator = a'.operator
  target : Text.Alike free a.target a'.target
  value : Text.Alike free a.value a'.value

theorem alike_ofSides {l l' r r' : Text} (hl : Text.Alike free l l') (hr : Text.Alike free r r') :
    Alike free (ofSides l r) (ofSides l' r') := by
  unfold ofSides
  rw [hl.getLast?_eq]
  split
  · next c hc =>
    split
    · next hop =>
      obtain ⟨k, rfl⟩ := List.getLast?_eq_some_iff.1 (hl.getLast?_eq.trans hc)
      obtain ⟨k', rfl, hk⟩ := hl.concat_inv (not_reacts_of_isOperator hop)
      rw [List.dropLast_concat, List.dropLast_concat]
      exact ⟨rfl, hk.trim, hr.trim⟩
    · exact ⟨rfl, hl.trim, hr.trim⟩
  · exact ⟨rfl, .refl rfl, hr.trim⟩

/-- What is alike an assignment is an assignment with sides that are alike. -/
theorem exists_alike {a : Assignment} (h : Text.Alike free t t') (ha : ofText? t = some a) :
    ∃ a', ofText? t' = some a' ∧ Alike free a a' := by
  obtain ⟨⟨l, r⟩, hs, rfl⟩ := Option.map_eq_some_iff.1 ha
  obtain ⟨k, hk, ht, hpast⟩ := around?_eq_some hs
  have hhead : Scan.start = .start → ([] : Text).head? = ([] : Text).head? := fun _ => rfl
  obtain ⟨l₂, l', r', hl₂, hs', hl, hr⟩ := around?_alike h.scan hhead hs
  obtain rfl : l = k := hk
  obtain rfl : l = l₂ := hl₂
  have hlclosed : l.closed = true := by
    rw [closed, hpast]
    rfl
  have hrclosed : r.closed = true := by
    have hsign : Scan.start.step '=' = .start := by decide
    have hclosed := h.closed
    rwa [ht, closed, Scan.past_append, hpast, Scan.past_cons, hsign] at hclosed
  refine ⟨ofSides l' r', ?_, alike_ofSides ⟨hl, hlclosed⟩ ⟨hr, hrclosed⟩⟩
  rw [ofText?, marks, hs']
  rfl

end Assignment

/-! ## Forms -/

namespace Statement

theorem isOpener_eq (h : Text.Alike free t t') : isOpener t = isOpener t' := by
  rw [isOpener, isOpener, h.getLast?_eq]

theorem inert_of_closer (h : t ∈ blockClosers ++ controlClosers) : t.Inert := by
  have hall : ∀ u ∈ blockClosers ++ controlClosers, u.Inert := by decide
  exact hall t h

theorem isBlockCloser_eq (h : Text.Alike free t t') : isBlockCloser t = isBlockCloser t' :=
  h.congr_inert fun _ hn => inert_of_closer (List.mem_append_left _ (List.contains_iff_mem.1 hn))

theorem isControlCloser_eq (h : Text.Alike free t t') : isControlCloser t = isControlCloser t' :=
  h.congr_inert fun _ hn => inert_of_closer (List.mem_append_right _ (List.contains_iff_mem.1 hn))

theorem isHeader_eq (h : Text.Alike free t t') : isHeader t = isHeader t' := by
  have imp {u u' : Text} (h : Text.Alike free u u') (hu : isHeader u = true) :
      isHeader u' = true := by
    obtain ⟨c, hc⟩ := Option.isSome_iff_exists.1 hu
    obtain ⟨c', hc', -⟩ := (Control.reads_of_ofText? hc).alike h
    rw [isHeader, hc'.ofText?_eq]
    rfl
  rw [Bool.eq_iff_iff]
  exact ⟨imp h, imp h.symm⟩

theorem isSimple_eq (h : Text.Alike free t t') : isSimple t = isSimple t' := by
  rw [isSimple, isSimple, isOpener_eq h, isBlockCloser_eq h, isControlCloser_eq h, isHeader_eq h]

/-! ## Targets -/

variable {s : Scope} {keywords : Names}

/-- Targets that are alike are the same identifier, or none of them is an identifier. -/
theorem target_cases (h : Text.Alike free t t') :
    t' = t ∨ t.isIdentifier = false ∧ t'.isIdentifier = false := by
  cases hi : t.isIdentifier with
  | true => exact .inl (h.eq_of_inert (inert_of_isIdentifier hi))
  | false => exact .inr ⟨rfl, (h.congr_inert fun _ => inert_of_isIdentifier).symm.trans hi⟩

theorem filter_isIdentifier_eq (h : Text.Alike free t t') :
    [t].filter Text.isIdentifier = [t'].filter Text.isIdentifier := by
  obtain rfl | ⟨hi, hi'⟩ := target_cases h
  · rfl
  · simp [hi, hi']

theorem declarator_eq (h : Text.Alike free t t') : declarator s t = declarator s t' := by
  obtain rfl | ⟨hi, hi'⟩ := target_cases h
  · rfl
  · rw [declarator_of_not_isIdentifier hi, declarator_of_not_isIdentifier hi']

theorem inert_declarator (s : Scope) (t : Text) : Inert (declarator s t) := by
  rcases declarator_cases s t with h | ⟨h, -⟩ | ⟨h, -⟩ <;> rw [h] <;> decide

/-! ## Statements -/

/-- Statements with the same effect on a scope and with code that is alike. -/
structure Alike (keywords : Names) (s : Scope) (st st' : Statement) : Prop where
  after_eq : st.after s = st'.after s
  code : Text.Alike (fun _ => true) (st.render keywords s) (st'.render keywords s)

theorem alike_assign {target target' : Text} {value value' : Value}
    (ht : Text.Alike free target target')
    (hv : Text.Alike free (value.render (s.knows keywords)) (value'.render (s.knows keywords))) :
    Alike keywords s (.assign target value) (.assign target' value') where
  after_eq := congrArg s.bindAll (filter_isIdentifier_eq ht)
  code := by
    have hend := hv.append_cons (c := ';') (by decide) (.refl (t := []) rfl)
    have hrest := ht.append_word (w := " = ".toList) (by decide) (by decide) hend
    rw [render_assign, render_assign, assignHead, assignHead, ← declarator_eq ht, List.append_assoc,
      List.append_assoc, List.append_assoc, List.append_assoc]
    exact (Alike.word_append (inert_declarator s target) hrest).mono fun _ _ => rfl

theorem alike_update {target target' : Text} {op : Char} {value value' : Value}
    (ht : Text.Alike free target target') (hop : Assignment.isOperator op = true)
    (hv : Text.Alike free (value.render (s.knows keywords)) (value'.render (s.knows keywords))) :
    Alike keywords s (.update target op value) (.update target' op value') where
  after_eq := rfl
  code := by
    have hend := hv.append_cons (c := ';') (by decide) (.refl (t := []) rfl)
    have hsign : Inert "= ".toList := by decide
    have hw : Inert (' ' :: op :: "= ".toList) :=
      List.forall_mem_cons.2 ⟨by decide, List.forall_mem_cons.2
        ⟨Assignment.not_reacts_of_isOperator hop, hsign⟩⟩
    have hrest := ht.append_word hw (List.cons_ne_nil _ _) hend
    rw [render_update, render_update, List.append_assoc, List.append_assoc]
    exact hrest.mono fun _ _ => rfl

/-- Characters that no literal of a value is searched for. -/
def mayVary (c : Char) : Bool := !Value.seeks c

theorem not_mayVary (c : Char) (h : Value.seeks c = true) : mayVary c = false := by
  rw [mayVary, h]
  rfl

variable (hknown : ∀ n, s.knows keywords n = true → n.Inert)

include hknown

theorem matches_ofAssignment {a a' : Assignment} (h : Assignment.Alike mayVary a a')
    (hop : ∀ op, a.operator = some op → Assignment.isOperator op = true) :
    Matches (Alike keywords s) (ofAssignment a) (ofAssignment a') := by
  unfold ofAssignment
  rw [h.target.isEmpty_eq, ← h.operator_eq]
  split
  · exact .error rfl
  · refine (Value.matches_ofText not_mayVary h.value).map fun value value' hv => ?_
    have hcode := hv.render not_mayVary hknown
    cases ho : a.operator with
    | none => exact alike_assign h.target hcode
    | some op => exact alike_update h.target (hop op ho) hcode

/-- What the literals of a statement say does not matter to its effect, nor to its code beyond
them. -/
theorem matches_ofTrimmed (h : Text.Alike (fun _ => true) t t')
    (hsimple : isSimple t = true → Text.Alike mayVary t t')
    (hopener : isOpener t = true → hides ',' .start t = false ∧ hides ',' .start t' = false) :
    Matches (Alike keywords s) (ofTrimmed t) (ofTrimmed t') := by
  have hbrace : Text.closed ['\x7d'] = true := by decide
  have hr := reads_ofTrimmed t
  generalize ofTrimmed t = o at hr
  cases hr with
  | opener header ht =>
    obtain ⟨hh, hh'⟩ := hopener (isOpener_iff.2 ⟨header, ht⟩)
    have hcomma : Text.Alike (· != ',') t t' := ⟨alike_of_not_hides h.scan hh hh', h.closed⟩
    subst ht
    obtain ⟨header', rfl, hheader⟩ := hcomma.concat_inv (by decide)
    rw [hides_append, Bool.or_eq_false_iff] at hh
    have halike := Opener.alike_ofHeader (by decide) hheader.trim (not_hides_trim hh.1)
    rw [(Reads.opener header' rfl).ofTrimmed_eq]
    exact .ok ⟨by rw [after, after, halike.binds_eq], halike.code.mono fun _ _ => rfl⟩
  | blockEnd ho hb =>
    rw [h.eq_of_inert (inert_of_closer (List.mem_append_left _ (List.contains_iff_mem.1 hb))),
      (Reads.blockEnd ho hb).ofTrimmed_eq]
    exact .ok ⟨rfl, .refl hbrace⟩
  | controlEnd ho hb hc =>
    rw [h.eq_of_inert (inert_of_closer (List.mem_append_right _ (List.contains_iff_mem.1 hc))),
      (Reads.controlEnd ho hb hc).ofTrimmed_eq]
    exact .ok ⟨rfl, .refl hbrace⟩
  | control c ho hb hc =>
    obtain ⟨c', hc', hcode⟩ := hc.alike h
    have ho' : isOpener t' = false := (isOpener_eq h).symm.trans ho
    rw [(Reads.control c' ho' (not_isBlockCloser_of_reads hc') hc').ofTrimmed_eq]
    exact .ok ⟨rfl, hcode⟩
  | assignment a hs ha =>
    obtain ⟨a', ha', halike⟩ := Assignment.exists_alike (hsimple hs) ha
    rw [(Reads.assignment a' ((isSimple_eq h).symm.trans hs) ha').ofTrimmed_eq]
    exact matches_ofAssignment hknown halike fun op => Assignment.operator_mem ha
  | expression hs ha =>
    have ha' : Assignment.ofText? t' = none := by
      by_contra hn
      obtain ⟨a', ha'⟩ := Option.ne_none_iff_exists'.1 hn
      obtain ⟨a, ha'', -⟩ := Assignment.exists_alike h.symm ha'
      rw [ha] at ha''
      cases ha''
    rw [(Reads.expression ((isSimple_eq h).symm.trans hs) ha').ofTrimmed_eq]
    refine (Value.matches_ofText not_mayVary (hsimple hs)).map fun value value' hv => ⟨rfl, ?_⟩
    have hcode := hv.render not_mayVary hknown
    exact (hcode.append_cons (c := ';') (by decide) (.refl (t := []) rfl)).mono fun _ _ => rfl

end Statement

/-! ## Sessions -/

/-- A session transforms statements that are alike with the same effect, and to code that is alike. -/
theorem Session.transform_alike (s : Session)
    (hknown : ∀ n, s.scope.knows s.keywords n = true → n.Inert)
    (h : Text.Alike (fun _ => true) t t')
    (hsimple : Statement.isSimple t.trim = true → Text.Alike Statement.mayVary t t')
    (hopener : Statement.isOpener t.trim = true →
      hides ',' .start t = false ∧ hides ',' .start t' = false) :
    (s.transform t).2 = (s.transform t').2 ∧
      ((∃ e e', (s.transform t).1 = .error e ∧ (s.transform t').1 = .error e' ∧ e.kind = e'.kind) ∨
        ∃ c c', (s.transform t).1 = .ok c ∧ (s.transform t').1 = .ok c' ∧
          Text.Alike (fun _ => true) c c') := by
  have hmatches := Statement.matches_ofTrimmed hknown h.trim (fun hs => (hsimple hs).trim)
    fun ho => (hopener ho).imp not_hides_trim not_hides_trim
  unfold transform Scope.transform Statement.ofText
  generalize Statement.ofTrimmed t.trim = o at hmatches ⊢
  generalize Statement.ofTrimmed t'.trim = o' at hmatches ⊢
  cases hmatches with
  | ok halike =>
    refine ⟨?_, .inr ⟨_, _, rfl, rfl, halike.code⟩⟩
    simp only [Except.map, located, halike.after_eq]
  | error hkind => exact ⟨rfl, .inl ⟨_, _, rfl, rfl, hkind⟩⟩

end KScript
