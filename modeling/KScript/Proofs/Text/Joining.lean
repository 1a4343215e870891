import KScript.Proofs.Text.Cut
import KScript.Proofs.Text.Lines

/-!
# Joined texts

Where two texts are joined, the last line of the first and the first line of the second become one
line, unless a break stands between them.  The break LF that is put between two texts completes a
CR at the end of the first, and is a break of its own otherwise.
-/

namespace KScript

namespace Text

variable {t u w x y : Text} {ks ls ms : List Text}

/-! ## Lines that are joined -/

theorem ofLines_append (hk : ks ≠ []) (hm : ms ≠ []) :
    ofLines (ks ++ ms) = ofLines ks ++ '\n' :: ofLines ms := by
  induction ks with
  | nil => exact absurd rfl hk
  | cons k ks ih =>
    cases ks with
    | nil =>
      obtain ⟨m, ms, rfl⟩ := List.exists_cons_of_ne_nil hm
      rw [List.singleton_append, ofLines_cons_cons, ofLines_singleton]
    | cons l ks =>
      rw [List.cons_append, List.cons_append, ofLines_cons_cons, ← List.cons_append,
        ih (List.cons_ne_nil l ks), ofLines_cons_cons, List.append_assoc, List.cons_append]

/-- Without a break between them, two lines become one. -/
theorem ofLines_concat_append_ofLines_cons (ks : List Text) (x y : Text) (ms : List Text) :
    ofLines (ks ++ [x]) ++ ofLines (y :: ms) = ofLines (ks ++ (x ++ y) :: ms) := by
  have hline : x ++ ofLines (y :: ms) = ofLines ((x ++ y) :: ms) := by
    cases ms with
    | nil => simp
    | cons m ms => simp [ofLines_cons_cons]
  cases ks with
  | nil => rw [List.nil_append, List.nil_append, ofLines_singleton, hline]
  | cons k ks =>
    rw [ofLines_append (List.cons_ne_nil k ks) (List.cons_ne_nil x []),
      ofLines_append (List.cons_ne_nil k ks) (List.cons_ne_nil (x ++ y) ms), ofLines_singleton,
      List.append_assoc, List.cons_append, hline]

/-- More lines behind a text only add to it. -/
theorem ofLines_isPrefix_append (ks ms : List Text) : ofLines ks <+: ofLines (ks ++ ms) := by
  cases ks with
  | nil => exact List.nil_prefix
  | cons k ks =>
    cases ms with
    | nil => rw [List.append_nil]
    | cons m ms =>
      rw [ofLines_append (List.cons_ne_nil k ks) (List.cons_ne_nil m ms)]
      exact List.prefix_append _ _

/-- A longer last line and more lines behind it only add to a text. -/
theorem ofLines_concat_isPrefix (ks : List Text) (x y : Text) (ms : List Text) :
    ofLines (ks ++ [x]) <+: ofLines (ks ++ (x ++ y) :: ms) := by
  rw [← ofLines_concat_append_ofLines_cons]
  exact List.prefix_append _ _

/-- What occurs in joined lines and holds no break occurs in one of them. -/
theorem exists_isInfix_of_isInfix_ofLines {p : Text} (hp : '\n' ∉ p) (hk : ks ≠ [])
    (h : p <:+: ofLines ks) : ∃ k ∈ ks, p <:+: k := by
  induction ks with
  | nil => exact absurd rfl hk
  | cons k ks ih =>
    cases ks with
    | nil => exact ⟨k, List.mem_cons_self, by rwa [ofLines_singleton] at h⟩
    | cons l ks =>
      rw [ofLines_cons_cons] at h
      rcases isInfix_of_isInfix_append_cons hp h with h | h
      · exact ⟨k, List.mem_cons_self, h⟩
      · obtain ⟨m, hm, h⟩ := ih (List.cons_ne_nil l ks) h
        exact ⟨m, List.mem_cons_of_mem k hm, h⟩

/-! ## Texts that are joined -/

theorem lines_ne_nil (t : Text) : t.lines ≠ [] := List.splitOnP_ne_nil _ t

theorem exists_lines_eq_concat (t : Text) : ∃ ks x, t.lines = ks ++ [x] :=
  ⟨_, _, (List.dropLast_append_getLast (lines_ne_nil t)).symm⟩

theorem exists_lines_eq_cons (t : Text) : ∃ x ks, t.lines = x :: ks :=
  List.exists_cons_of_ne_nil (lines_ne_nil t)

theorem lines_eq_singleton (h : '\n' ∉ t) : t.lines = [t] := List.splitOn_eq_singleton h

/-- A break between two texts separates their lines. -/
theorem lines_append_cons (t u : Text) : (t ++ '\n' :: u).lines = t.lines ++ u.lines :=
  List.splitOnP_append_cons t u rfl

/-- Without a break between them, the last line and the first line become one. -/
theorem lines_append (ht : t.lines = ks ++ [x]) (hu : u.lines = y :: ms) :
    (t ++ u).lines = ks ++ (x ++ y) :: ms := by
  have hmem {l : Text} (h : l ∈ t.lines ∨ l ∈ u.lines) : '\n' ∉ l :=
    h.elim not_mem_of_mem_lines not_mem_of_mem_lines
  rw [← ofLines_lines t, ← ofLines_lines u, ht, hu, ofLines_concat_append_ofLines_cons]
  refine lines_ofLines (by simp) fun l hl => ?_
  rcases List.mem_append.1 hl with hl | hl
  · exact hmem (.inl (ht ▸ List.mem_append_left [x] hl))
  · rcases List.mem_cons.1 hl with rfl | hl
    · have hx : '\n' ∉ x := hmem (.inl (ht ▸ List.mem_append_right ks List.mem_cons_self))
      have hy : '\n' ∉ y := hmem (.inr (hu ▸ List.mem_cons_self))
      rw [List.mem_append]
      exact fun h => h.elim hx hy
    · exact hmem (.inr (hu ▸ List.mem_cons_of_mem y hl))

/-- What is appended behind a break extends the last line of the trimmed text by blanks at most, and
adds lines behind it. -/
theorem exists_lines_trim_append_cons (ht : ¬ t.Blank) (u : Text) :
    ∃ ks x w ms, t.trim.lines = ks ++ [x] ∧ (trim (t ++ '\n' :: u)).lines = ks ++ (x ++ w) :: ms ∧
      w.Blank := by
  obtain ⟨ks, x, hx⟩ := exists_lines_eq_concat t.trim
  -- The blanks `e` at the end of `t` are trimmed only if nothing stands behind them.
  obtain ⟨e, he, hte⟩ := exists_trimEnd_append_blank t.trimStart
  have hstart : trim (t ++ '\n' :: u) = trimEnd (t.trim ++ e ++ '\n' :: u) := by
    rw [trim, trimStart_append ht, trim, ← hte]
  by_cases hu : u.Blank
  · have hrest : Blank (e ++ '\n' :: u) := List.forall_mem_append.2
      ⟨he, List.forall_mem_cons.2 ⟨isBlank_feed, hu⟩⟩
    refine ⟨ks, x, [], [], hx, ?_, List.forall_mem_nil _⟩
    rw [hstart, List.append_assoc, trimEnd_append_blank hrest, trimEnd_trim, hx, List.append_nil]
  · obtain ⟨w, ms, hw⟩ := exists_lines_eq_cons e
    have hwe : w <:+: e := infix_of_mem_lines (hw ▸ List.mem_cons_self)
    refine ⟨ks, x, w, ms ++ u.trimEnd.lines, hx, ?_, fun c hc => he c (hwe.subset hc)⟩
    rw [hstart, List.append_cons, trimEnd_append hu, ← List.append_cons, lines_append_cons,
      lines_append hx hw, List.append_assoc, List.cons_append]

/-! ## Line breaks where texts are joined -/

theorem unifyBreaks_cons_of_ne {c : Char} (hc : c ≠ '\r') (t : Text) :
    unifyBreaks (c :: t) = c :: unifyBreaks t := by
  rw [unifyBreaks]
  · exact fun _ h => absurd h hc
  · exact hc

/-- A CR without an LF behind it is a break of its own. -/
theorem unifyBreaks_return_cons (h : t.head? ≠ some '\n') :
    unifyBreaks ('\r' :: t) = '\n' :: unifyBreaks t := by
  rw [unifyBreaks]
  rintro r rfl
  exact h rfl

/-- Breaks are written alike on both sides, unless a CR meets an LF. -/
theorem unifyBreaks_append (h : t.getLast? ≠ some '\r' ∨ u.head? ≠ some '\n') :
    unifyBreaks (t ++ u) = unifyBreaks t ++ unifyBreaks u := by
  -- The last character of what is left is the last one of the text.
  have tail {d : Char} {r : Text} (h : (d :: r).getLast? ≠ some '\r' ∨ u.head? ≠ some '\n') :
      r.getLast? ≠ some '\r' ∨ u.head? ≠ some '\n' := by
    refine h.imp_left fun hd hr => hd ?_
    rw [List.getLast?_cons, hr, Option.getD_some]
  fun_induction unifyBreaks t with
  | case1 => rfl
  | case2 r ih =>
    rw [List.cons_append, List.cons_append, unifyBreaks, ih (tail (tail h)), List.cons_append]
  | case3 r hr ih =>
    have hhead : (r ++ u).head? ≠ some '\n' := by
      cases r with
      | nil => exact h.resolve_left (not_not_intro rfl)
      | cons d r => simpa using fun hd : d = '\n' => hr r (hd ▸ rfl)
    rw [List.cons_append, unifyBreaks_return_cons hhead, ih (tail h), List.cons_append]
  | case4 d r _ hd ih =>
    rw [List.cons_append, unifyBreaks_cons_of_ne hd, ih (tail h), List.cons_append]

/-- The breaks of blanks are blanks. -/
theorem blank_unifyBreaks (h : t.Blank) : t.unifyBreaks.Blank := by
  fun_induction unifyBreaks t with
  | case1 => exact h
  | case2 r ih =>
    obtain ⟨-, h⟩ := List.forall_mem_cons.1 h
    exact List.forall_mem_cons.2 ⟨isBlank_feed, ih (List.forall_mem_cons.1 h).2⟩
  | case3 r _ ih =>
    exact List.forall_mem_cons.2 ⟨isBlank_feed, ih (List.forall_mem_cons.1 h).2⟩
  | case4 c r _ _ ih =>
    obtain ⟨hc, h⟩ := List.forall_mem_cons.1 h
    exact List.forall_mem_cons.2 ⟨hc, ih h⟩

/-- Breaks at the start are blanks before and after they are unified. -/
theorem trimStart_unifyBreaks (t : Text) : t.unifyBreaks.trimStart = t.trimStart.unifyBreaks := by
  have drop {c : Char} (hc : isBlank c = true) (r : Text) : trimStart (c :: r) = r.trimStart :=
    List.dropWhile_cons_of_pos hc
  have hreturn : isBlank '\r' = true := by decide
  fun_induction unifyBreaks t with
  | case1 => rfl
  | case2 r ih => rw [drop isBlank_feed, drop hreturn, drop isBlank_feed, ih]
  | case3 r _ ih => rw [drop isBlank_feed, drop hreturn, ih]
  | case4 c r _ hr ih =>
    by_cases hc : isBlank c = true
    · rw [drop hc, drop hc, ih]
    · have keep (u : Text) : trimStart (c :: u) = c :: u := List.dropWhile_cons_of_neg hc
      rw [keep, keep, unifyBreaks_cons_of_ne hr]

/-- What begins a text with unified breaks and holds none began it before. -/
theorem isPrefix_of_isPrefix_unifyBreaks {p : Text} (hp : '\n' ∉ p) (h : p <+: t.unifyBreaks) :
    p <+: t := by
  induction p generalizing t with
  | nil => exact List.nil_prefix
  | cons c p ih =>
    obtain ⟨hc, hp⟩ := not_or.1 (mt List.mem_cons.2 hp)
    fun_cases unifyBreaks t with
    | case1 => exact h
    | case2 r =>
      rw [unifyBreaks] at h
      exact absurd (List.cons_prefix_cons.1 h).1.symm hc
    | case3 r hr =>
      rw [unifyBreaks] at h
      · exact absurd (List.cons_prefix_cons.1 h).1.symm hc
      · exact hr
    | case4 d r _ hd =>
      rw [unifyBreaks_cons_of_ne hd] at h
      obtain ⟨hcd, hpre⟩ := List.cons_prefix_cons.1 h
      exact List.cons_prefix_cons.2 ⟨hcd, ih hp hpre⟩

/-- What occurs in a text with unified breaks and holds none occurred in it before. -/
theorem isInfix_of_isInfix_unifyBreaks {p : Text} (hp : '\n' ∉ p) (h : p <:+: t.unifyBreaks) :
    p <:+: t := by
  have start {u : Text} (h : p <+: u.unifyBreaks) : p <:+: u :=
    (isPrefix_of_isPrefix_unifyBreaks hp h).isInfix
  induction t using unifyBreaks.induct with
  | case1 => exact h
  | case2 r ih =>
    have hr : unifyBreaks ('\r' :: '\n' :: r) = '\n' :: unifyBreaks r := by rw [unifyBreaks]
    rw [hr] at h
    rcases List.infix_cons_iff.1 h with h | h
    · exact start (hr ▸ h)
    · exact List.infix_cons (List.infix_cons (ih h))
  | case3 r hr ih =>
    have hc : unifyBreaks ('\r' :: r) = '\n' :: unifyBreaks r := by rw [unifyBreaks]; exact hr
    rw [hc] at h
    rcases List.infix_cons_iff.1 h with h | h
    · exact start (hc ▸ h)
    · exact List.infix_cons (ih h)
  | case4 c r _ hc ih =>
    have hr := unifyBreaks_cons_of_ne hc r
    rw [hr] at h
    rcases List.infix_cons_iff.1 h with h | h
    · exact start (hr ▸ h)
    · exact List.infix_cons (ih h)

/-- An LF behind a text completes a CR at its end, and is a break of its own otherwise. -/
theorem lines_unifyBreaks_append_cons (t u : Text) :
    ∃ ks, (t.unifyBreaks.lines = ks ∨ t.unifyBreaks.lines = ks ++ [[]]) ∧
      (unifyBreaks (t ++ '\n' :: u)).lines = ks ++ u.unifyBreaks.lines := by
  by_cases ht : t.getLast? = some '\r'
  · obtain ⟨v, rfl⟩ := List.getLast?_eq_some_iff.1 ht
    have hv (r : Text) : unifyBreaks (v ++ '\r' :: r) = unifyBreaks v ++ unifyBreaks ('\r' :: r) :=
      unifyBreaks_append (.inr (by simp))
    refine ⟨(unifyBreaks v).lines, .inr ?_, ?_⟩
    · rw [hv]
      exact lines_append_cons (unifyBreaks v) []
    · rw [List.append_assoc, List.singleton_append, hv, unifyBreaks, lines_append_cons]
  · refine ⟨t.unifyBreaks.lines, .inl rfl, ?_⟩
    rw [unifyBreaks_append (.inl ht), unifyBreaks_cons_of_ne (by decide), lines_append_cons]

end Text

end KScript
