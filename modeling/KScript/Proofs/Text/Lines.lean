import KScript.Text.Line
import KScript.Proofs.Text.Split
import KScript.Proofs.Text.Trim

/-!
# Lines

Cutting a text into lines and joining lines are inverse to each other.  Trimming a text of lines
that are not blank changes its first and its last line by blanks at most.
-/

namespace KScript

namespace Text

variable {t : Text} {l : Text} {ls : List Text}

@[simp] theorem ofLines_singleton (l : Text) : ofLines [l] = l := List.intercalate_singleton

theorem ofLines_cons_cons (l m : Text) (ls : List Text) :
    ofLines (l :: m :: ls) = l ++ '\n' :: ofLines (m :: ls) := by
  rw [ofLines, List.intercalate_cons_cons, List.append_assoc]
  rfl

/-- Joined lines are read back. -/
theorem lines_ofLines (hne : ls ≠ []) (h : ∀ l ∈ ls, '\n' ∉ l) : (ofLines ls).lines = ls :=
  List.splitOn_intercalate '\n' h hne

/-- A text has the lines it is cut into. -/
@[simp] theorem ofLines_lines (t : Text) : ofLines t.lines = t := List.intercalate_splitOn '\n'

theorem infix_of_mem_lines (h : l ∈ t.lines) : l <:+: t := infix_of_mem_splitOnP h

theorem not_mem_of_mem_lines (h : l ∈ t.lines) : '\n' ∉ l := by
  intro hc
  exact absurd (not_of_mem_splitOnP h '\n' hc) (by simp)

theorem mem_ofLines {c : Char} (h : c ∈ ofLines ls) : c = '\n' ∨ ∃ l ∈ ls, c ∈ l :=
  (mem_of_mem_intercalate h).imp_left List.mem_singleton.1

/-! ## Line breaks -/

theorem isBlank_feed : isBlank '\n' = true := by decide

/-- No CR is left. -/
theorem not_mem_unifyBreaks (t : Text) : '\r' ∉ t.unifyBreaks := by
  fun_induction unifyBreaks t with
  | case1 => exact List.not_mem_nil
  | case2 r ih => simpa using ih
  | case3 r _ ih => simpa using ih
  | case4 c r _ hc ih =>
    rw [List.mem_cons, not_or]
    exact ⟨fun h => hc h.symm, ih⟩

/-- Text without CR is left as it is. -/
theorem unifyBreaks_eq_self (h : '\r' ∉ t) : t.unifyBreaks = t := by
  fun_induction unifyBreaks t with
  | case1 => rfl
  | case2 r ih => exact absurd List.mem_cons_self h
  | case3 r _ ih => exact absurd List.mem_cons_self h
  | case4 c r _ hc ih => rw [ih fun hr => h (List.mem_cons_of_mem c hr)]

/-! ## Trimming several lines -/

theorem blank_of_blank_append_left {a b : Text} (h : (a ++ b).Blank) : a.Blank :=
  fun c hc => h c (List.mem_append_left b hc)

/-- Trimming the start of lines that are not blank trims the start of the first. -/
theorem trimStart_ofLines_cons (h : ¬ l.Blank) (ls : List Text) :
    (ofLines (l :: ls)).trimStart = ofLines (l.trimStart :: ls) := by
  cases ls with
  | nil => simp
  | cons m ls => rw [ofLines_cons_cons, ofLines_cons_cons, trimStart_append h]

/-- Blank lines in front are trimmed away. -/
theorem trimStart_ofLines_cons_of_blank (h : l.Blank) (ls : List Text) :
    (ofLines (l :: ls)).trimStart = (ofLines ls).trimStart := by
  cases ls with
  | nil =>
    rw [ofLines_singleton, trimStart_eq_nil_iff.2 h]
    rfl
  | cons m ls =>
    rw [ofLines_cons_cons, trimStart_append_left h]
    exact trimStart_append_left (b := ['\n']) (List.forall_mem_singleton.2 isBlank_feed) _

/-- Joined lines are blank if every line is. -/
theorem blank_ofLines_iff : (ofLines ls).Blank ↔ ∀ l ∈ ls, l.Blank := by
  induction ls with
  | nil => exact iff_of_true (List.forall_mem_nil _) (List.forall_mem_nil _)
  | cons l ls ih =>
    cases ls with
    | nil => rw [ofLines_singleton, List.forall_mem_singleton]
    | cons m ls =>
      rw [ofLines_cons_cons, Blank, List.forall_mem_append, List.forall_mem_cons]
      rw [List.forall_mem_cons, ← ih]
      exact and_congr_right fun _ => and_iff_right isBlank_feed

/-- Blank lines at the end are trimmed away. -/
theorem trimEnd_ofLines_cons_of_blank (l : Text) (h : ∀ k ∈ ls, k.Blank) :
    (ofLines (l :: ls)).trimEnd = l.trimEnd := by
  cases ls with
  | nil => rw [ofLines_singleton]
  | cons m ls =>
    rw [ofLines_cons_cons]
    exact trimEnd_append_blank (List.forall_mem_cons.2 ⟨isBlank_feed, blank_ofLines_iff.2 h⟩) l

/-- The end is trimmed behind a line if not all lines behind it are blank. -/
theorem trimEnd_ofLines_cons (l : Text) (h : ¬ ∀ k ∈ ls, k.Blank) :
    (ofLines (l :: ls)).trimEnd = l ++ '\n' :: (ofLines ls).trimEnd := by
  cases ls with
  | nil => exact absurd (List.forall_mem_nil _) h
  | cons m ls =>
    rw [ofLines_cons_cons, List.append_cons, trimEnd_append (mt blank_ofLines_iff.1 h),
      ← List.append_cons]

/-- Trimming the end of lines that are not blank trims the end of the last. -/
theorem trimEnd_ofLines (hne : ls ≠ []) (h : ∀ l ∈ ls, ¬ l.Blank) :
    ∃ ks, (ofLines ls).trimEnd = ofLines ks ∧ ks.map trim = ls.map trim ∧
      ∀ k ∈ ks, ∃ l ∈ ls, k <+: l := by
  induction ls with
  | nil => exact absurd rfl hne
  | cons l ls ih =>
    cases ls with
    | nil =>
      refine ⟨[l.trimEnd], by simp, by simp, ?_⟩
      rintro k hk
      rw [List.mem_singleton.1 hk]
      exact ⟨l, List.mem_singleton_self l, trimEnd_isPrefix l⟩
    | cons m ls =>
      have hr : ∀ k ∈ m :: ls, ¬ k.Blank := by
        intro k hk
        exact h k (List.mem_cons_of_mem l hk)
      have hnb : ¬ ∀ k ∈ m :: ls, k.Blank := by
        intro hall
        exact hr m List.mem_cons_self (hall m List.mem_cons_self)
      obtain ⟨ks, hks, hmap, hpre⟩ := ih (List.cons_ne_nil m ls) hr
      obtain ⟨k, ks, rfl⟩ := List.exists_cons_of_ne_nil (l := ks) (by rintro rfl; simp at hmap)
      refine ⟨l :: k :: ks, ?_, by simpa using hmap, ?_⟩
      · rw [trimEnd_ofLines_cons l hnb, hks, ofLines_cons_cons]
      · rintro j hj
        rcases List.mem_cons.1 hj with rfl | hj
        · exact ⟨j, List.mem_cons_self, List.prefix_rfl⟩
        · obtain ⟨i, hi, hp⟩ := hpre j hj
          exact ⟨i, List.mem_cons_of_mem l hi, hp⟩

/-- The lines of the trimmed text are, up to blanks, the lines that were joined. -/
theorem map_trim_lines_trim_ofLines (hne : ls ≠ []) (h : ∀ l ∈ ls, ¬ l.Blank)
    (hl : ∀ l ∈ ls, '\n' ∉ l) : (ofLines ls).trim.lines.map trim = ls.map trim := by
  obtain ⟨l, ls, rfl⟩ := List.exists_cons_of_ne_nil hne
  have hb : ¬ l.trimStart.Blank := by
    intro hb
    apply h l List.mem_cons_self
    rw [← trim_eq_nil_iff, ← trim_trimStart, trim_eq_nil_iff]
    exact hb
  have hb' : ∀ k ∈ l.trimStart :: ls, ¬ k.Blank := List.forall_mem_cons.2
    ⟨hb, fun k hk => h k (List.mem_cons_of_mem l hk)⟩
  have hl' : ∀ k ∈ l.trimStart :: ls, '\n' ∉ k := List.forall_mem_cons.2
    ⟨fun hc => hl l List.mem_cons_self ((trimStart_suffix l).subset hc),
      fun k hk => hl k (List.mem_cons_of_mem l hk)⟩
  obtain ⟨ks, hks, hmap, hpre⟩ := trimEnd_ofLines (List.cons_ne_nil _ ls) hb'
  have hkl : ∀ k ∈ ks, '\n' ∉ k := by
    intro k hk hc
    obtain ⟨j, hj, hp⟩ := hpre k hk
    exact hl' j hj (hp.subset hc)
  have hkne : ks ≠ [] := by
    rintro rfl
    simp at hmap
  rw [trim, trimStart_ofLines_cons (h l List.mem_cons_self), hks, lines_ofLines hkne hkl, hmap]
  simp

end Text

end KScript
