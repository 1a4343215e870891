import KScript.Proofs.Run.History
import KScript.Proofs.Statement.Declaring

/-!
# The characters of host code

The code of a statement consists of characters of the statement and of printable characters, and so
does the comment of a statement that fails.  In particular no line break is added.
-/

namespace KScript

open Text

/-! ## Headers -/

namespace Opener

/-- What a header keeps of its text. -/
def chars : Opener → Text
  | draw => []
  | plain name => name
  | withParameters name parameters => name ++ parameters

theorem chars_ofSignature_subset (s : Text) : (ofSignature s).chars ⊆ s := by
  unfold ofSignature
  split
  · exact List.Subset.refl s
  · next name parameters hs =>
    obtain ⟨d, rfl, -, -⟩ := cutAt?_eq_some_iff.1 hs
    have hd : parameters ⊆ d :: parameters := List.subset_cons_self d parameters
    refine List.append_subset.2 ⟨?_, ?_⟩
    · exact List.Subset.trans (trim_subset name) (List.subset_append_left _ _)
    · exact List.Subset.trans (trim_subset parameters)
        (List.Subset.trans hd (List.subset_append_right _ _))

theorem chars_ofHeader_subset (header : Text) : (ofHeader header).chars ⊆ header := by
  unfold ofHeader
  split
  · exact List.nil_subset _
  · split
    · next s hs =>
      rw [dropPrefix?_eq_some_iff.1 hs]
      exact List.Subset.trans (List.Subset.trans (chars_ofSignature_subset _) (trim_subset s))
        (List.subset_append_right _ _)
    · next s _ hs =>
      rw [dropPrefix?_eq_some_iff.1 hs]
      exact List.Subset.trans (trim_subset s) (List.subset_append_right _ _)
    · exact chars_ofSignature_subset header

theorem covers_render (o : Opener) : o.chars.Covers o.render := by
  cases o with
  | draw => exact covers_of_isPrintable rfl
  | plain name =>
    exact .append (.append (covers_of_isPrintable rfl)
      (covers_refl name)) (covers_of_isPrintable rfl)
  | withParameters name parameters =>
    refine .append (.append (.append (covers_of_isPrintable rfl) (covers_of_subset ?_))
      (.cons (.inr (by decide)) (covers_of_subset ?_))) (covers_of_isPrintable rfl)
    · exact List.subset_append_left name parameters
    · exact List.subset_append_right name parameters

end Opener

theorem Control.Reads.covers_render {t : Text} {c : Control} (h : Control.Reads t c) :
    t.Covers c.render := by
  have condition (word head c : Text) (hh : head.all isPrintable = true) :
      Text.Covers (word ++ c) (head ++ c.trim ++ ") \x7b".toList) := by
    have hc : c.trim ⊆ word ++ c :=
      List.Subset.trans (trim_subset c) (List.subset_append_right word c)
    exact ((covers_of_isPrintable hh).append (covers_of_subset hc)).append
      (covers_of_isPrintable rfl)
  cases h with
  | orElse => exact covers_of_isPrintable rfl
  | orElseIf c => exact condition _ _ c rfl
  | ifThen c => exact condition _ _ c rfl
  | whileLoop c => exact condition _ _ c rfl
  | forLoop c => exact condition _ _ c rfl

/-! ## Statements -/

namespace Statement

variable {t : Text} {keywords : Names} {s : Scope}

theorem covers_declarator (n : Text) : t.Covers (declarator s n) := by
  rcases declarator_cases s n with h | ⟨h, -⟩ | ⟨h, -⟩ <;> rw [h]
  · exact covers_of_isPrintable rfl
  · exact covers_of_isPrintable rfl
  · exact covers_of_isPrintable rfl

/-- The code of a statement consists of its characters and of printable ones. -/
theorem Form.covers_render {st : Statement} (h : Form t st) (ht : t.trim = t) :
    t.Covers (st.render keywords s) := by
  cases h with
  | opener header hh =>
    subst hh
    have hh : header.trim ⊆ header ++ [':'] :=
      List.Subset.trans (trim_subset header) (List.subset_append_left header [':'])
    exact (Opener.covers_render _).mono
      (List.Subset.trans (Opener.chars_ofHeader_subset _) hh)
  | blockEnd | controlEnd => exact covers_of_isPrintable rfl
  | control c _ _ hc => exact hc.covers_render
  | assign target v value _ ha hv =>
    have htarget : t.Covers target := covers_of_subset (Assignment.target_isPrefix ht ha).subset
    have hvalue : t.Covers (value.render (s.knows keywords)) :=
      (Value.covers_render_of_ofText hv).mono (Assignment.value_isInfix ha).subset
    rw [render_assign]
    exact ((covers_declarator _).append (htarget.append (covers_of_isPrintable rfl))).append
      (hvalue.append (covers_of_isPrintable rfl))
  | update target v op value _ ha hv =>
    have htarget : t.Covers target := covers_of_subset (Assignment.target_isPrefix ht ha).subset
    have hvalue : t.Covers (value.render (s.knows keywords)) :=
      (Value.covers_render_of_ofText hv).mono (Assignment.value_isInfix ha).subset
    have hprint : Assignment.operators.all isPrintable = true := by decide
    have hop : isPrintable op = true :=
      List.all_eq_true.1 hprint op (Assignment.mem_operators (Assignment.operator_mem ha rfl))
    rw [render_update]
    refine htarget.append (.cons (.inr (by decide)) (.cons (.inr hop) ?_))
    exact ((covers_of_isPrintable rfl).append hvalue).append (covers_of_isPrintable rfl)
  | expression value _ _ hv =>
    exact (Value.covers_render_of_ofText hv).append (covers_of_isPrintable rfl)

end Statement

/-! ## Emissions -/

namespace Emission

theorem isPrintable_of_isDigit {c : Char} (h : c.isDigit = true) : isPrintable c = true := by
  simp only [Char.isDigit, Bool.and_eq_true, decide_eq_true_eq] at h
  simp only [isPrintable, Bool.and_eq_true, decide_eq_true_eq]
  exact ⟨Char.le_trans (by decide) h.1, Char.le_trans h.2 (by decide)⟩

/-- A comment is printable text in front of the statement. -/
theorem exists_comment_eq (k : Nat) (t : Text) :
    ∃ a : Text, (∀ c ∈ a, isPrintable c = true) ∧ comment k t = a ++ t := by
  have hword {w : Text} (h : w.all isPrintable = true) : ∀ c ∈ w, isPrintable c = true :=
    List.all_eq_true.1 h
  have hdigits : ∀ c ∈ Nat.toDigits 10 k, isPrintable c = true := fun c hc =>
    isPrintable_of_isDigit (Nat.isDigit_of_mem_toDigits (by decide) (by decide) hc)
  refine ⟨Item.commentMark ++ " KScript parse error on line ".toList ++ Nat.toDigits 10 k ++
    ": ".toList, ?_, rfl⟩
  simp only [List.forall_mem_append]
  exact ⟨⟨⟨hword rfl, hword rfl⟩, hdigits⟩, hword rfl⟩

theorem covers_comment (k : Nat) (t : Text) : t.Covers (comment k t) := by
  obtain ⟨a, ha, hcomment⟩ := exists_comment_eq k t
  rw [hcomment]
  exact .append (fun c hc => .inr (ha c hc)) (covers_refl _)

variable {keywords : Names} {s : Scope} {t : Text}

/-- What a statement becomes consists of its characters and of printable ones. -/
theorem covers_code_ofItem (ht : t.trim = t) :
    t.Covers (ofItem keywords s (.statement t)).1.code := by
  cases h : Statement.ofText t with
  | ok st =>
    rw [ofItem_of_ok keywords s h]
    exact (Statement.form_of_ofText ht h).covers_render ht
  | error f =>
    rw [ofItem_of_error keywords s h]
    exact covers_comment _ t

/-- No character is made up that is not printable. -/
theorem not_mem_code_of_not_isPrintable {d : Char} (hd : isPrintable d = false) (ht : t.trim = t)
    (hn : d ∉ t) : d ∉ (ofItem keywords s (.statement t)).1.code := by
  intro hc
  rcases covers_code_ofItem ht d hc with h | h
  · exact hn h
  · exact Bool.noConfusion (hd.symm.trans h)

/-- A statement without line break becomes one line. -/
theorem not_mem_code_ofItem (ht : t.trim = t) (hn : '\n' ∉ t) :
    '\n' ∉ (ofItem keywords s (.statement t)).1.code :=
  not_mem_code_of_not_isPrintable (by decide) ht hn

end Emission

end KScript
