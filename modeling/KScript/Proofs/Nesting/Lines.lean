import KScript.Proofs.Nesting.Program
import KScript.Proofs.Run.Characters

/-!
# What becomes of a line

Every line of a program is one statement, and its role settles the form of its code.
-/

namespace KScript.Nesting

/-- The code of a line with a role, by role. -/
inductive Becomes : Role → Text → Text → Prop
  | terminated (t c : Text) : Becomes .simple t (c ++ [';'])
  | failed (t : Text) (k : Nat) : Becomes .simple t (Emission.comment k t)
  | opener (t signature : Text) :
      Becomes .opener t ("function ".toList ++ signature ++ ") \x7b".toList)
  | blockEnd (t : Text) : Becomes .blockEnd t ['\x7d']
  | ifThen (c : Text) :
      Becomes .ifThen ("if ".toList ++ c) ("if (".toList ++ c.trim ++ ") \x7b".toList)
  | orElseIf (c : Text) : Becomes .orElseIf ("else if ".toList ++ c)
      ("\x7d else if (".toList ++ c.trim ++ ") \x7b".toList)
  | orElse : Becomes .orElse "else".toList "\x7d else \x7b".toList
  | whileLoop (c : Text) :
      Becomes .loop ("while ".toList ++ c) ("while (".toList ++ c.trim ++ ") \x7b".toList)
  | forLoop (c : Text) :
      Becomes .loop ("for ".toList ++ c) ("for (".toList ++ c.trim ++ ") \x7b".toList)
  | controlEnd (t : Text) : Becomes .controlEnd t ['\x7d']

/-! ## Braces of code -/

namespace Brace

theorem ofCode_append_semicolon (c : Text) : ofCode (c ++ [';']) = plain := by
  unfold ofCode
  split
  · rfl
  · rw [List.getLast?_append]
    rfl

theorem ofCode_comment (c : Text) : ofCode ("//".toList ++ c) = plain := by
  have hp : "//".toList.isPrefixOf ("//".toList ++ c) = true := by
    rw [List.isPrefixOf_iff_prefix]
    exact List.prefix_append _ c
  exact if_pos hp

/-- The head of a body opens it, and closes the one before if it begins with a brace. -/
theorem ofCode_head {d : Char} (word c : Text) (hd : d ≠ '/') :
    ofCode ((d :: word) ++ c ++ ") \x7b".toList) = if d = '\x7d' then turns else opens := by
  have hp : "//".toList.isPrefixOf ((d :: word) ++ c ++ ") \x7b".toList) = false := by
    rw [Bool.eq_false_iff, ne_eq, List.isPrefixOf_iff_prefix]
    exact fun hp => hd (List.cons_prefix_cons.1 hp).1.symm
  have hl : ((d :: word) ++ c ++ ") \x7b".toList).getLast? = some '\x7b' :=
    List.getLast?_eq_some_iff.2 ⟨(d :: word) ++ c ++ ") ".toList, by simp⟩
  rw [ofCode, hp, hl]
  simp

end Brace

/-- The code of a line plays the part of the line in the nesting. -/
theorem Becomes.brace_eq {r : Role} {t code : Text} (h : Becomes r t code) :
    Brace.ofCode code = r.brace := by
  cases h with
  | terminated t c => exact Brace.ofCode_append_semicolon c
  | failed t k =>
    exact Brace.ofCode_comment
      (" KScript parse error on line ".toList ++ Nat.toDigits 10 k ++ ": ".toList ++ t)
  | opener t signature => exact Brace.ofCode_head "unction ".toList signature (by decide)
  | blockEnd | controlEnd | orElse => rfl
  | ifThen c => exact Brace.ofCode_head "f (".toList c.trim (by decide)
  | orElseIf c => exact Brace.ofCode_head " else if (".toList c.trim (by decide)
  | whileLoop c => exact Brace.ofCode_head "hile (".toList c.trim (by decide)
  | forLoop c => exact Brace.ofCode_head "or (".toList c.trim (by decide)

/-! ## Lines as statements -/

/-- A text that can play a role, role by role. -/
inductive Fits : Role → Text → Prop
  | simple {t : Text} (hne : t ≠ []) (hc : Role.isComment t = false) (hd : t ≠ Sketch.directive)
      (hs : Role.hasSemicolon t = false) (h : Statement.isSimple t = true) : Fits .simple t
  | opener (header : Text) (hc : Role.isComment (header ++ [':']) = false)
      (hs : Role.hasSemicolon (header ++ [':']) = false) : Fits .opener (header ++ [':'])
  | blockEnd {t : Text} (h : Statement.isBlockCloser t = true) : Fits .blockEnd t
  | controlEnd {t : Text} (h : Statement.isControlCloser t = true) : Fits .controlEnd t
  | orElse : Fits .orElse "else".toList
  | orElseIf (c : Text) (ho : Statement.isOpener ("else if ".toList ++ c) = false)
      (hs : Role.hasSemicolon ("else if ".toList ++ c) = false) :
      Fits .orElseIf ("else if ".toList ++ c)
  | ifThen (c : Text) (ho : Statement.isOpener ("if ".toList ++ c) = false)
      (hs : Role.hasSemicolon ("if ".toList ++ c) = false) : Fits .ifThen ("if ".toList ++ c)
  | whileLoop (c : Text) (ho : Statement.isOpener ("while ".toList ++ c) = false)
      (hs : Role.hasSemicolon ("while ".toList ++ c) = false) : Fits .loop ("while ".toList ++ c)
  | forLoop (c : Text) (ho : Statement.isOpener ("for ".toList ++ c) = false) :
      Fits .loop ("for ".toList ++ c)

theorem Role.fits_cases {r : Role} {t : Text} (ht : t.trim = t) (h : r.fits t = true) :
    Fits r t := by
  cases r with
  | simple =>
    simp only [fits, Bool.and_eq_true, Bool.not_eq_true'] at h
    obtain ⟨⟨⟨⟨hne, hc⟩, hd⟩, hs⟩, h⟩ := h
    rw [Sketch.isDirective, ht] at hd
    exact .simple (List.isEmpty_eq_false_iff.1 hne) hc (beq_eq_false_iff_ne.1 hd) hs h
  | opener =>
    simp only [fits, Bool.and_eq_true, Bool.not_eq_true'] at h
    obtain ⟨⟨ho, hc⟩, hs⟩ := h
    obtain ⟨header, rfl⟩ := Statement.isOpener_iff.1 ho
    exact .opener header hc hs
  | blockEnd => exact .blockEnd h
  | controlEnd => exact .controlEnd h
  | orElse =>
    obtain rfl := beq_iff_eq.1 h
    exact .orElse
  | orElseIf =>
    simp only [fits, Bool.and_eq_true, Bool.not_eq_true'] at h
    obtain ⟨⟨hp, ho⟩, hs⟩ := h
    obtain ⟨c, rfl⟩ := List.isPrefixOf_iff_prefix.1 hp
    exact .orElseIf c ho hs
  | ifThen =>
    simp only [fits, Bool.and_eq_true, Bool.not_eq_true'] at h
    obtain ⟨⟨hp, ho⟩, hs⟩ := h
    obtain ⟨c, rfl⟩ := List.isPrefixOf_iff_prefix.1 hp
    exact .ifThen c ho hs
  | loop =>
    simp only [fits, Bool.and_eq_true, Bool.or_eq_true, Bool.not_eq_true'] at h
    obtain ⟨⟨hp, hs⟩ | hp, ho⟩ := h
    · obtain ⟨c, rfl⟩ := List.isPrefixOf_iff_prefix.1 hp
      exact .whileLoop c ho hs
    · obtain ⟨c, rfl⟩ := List.isPrefixOf_iff_prefix.1 hp
      exact .forLoop c ho

/-- A trimmed line that is one statement: not blank, no comment, no directive and not cut. -/
structure IsStatement (t : Text) : Prop where
  ne_nil : t ≠ []
  not_comment : Role.isComment t = false
  not_directive : t ≠ Sketch.directive
  not_cut : Item.isCut t = false

/-- The first character can show that a line is no comment and no directive. -/
theorem isStatement_of_head {t : Text} {c : Char} (h : t.head? = some c) (hc : c ≠ '/')
    (hd : c ≠ '#') (hcut : Item.isCut t = false) : IsStatement t := by
  obtain ⟨r, rfl⟩ := List.head?_eq_some_iff.1 h
  refine ⟨List.cons_ne_nil c r, ?_, fun heq => hd (List.cons.inj heq).1, hcut⟩
  rw [Bool.eq_false_iff, ne_eq, Role.isComment, List.isPrefixOf_iff_prefix]
  exact fun hp => hc (List.cons_prefix_cons.1 hp).1.symm

theorem not_isCut_of_not_hasSemicolon {t : Text} (h : Role.hasSemicolon t = false) :
    Item.isCut t = false := by
  unfold Role.hasSemicolon at h
  rw [Item.isCut, h, Bool.and_false]

theorem isStatement_of_closer {t : Text}
    (h : t ∈ Statement.blockClosers ++ Statement.controlClosers) : IsStatement t := by
  have hhead : ∀ u ∈ Statement.blockClosers ++ Statement.controlClosers, u.head? = some 'e' := by
    decide
  have hcut : ∀ u ∈ Statement.blockClosers ++ Statement.controlClosers, Item.isCut u = false := by
    decide
  exact isStatement_of_head (hhead t h) (by decide) (by decide) (hcut t h)

/-- Every role is one of a statement. -/
theorem Fits.isStatement {r : Role} {t : Text} (h : Fits r t) : IsStatement t := by
  cases h with
  | simple hne hc hd hs h => exact ⟨hne, hc, hd, not_isCut_of_not_hasSemicolon hs⟩
  | opener header hc hs =>
    refine ⟨List.append_ne_nil_of_right_ne_nil _ (List.cons_ne_nil _ _), hc, ?_,
      not_isCut_of_not_hasSemicolon hs⟩
    intro hd
    have ho := Statement.isOpener_append header
    rw [hd] at ho
    cases ho
  | blockEnd h =>
    exact isStatement_of_closer (List.mem_append_left _ (List.contains_iff_mem.1 h))
  | controlEnd h =>
    exact isStatement_of_closer (List.mem_append_right _ (List.contains_iff_mem.1 h))
  | orElse => exact isStatement_of_head rfl (by decide) (by decide) (by decide)
  | orElseIf c _ hs | ifThen c _ hs | whileLoop c _ hs =>
    exact isStatement_of_head rfl (by decide) (by decide) (not_isCut_of_not_hasSemicolon hs)
  | forLoop c => exact isStatement_of_head rfl (by decide) (by decide) rfl

/-- A line of a program is one item. -/
theorem IsStatement.ofLine_eq {line : Text} (h : IsStatement line.trim) :
    Item.ofLine line = [.statement line.trim] :=
  Item.ofLine_of_not_isCut h.ne_nil h.not_comment h.not_cut

/-! ## The code of a line -/

theorem exists_opener_render (o : Opener) :
    ∃ signature, o.render = "function ".toList ++ signature ++ ") \x7b".toList := by
  cases o with
  | draw => exact ⟨"draw(time".toList, by decide⟩
  | plain name =>
    have h : "() \x7b".toList = ['('] ++ ") \x7b".toList := by decide
    refine ⟨name ++ ['('], ?_⟩
    change "function ".toList ++ name ++ "() \x7b".toList = _
    rw [h, ← List.append_assoc, List.append_assoc _ name]
  | withParameters name parameters =>
    refine ⟨name ++ '(' :: parameters, ?_⟩
    change "function ".toList ++ name ++ '(' :: parameters ++ ") \x7b".toList = _
    rw [List.append_assoc _ name]

variable {keywords : Names} {s : Scope}

/-- The code of a simple statement ends in a semicolon, or it is the comment of a failure. -/
theorem becomes_of_isSimple {t : Text} (ht : t.trim = t) (hs : Statement.isSimple t = true) :
    Becomes .simple t (Emission.ofItem keywords s (.statement t)).1.code := by
  obtain ⟨ho, hb, hc, hh⟩ := Statement.isSimple_iff.1 hs
  cases h : Statement.ofText t with
  | error f =>
    rw [Emission.ofItem_of_error keywords s h]
    exact .failed t s.line
  | ok st =>
    rw [Emission.ofItem_of_ok keywords s h]
    cases Statement.form_of_ofText ht h with
    | opener k hk => simp [hk] at ho
    | blockEnd _ hb' => simp [hb'] at hb
    | controlEnd _ _ hc' => simp [hc'] at hc
    | control c _ _ hc' => simp [hc'.ofText?_eq] at hh
    | assign | update | expression => exact .terminated t _

theorem code_of_reads {t : Text} {st : Statement} (ht : t.trim = t)
    (h : Statement.Reads t (.ok st)) :
    (Emission.ofItem keywords s (.statement t)).1.code = st.render keywords s := by
  rw [Emission.ofItem_of_ok keywords s (h.ofText_eq ht)]
  rfl

theorem code_of_control {t : Text} {c : Control} (ht : t.trim = t)
    (ho : Statement.isOpener t = false) (h : Control.Reads t c) :
    (Emission.ofItem keywords s (.statement t)).1.code = c.render :=
  code_of_reads ht (.control c ho (Statement.not_isBlockCloser_of_reads h) h)

/-- The role of a line settles the form of its code, in every scope. -/
theorem Fits.becomes {r : Role} {t : Text} (h : Fits r t) (ht : t.trim = t) :
    Becomes r t (Emission.ofItem keywords s (.statement t)).1.code := by
  cases h with
  | simple _ _ _ _ h => exact becomes_of_isSimple ht h
  | opener header =>
    obtain ⟨signature, hs⟩ := exists_opener_render (.ofHeader header.trim)
    rw [code_of_reads ht (.opener header rfl), Statement.render, hs]
    exact .opener _ signature
  | blockEnd h =>
    rw [code_of_reads ht (.blockEnd (Statement.not_isOpener_of_isBlockCloser h) h)]
    exact .blockEnd t
  | controlEnd h =>
    rw [code_of_reads ht (.controlEnd (Statement.not_isOpener_of_isControlCloser h)
      (Statement.not_isBlockCloser_of_isControlCloser h) h)]
    exact .controlEnd t
  | orElse =>
    rw [code_of_control ht rfl .orElse]
    exact .orElse
  | orElseIf c ho =>
    rw [code_of_control ht ho (.orElseIf c)]
    exact .orElseIf c
  | ifThen c ho =>
    rw [code_of_control ht ho (.ifThen c)]
    exact .ifThen c
  | whileLoop c ho =>
    rw [code_of_control ht ho (.whileLoop c)]
    exact .whileLoop c
  | forLoop c ho =>
    rw [code_of_control ht ho (.forLoop c)]
    exact .forLoop c

end KScript.Nesting
