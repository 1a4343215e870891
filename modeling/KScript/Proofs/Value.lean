import KScript.Value
import KScript.Proofs.Literal.Joining
import KScript.Proofs.Text.Covers

/-!
# Values and their host syntax

A value that is cut at commas has two tokens at least, so it is never cut at blanks after that.  The host
syntax of a value is made of characters of the value and of printable characters that the generator
writes.  It begins as the value does, unless it begins with a quote.
-/

namespace KScript

namespace Text

variable {t v : Text}

theorem covers_escape (t : Text) : t.Covers t.escape := by
  induction t with
  | nil => exact covers_refl []
  | cons d t ih =>
    have hd : d ∈ d :: t := List.mem_cons_self
    have ht : Covers (d :: t) (escape t) := ih.mono (List.subset_cons_self d t)
    unfold escape
    split
    · exact .cons (.inr (by decide)) (.cons (.inl hd) ht)
    · exact .cons (.inl hd) ht

theorem covers_quote (t : Text) : t.Covers t.quote :=
  .cons (.inr (by decide)) ((covers_escape t).append (covers_of_isPrintable rfl))

/-- The words of a text are contiguous parts of it. -/
theorem infix_of_mem_words {ws : List Text} {w : Text} (h : v.words = .ok ws) (hw : w ∈ ws) :
    w <:+: v := by
  unfold words at h
  cases hc : v.cut isBlank with
  | error f => rw [hc] at h; cases h
  | ok ps =>
    rw [hc] at h
    cases h
    exact infix_of_mem_cut hc (List.mem_filter.1 hw).1

/-- A trimmed text begins with its first word. -/
theorem words_head_isPrefix {w : Text} {ws : List Text} (hv : v.trim = v)
    (h : v.words = .ok (w :: ws)) : w <+: v := by
  unfold words at h
  cases hc : v.cut isBlank with
  | error f => rw [hc] at h; cases h
  | ok ps =>
    rw [hc] at h
    obtain rfl := (cut_eq_ok_iff.1 hc).2
    cases v with
    | nil => cases h
    | cons c r =>
      obtain ⟨m, ms, -, hsplit⟩ := splitOnP_cons_of_neg
        (p := fun m : Mark => m.structural && isBlank m.char)
        (a := ⟨c, Scan.start.structural c⟩) (by simp [isBlank_head_of_trim_eq hv])
        ((Scan.start.step c).marks r)
      have hp : pieces isBlank (c :: r) = (c :: m.map Mark.char) :: ms.map (·.map Mark.char) := by
        rw [pieces, marks, Scan.marks_cons, hsplit]
        rfl
      rw [hp] at h
      have hw : w = c :: m.map Mark.char := by
        cases h
        rfl
      exact hw ▸ pieces_head_isPrefix hp

/-- A text is blank if all its pieces between blanks are empty. -/
theorem blank_of_cutsInto {ps : List Text} (h : CutsInto isBlank t ps) (hps : ∀ p ∈ ps, p = []) :
    t.Blank := by
  induction h with
  | whole t h =>
    rw [hps t (List.mem_singleton_self t)]
    exact List.forall_mem_nil _
  | cut a c ha hc hsep hb ih =>
    obtain ⟨rfl, hrest⟩ := List.forall_mem_cons.1 hps
    exact List.forall_mem_cons.2 ⟨hsep, ih hrest⟩

/-- A trimmed text with a single word is that word. -/
theorem eq_of_words_eq_singleton {w : Text} (hv : v.trim = v) (h : v.words = .ok [w]) : w = v := by
  obtain ⟨ps, hcut, hw⟩ := map_eq_ok_iff.1 h
  have hcuts := cutsInto_pieces isBlank v
  rw [← (cut_eq_ok_iff.1 hcut).2] at hcuts
  cases hcuts with
  | whole =>
    have hmem : w ∈ [v] := List.mem_of_mem_filter (hw ▸ List.mem_cons_self)
    exact List.mem_singleton.1 hmem
  | @cut a c b ps ha hc hsep hb =>
    have hne : a ≠ [] := by
      rintro rfl
      exact Bool.noConfusion (hsep.symm.trans (isBlank_head_of_trim_eq hv))
    rw [List.filter_cons_of_pos (by simpa using hne)] at hw
    have hrest : ∀ p ∈ ps, p = [] := fun p hp =>
      by simpa using List.filter_eq_nil_iff.1 (List.cons.inj hw).2 p hp
    -- Behind the first piece there are only blanks, which a trimmed text does not end in.
    have hblank : Blank (c :: b) := List.forall_mem_cons.2 ⟨hsep, blank_of_cutsInto hb hrest⟩
    have hlength : (a ++ c :: b).length ≤ a.length := by
      rw [← hv, trim_append_right hblank]
      exact (trim_isInfix a).length_le
    exact absurd hlength (by simp)

/-- The pieces between commas are trimmed contiguous parts of the text. -/
theorem infix_of_mem_commaPieces {ps : List Text} {p : Text} (h : v.commaPieces = .ok ps)
    (hp : p ∈ ps) : p <:+: v := by
  unfold commaPieces at h
  cases hc : v.cut (· == ',') with
  | error f => rw [hc] at h; cases h
  | ok qs =>
    rw [hc] at h
    cases h
    obtain ⟨q, hq, rfl⟩ := List.mem_map.1 hp
    exact (trim_isInfix q).trans (infix_of_mem_cut hc hq)

/-- A trimmed text begins with its first piece between commas. -/
theorem commaPieces_head_isPrefix {p : Text} {ps : List Text} (hv : v.trim = v)
    (h : v.commaPieces = .ok (p :: ps)) : p <+: v := by
  unfold commaPieces at h
  cases hc : v.cut (· == ',') with
  | error f => rw [hc] at h; cases h
  | ok qs =>
    rw [hc] at h
    obtain rfl := (cut_eq_ok_iff.1 hc).2
    obtain ⟨q, qs, hq⟩ := List.exists_cons_of_ne_nil (pieces_ne_nil (· == ',') v)
    rw [hq] at h
    cases h
    exact trim_isPrefix_of_isPrefix hv (pieces_head_isPrefix hq)

/-- There is one piece more than there are commas outside literals. -/
theorem length_of_commaPieces {ps : List Text} (h : v.commaPieces = .ok ps) :
    ps.length = v.skeleton.count ',' + 1 := by
  obtain ⟨qs, hcut, rfl⟩ := map_eq_ok_iff.1 h
  rw [List.length_map, (cut_eq_ok_iff.1 hcut).2]
  exact (cutsInto_pieces (· == ',') v).length_eq

/-- A text with a comma outside literals has two pieces at least. -/
theorem two_le_length_of_commaPieces {ps : List Text} (hcomma : ',' ∈ v.skeleton)
    (h : v.commaPieces = .ok ps) : 2 ≤ ps.length := by
  have hcount : 0 < v.skeleton.count ',' := List.count_pos_iff.2 hcomma
  have hlength : ps.length = v.skeleton.count ',' + 1 := length_of_commaPieces h
  omega

/-! ## Cutting closed texts -/

theorem commaPieces_of_closed (h : t.closed = true) :
    t.commaPieces = .ok ((t.pieces (· == ',')).map trim) := by
  rw [commaPieces, cut_eq_ok_iff.2 ⟨h, rfl⟩]
  rfl

theorem words_of_closed (h : t.closed = true) :
    t.words = .ok ((t.pieces isBlank).filter fun p => !p.isEmpty) := by
  rw [words, cut_eq_ok_iff.2 ⟨h, rfl⟩]
  rfl

/-- A text without blanks is one word. -/
theorem words_of_not_any (h : t.closed = true) (hne : t.isEmpty = false)
    (hblank : t.any isBlank = false) : t.words = .ok [t] := by
  have hwhole : CutsInto isBlank t [t] := .whole t fun c hc => by
    simpa using List.any_eq_false.1 hblank c (mem_of_mem_skeleton hc)
  rw [words_of_closed h, hwhole.pieces_eq, List.filter_cons_of_pos (by rw [hne]; rfl), List.filter_nil]

end Text

/-! ## Characters -/

namespace Value

/-- The characters that a value holds. -/
def chars : Value → Text
  | verbatim t => t
  | word t => t
  | call f args => f ++ args.flatten

variable {known : Text → Bool} {v : Text} {value : Value}

theorem covers_renderWord (t : Text) : t.Covers (renderWord known t) := by
  unfold renderWord
  split
  · exact Text.covers_refl t
  · exact Text.covers_quote t

theorem covers_renderArgument (t : Text) : t.Covers (renderArgument known t) := by
  unfold renderArgument
  dsimp only
  split
  · exact Text.covers_of_subset (Text.trim_subset t)
  · exact (Text.covers_quote t.trim).mono (Text.trim_subset t)

/-- Host syntax adds printable characters only. -/
theorem covers_render (value : Value) : value.chars.Covers (value.render known) := by
  cases value with
  | verbatim t => exact Text.covers_refl t
  | word t => exact covers_renderWord t
  | call f args =>
    have hargs : ∀ u ∈ args.map (renderArgument known), Text.Covers (f ++ args.flatten) u := by
      intro u hu
      obtain ⟨arg, harg, rfl⟩ := List.mem_map.1 hu
      refine (covers_renderArgument arg).mono fun c hc => ?_
      exact List.mem_append_right f (List.mem_flatten.2 ⟨arg, harg, hc⟩)
    have hcall : Text.Covers (f ++ args.flatten)
        ('(' :: [',', ' '].intercalate (args.map (renderArgument known))) :=
      .cons (.inr (by decide)) (.intercalate (Text.covers_of_isPrintable rfl) hargs)
    exact .append (.append (Text.covers_of_subset (List.subset_append_left _ _)) hcall)
      (Text.covers_of_isPrintable rfl)

/-! ## Forms -/

/-- A cut at commas always leaves the two tokens that are asked of it. -/
theorem ofTrimmed_eq (v : Text) : ofTrimmed v =
    if v.isEmpty then .ok (.verbatim (Text.quote []))
    else if v.isQuoted || v.contains '(' && v.contains ')' || v.isCollection then .ok (.verbatim v)
    else if v.skeleton.contains ',' then v.commaPieces.bind ofTokens
    else ofSpaced v := by
  have hcommas (hcomma : v.skeleton.contains ',' = true) :
      (v.commaPieces.bind fun ts => if 1 < ts.length then ofTokens ts else ofSpaced v) =
        v.commaPieces.bind ofTokens := by
    cases h : v.commaPieces with
    | error f => rfl
    | ok ts =>
      exact if_pos (Text.two_le_length_of_commaPieces (List.contains_iff_mem.1 hcomma) h)
  unfold ofTrimmed
  split
  · rfl
  split
  · rfl
  split
  · next hcomma => exact hcommas hcomma
  · rfl

/-- Closed values are cut into words whether they hold a blank or not. -/
theorem ofSpaced_of_closed (h : v.closed = true) (hne : v.isEmpty = false) :
    ofSpaced v = ofWords v ((v.pieces isBlank).filter fun p => !p.isEmpty) := by
  unfold ofSpaced
  split
  · rw [Text.words_of_closed h]
    rfl
  · next hblank =>
    have hw := Text.words_of_not_any h hne (Bool.not_eq_true _ ▸ hblank)
    rw [Text.words_of_closed h] at hw
    rw [Except.ok.inj hw]
    rfl

theorem ofTrimmed_of_closed (h : v.closed = true) : ofTrimmed v =
    if v.isEmpty then .ok (.verbatim (Text.quote []))
    else if v.isQuoted || v.contains '(' && v.contains ')' || v.isCollection then .ok (.verbatim v)
    else if v.skeleton.contains ',' then ofTokens ((v.pieces (· == ',')).map Text.trim)
    else ofWords v ((v.pieces isBlank).filter fun p => !p.isEmpty) := by
  rw [ofTrimmed_eq]
  split
  · rfl
  · next hne =>
    rw [ofSpaced_of_closed h (Bool.not_eq_true _ ▸ hne), Text.commaPieces_of_closed h]
    rfl

/-- How a trimmed value is read: as nothing, as it stands, as a word, or as a call. -/
inductive Reads (v : Text) : Value → Prop
  | empty : Reads v (.verbatim (Text.quote []))
  | verbatim : Reads v (.verbatim v)
  | word (w : Text) (h : w <+: v) : Reads v (.word w)
  | call (f : Text) (args : List Text) (h : f <+: v) (ha : ∀ a ∈ args, a <:+: v) :
      Reads v (.call f args)

theorem reads_of_ofTokens {ts : List Text} (hv : v.trim = v) (hh : ∀ f r, ts = f :: r → f <+: v)
    (ht : ∀ t ∈ ts, t <:+: v) (h : ofTokens ts = .ok value) : Reads v value := by
  cases ts with
  | nil => cases h
  | cons f args =>
    simp only [ofTokens] at h
    split at h
    · cases h
    · cases h
      exact .call f.trim args (Text.trim_isPrefix_of_isPrefix hv (hh f args rfl))
        fun a ha => ht a (List.mem_cons_of_mem f ha)

theorem reads_of_ofWords {ts : List Text} (hv : v.trim = v) (hh : ∀ f r, ts = f :: r → f <+: v)
    (ht : ∀ t ∈ ts, t <:+: v) (h : ofWords v ts = .ok value) : Reads v value := by
  match ts with
  | [] =>
    cases h
    exact .empty
  | [t] =>
    cases h
    exact .word t (hh t [] rfl)
  | f :: t :: args =>
    simp only [ofWords] at h
    split at h
    · cases h
      exact .verbatim
    · exact reads_of_ofTokens hv hh ht h

theorem reads_of_ofSpaced (hv : v.trim = v) (h : ofSpaced v = .ok value) : Reads v value := by
  unfold ofSpaced at h
  split at h
  · obtain ⟨ws, hwords, hread⟩ := bind_eq_ok_iff.1 h
    exact reads_of_ofWords hv (fun f r hr => Text.words_head_isPrefix hv (hr ▸ hwords))
      (fun t => Text.infix_of_mem_words hwords) hread
  · cases h
    exact .word v List.prefix_rfl

theorem reads_of_ofTrimmed (hv : v.trim = v) (h : ofTrimmed v = .ok value) : Reads v value := by
  rw [ofTrimmed_eq] at h
  split at h
  · cases h
    exact .empty
  split at h
  · cases h
    exact .verbatim
  split at h
  · obtain ⟨ts, hcommas, hread⟩ := bind_eq_ok_iff.1 h
    exact reads_of_ofTokens hv (fun f r hr => Text.commaPieces_head_isPrefix hv (hr ▸ hcommas))
      (fun t => Text.infix_of_mem_commaPieces hcommas) hread
  · exact reads_of_ofSpaced hv h

theorem reads_of_ofText (h : ofText v = .ok value) : Reads v.trim value :=
  reads_of_ofTrimmed (Text.trim_trim v) h

/-- The characters of a value are those of its text, up to the quotes of an empty value. -/
theorem Reads.covers_chars (h : Reads v value) : v.Covers value.chars := by
  cases h with
  | empty => exact Text.covers_of_isPrintable rfl
  | verbatim => exact Text.covers_refl v
  | word w h => exact Text.covers_of_subset h.subset
  | call f args h ha =>
    refine .append (Text.covers_of_subset h.subset) (Text.covers_of_subset fun c hc => ?_)
    obtain ⟨a, hmem, hc⟩ := List.mem_flatten.1 hc
    exact (ha a hmem).subset hc

/-- The host syntax of a value consists of its characters and of printable ones. -/
theorem covers_render_of_ofText (h : ofText v = .ok value) : v.Covers (value.render known) :=
  ((reads_of_ofText h).covers_chars.trans (covers_render value)).mono (Text.trim_subset v)

/-- Host syntax begins as the value does, or with a quote, or with all of what is called. -/
theorem Reads.render_cases (h : Reads v value) (known : Text → Bool) :
    (∃ r, value.render known = '"' :: r) ∨ value.render known <+: v ∨
      ∃ f r, f <+: v ∧ value.render known = f ++ '(' :: r := by
  cases h with
  | empty => exact .inl ⟨_, rfl⟩
  | verbatim => exact .inr (.inl List.prefix_rfl)
  | word w h =>
    rw [render, renderWord]
    split
    · exact .inr (.inl h)
    · exact .inl ⟨_, rfl⟩
  | call f args h ha =>
    exact .inr (.inr ⟨f, [',', ' '].intercalate (args.map (renderArgument known)) ++ [')'], h,
      by simp [render]⟩)

end Value

end KScript
