import KScript.Session
import KScript.Proofs.Run.Items
import KScript.Proofs.Sketch
import KScript.Proofs.Text.Layout
import Mathlib.Data.List.Forall2

/-!
# Indentation and line breaks

A sketch is read line by line, and of a line that is no comment only the trimmed form counts.  Blanks
around the lines and the ways in which the lines are ended therefore show nowhere.  Trimming the whole
text first takes the same lines away from both texts, so it does not bring a difference to light.
-/

namespace KScript

open Text List

/-- Two lines that differ by blanks around them, or are the same comment. -/
structure Reindents (l k : Text) : Prop where
  trim_eq : l.trim = k.trim
  eq_of_comment : Item.commentMark <+: l.trim → l = k

namespace Reindents

variable {l k : Text} {ls ks : List Text}

theorem of_blank (hl : l.Blank) (hk : k.Blank) : Reindents l k where
  trim_eq := by rw [trim_eq_nil_iff.2 hl, trim_eq_nil_iff.2 hk]
  eq_of_comment h := absurd hl (Item.not_blank_of_comment h)

theorem blank_iff (h : Reindents l k) : l.Blank ↔ k.Blank := by
  rw [← trim_eq_nil_iff, h.trim_eq, trim_eq_nil_iff]

theorem trimStart (h : Reindents l k) : Reindents l.trimStart k.trimStart where
  trim_eq := by rw [trim_trimStart, trim_trimStart, h.trim_eq]
  eq_of_comment hc := by rw [h.eq_of_comment (trim_trimStart l ▸ hc)]

theorem trimEnd (h : Reindents l k) : Reindents l.trimEnd k.trimEnd where
  trim_eq := by rw [trim_trimEnd, trim_trimEnd, h.trim_eq]
  eq_of_comment hc := by rw [h.eq_of_comment (trim_trimEnd l ▸ hc)]

theorem isDirective_eq (h : Reindents l k) : Sketch.isDirective l = Sketch.isDirective k := by
  rw [Sketch.isDirective, h.trim_eq, Sketch.isDirective]

/-- Lines that differ by blanks around them ask for the same items. -/
theorem ofLine_eq (h : Reindents l k) : Item.ofLine l = Item.ofLine k := by
  have hasks := Item.asks_ofLine l
  generalize Item.ofLine l = is at hasks
  symm
  cases hasks with
  | blank hb => exact (Item.Asks.blank (h.blank_iff.1 hb)).ofLine_eq
  | comment hc =>
    obtain rfl := h.eq_of_comment hc
    exact (Item.Asks.comment hc).ofLine_eq
  | pieces hb hc hcut hclosed =>
    rw [Item.cutStatements, h.trim_eq]
    rw [h.trim_eq] at hc hcut hclosed
    exact (Item.Asks.pieces (mt h.blank_iff.2 hb) hc hcut hclosed).ofLine_eq
  | whole hb hc hcut =>
    rw [h.trim_eq] at hc hcut ⊢
    exact (Item.Asks.whole (mt h.blank_iff.2 hb) hc hcut).ofLine_eq

theorem map_ofLine_eq (h : Forall₂ Reindents ls ks) : ls.map Item.ofLine = ks.map Item.ofLine := by
  induction h with
  | nil => rfl
  | cons hlk _ ih => rw [map_cons, map_cons, hlk.ofLine_eq, ih]

/-! ## Trimming whole texts -/

theorem forall_blank_iff (h : Forall₂ Reindents ls ks) :
    (∀ l ∈ ls, l.Blank) ↔ ∀ k ∈ ks, k.Blank := by
  induction h with
  | nil => exact Iff.rfl
  | cons hlk h ih => rw [forall_mem_cons, forall_mem_cons, hlk.blank_iff, ih]

/-- Trimming the start of a text takes away the same lines. -/
theorem forall₂_lines_trimStart (h : Forall₂ Reindents ls ks) (hls : ∀ l ∈ ls, '\n' ∉ l)
    (hks : ∀ k ∈ ks, '\n' ∉ k) :
    Forall₂ Reindents (Text.trimStart (ofLines ls)).lines (Text.trimStart (ofLines ks)).lines := by
  induction h with
  | nil => exact .cons (of_blank (forall_mem_nil _) (forall_mem_nil _)) .nil
  | @cons l k ls ks hlk h ih =>
    rw [forall_mem_cons] at hls hks
    by_cases hb : l.Blank
    · rw [trimStart_ofLines_cons_of_blank hb, trimStart_ofLines_cons_of_blank (hlk.blank_iff.1 hb)]
      exact ih hls.2 hks.2
    · have hstart {t : Text} (ht : '\n' ∉ t) : '\n' ∉ t.trimStart :=
        fun hc => ht ((trimStart_suffix t).subset hc)
      rw [trimStart_ofLines_cons hb, trimStart_ofLines_cons (mt hlk.blank_iff.2 hb),
        lines_ofLines (cons_ne_nil _ _) (forall_mem_cons.2 ⟨hstart hls.1, hls.2⟩),
        lines_ofLines (cons_ne_nil _ _) (forall_mem_cons.2 ⟨hstart hks.1, hks.2⟩)]
      exact .cons hlk.trimStart h

/-- Trimming the end of a text takes away the same lines. -/
theorem forall₂_lines_trimEnd (h : Forall₂ Reindents ls ks) (hls : ∀ l ∈ ls, '\n' ∉ l)
    (hks : ∀ k ∈ ks, '\n' ∉ k) :
    Forall₂ Reindents (Text.trimEnd (ofLines ls)).lines (Text.trimEnd (ofLines ks)).lines := by
  induction h with
  | nil => exact .cons (of_blank (forall_mem_nil _) (forall_mem_nil _)) .nil
  | @cons l k ls ks hlk h ih =>
    rw [forall_mem_cons] at hls hks
    by_cases hb : ∀ m ∈ ls, m.Blank
    · have hend {t : Text} (ht : '\n' ∉ t) : t.trimEnd.lines = [t.trimEnd] :=
        lines_eq_singleton fun hc => ht ((trimEnd_isPrefix t).subset hc)
      rw [trimEnd_ofLines_cons_of_blank l hb,
        trimEnd_ofLines_cons_of_blank k ((forall_blank_iff h).1 hb), hend hls.1, hend hks.1]
      exact .cons hlk.trimEnd .nil
    · rw [trimEnd_ofLines_cons l hb, trimEnd_ofLines_cons k (mt (forall_blank_iff h).2 hb),
        lines_append_cons, lines_append_cons, lines_eq_singleton hls.1, lines_eq_singleton hks.1]
      exact .cons hlk (ih hls.2 hks.2)

/-- Trimming a text takes away the same lines. -/
theorem forall₂_lines_trim (h : Forall₂ Reindents ls ks) (hls : ∀ l ∈ ls, '\n' ∉ l)
    (hks : ∀ k ∈ ks, '\n' ∉ k) :
    Forall₂ Reindents (Text.trim (ofLines ls)).lines (Text.trim (ofLines ks)).lines := by
  have hstart := forall₂_lines_trimStart h hls hks
  have hend := forall₂_lines_trimEnd hstart (fun _ => not_mem_of_mem_lines)
    fun _ => not_mem_of_mem_lines
  rwa [ofLines_lines, ofLines_lines] at hend

end Reindents

/-! ## Runs over the same items -/

theorem carry_map {α β γ σ : Type} (f : σ → β → γ × σ) (g : α → β) (s : σ) (as : List α) :
    carry f s (as.map g) = carry (fun s a => f s (g a)) s as := by
  induction as generalizing s with
  | nil => rfl
  | cons a as ih => rw [List.map_cons, carry_cons, carry_cons, ih]

/-- A run is determined by what the lines ask for. -/
theorem Run.ofSketch_congr (keywords : Names) {sketch sketch' : Sketch}
    (hdebug : sketch.debug = sketch'.debug)
    (hbody : sketch.body.map Item.ofLine = sketch'.body.map Item.ofLine) :
    ofSketch keywords sketch = ofSketch keywords sketch' := by
  have hlines (s : Scope) (ls : List Text) : Emission.ofLines keywords s ls =
      carry (fun s is => carry (Emission.ofItem keywords) s.nextLine is) s (ls.map Item.ofLine) :=
    (carry_map _ Item.ofLine s ls).symm
  rw [ofSketch, ofSketch, hlines, hlines, hbody, hdebug]

namespace Sketch

variable {l k : Text} {ls ks : List Text}

/-- What stands behind the marker may be indented in any way. -/
theorem ofRemainder_reindents (hl : l.Blank) (hk : k.Blank) (h : Forall₂ Reindents ls ks)
    (hls : ∀ m ∈ l :: ls, '\n' ∉ m) (hks : ∀ m ∈ k :: ks, '\n' ∉ m) :
    (ofRemainder l ls).debug = (ofRemainder k ks).debug ∧
      Forall₂ Reindents (ofRemainder l ls).body (ofRemainder k ks).body := by
  rw [forall_mem_cons] at hls hks
  constructor
  · change ls.any isDirective = ks.any isDirective
    induction h with
    | nil => rfl
    | cons hlk h ih =>
      rw [forall_mem_cons] at hls hks
      rw [any_cons, any_cons, hlk.isDirective_eq, ih ⟨hls.1, hls.2.2⟩ ⟨hks.1, hks.2.2⟩]
  · have hfilter : Forall₂ Reindents (ls.filter fun m => !isDirective m)
        (ks.filter fun m => !isDirective m) :=
      rel_filter (fun _ _ hlk => by simp only [hlk.isDirective_eq]) h
    exact Reindents.forall₂_lines_trim (.cons (.of_blank hl hk) hfilter)
      (forall_mem_cons.2 ⟨hls.1, fun m hm => hls.2 m (mem_of_mem_filter hm)⟩)
      (forall_mem_cons.2 ⟨hks.1, fun m hm => hks.2 m (mem_of_mem_filter hm)⟩)

/-- A line that is the marker between blanks opens a sketch. -/
theorem exists_opens_of_trim_eq {m : Text} {blanks : List Text} (hblanks : ∀ b ∈ blanks, b.Blank)
    (hm : m.trim = marker) :
    ∃ l : Text, l.Blank ∧ (∀ c ∈ l, c ∈ m) ∧ ∀ ls, Opens l ls (blanks ++ m :: ls) := by
  obtain ⟨b, e, hb, he, hbe⟩ := exists_blank_append_trim_append_blank m
  rw [hm] at hbe
  refine ⟨e, he, ?_, ?_⟩
  · intro c hc
    rw [hbe]
    exact mem_append_right b (mem_append_right marker hc)
  · intro ls
    rw [hbe]
    exact .mk blanks b hblanks hb

end Sketch

/-! ## Layouts of a sketch -/

/-- Whether the first line that is not blank is the marker. -/
def LineLayout.IsSketch (v : LineLayout) : Prop :=
  ∃ blanks m ls, v.lines = blanks ++ m :: ls ∧ (∀ b ∈ blanks, b.Blank) ∧ m.trim = Sketch.marker

/-- A relation between lists falls apart where one of them does. -/
theorem exists_of_forall₂_append_cons {α β : Type} {R : α → β → Prop} {as bs : List α} {a : α}
    {cs : List β} (h : Forall₂ R (as ++ a :: bs) cs) :
    ∃ as' a' bs', cs = as' ++ a' :: bs' ∧ Forall₂ R as as' ∧ R a a' ∧ Forall₂ R bs bs' := by
  induction as generalizing cs with
  | nil =>
    obtain ⟨a', bs', ha, hbs, rfl⟩ := forall₂_cons_left_iff.1 h
    exact ⟨[], a', bs', rfl, .nil, ha, hbs⟩
  | cons x as ih =>
    obtain ⟨y, cs, hxy, hrest, rfl⟩ := forall₂_cons_left_iff.1 h
    obtain ⟨as', a', bs', rfl, has, ha, hbs⟩ := ih hrest
    exact ⟨y :: as', a', bs', rfl, .cons hxy has, ha, hbs⟩

/-- Two layouts whose lines differ by blanks around them hold sketches that do. -/
theorem LineLayout.exists_sketches {v w : LineLayout} (hv : v.IsSketch)
    (h : Forall₂ Reindents v.lines w.lines) :
    ∃ sketch sketch', Sketch.ofText? v.text = some sketch ∧
      Sketch.ofText? w.text = some sketch' ∧ sketch.debug = sketch'.debug ∧
        Forall₂ Reindents sketch.body sketch'.body := by
  obtain ⟨blanks, m, ls, hls, hblanks, hm⟩ := hv
  have hv : ∀ l ∈ v.lines, '\n' ∉ l := v.no_feed
  have hw : ∀ l ∈ w.lines, '\n' ∉ l := w.no_feed
  rw [hls] at h
  obtain ⟨blanks', m', ls', hls', hblanks', hmm, h⟩ := exists_of_forall₂_append_cons h
  rw [hls, forall_mem_append, forall_mem_cons] at hv
  rw [hls', forall_mem_append, forall_mem_cons] at hw
  obtain ⟨l, hl, hlm, hopens⟩ := Sketch.exists_opens_of_trim_eq hblanks hm
  obtain ⟨k, hk, hkm, hopens'⟩ := Sketch.exists_opens_of_trim_eq
    ((Reindents.forall_blank_iff hblanks').1 hblanks) (hmm.trim_eq ▸ hm)
  have hreindents := Sketch.ofRemainder_reindents hl hk h
    (forall_mem_cons.2 ⟨fun hc => hv.2.1 (hlm _ hc), hv.2.2⟩)
    (forall_mem_cons.2 ⟨fun hc => hw.2.1 (hkm _ hc), hw.2.2⟩)
  refine ⟨_, _, Sketch.ofText?_of_opens ?_, Sketch.ofText?_of_opens ?_, hreindents⟩
  · rw [v.lines_unifyBreaks_text, hls]
    exact hopens ls
  · rw [w.lines_unifyBreaks_text, hls']
    exact hopens' ls'

namespace Session

/-- **Indentation and line breaks do not matter.**  Two texts with the same lines up to blanks around
them, comments apart, have the same script, are reported alike and leave the same session, whatever
ends their lines. -/
theorem layout_does_not_matter (s : Session) {v w : LineLayout} (hv : v.IsSketch)
    (h : Forall₂ Reindents v.lines w.lines) :
    s.submit v.text = s.submit w.text ∧ (s.submit v.text).1.fromSketch = true := by
  obtain ⟨sketch, sketch', hsketch, hsketch', hdebug, hbody⟩ := v.exists_sketches hv h
  have hitems : sketch.body.map Item.ofLine = sketch'.body.map Item.ofLine :=
    Reindents.map_ofLine_eq hbody
  rw [s.submit_of_sketch hsketch, s.submit_of_sketch hsketch',
    Run.ofSketch_congr s.keywords hdebug hitems]
  exact ⟨rfl, rfl⟩

/-- A directive, a statement that fails and a comment, indented by several blanks that end no line. -/
theorem layout_does_not_matter_mixed :
    let s := Session.start ∅
    let v : LineLayout := ⟨[([], .cr), ("#kscript".toList, .crlf), ("#debug".toList, .cr),
      ("  ".toList, .lf), ("\t// note ".toList, .crlf)], "  x = 1; = 2".toList,
      by decide, by decide, by decide⟩
    let w : LineLayout := ⟨[("\u2028".toList, .lf), (" #kscript\u0085".toList, .lf),
      ("#debug ".toList, .lf), ([], .lf), ("\t// note ".toList, .cr)], "\x0bx = 1; = 2 ".toList,
      by decide, by decide, by decide⟩
    v.IsSketch ∧ Forall₂ Reindents v.lines w.lines ∧ s.submit v.text = s.submit w.text ∧
      (s.submit v.text).1.fromSketch = true := by
  intro s v w
  have hv : v.IsSketch := ⟨[[]], "#kscript".toList, _, rfl, by decide, by decide⟩
  have h : Forall₂ Reindents v.lines w.lines :=
    .cons ⟨by decide, by decide⟩ (.cons ⟨by decide, by decide⟩ (.cons ⟨by decide, by decide⟩
      (.cons ⟨by decide, by decide⟩ (.cons ⟨by decide, by decide⟩
        (.cons ⟨by decide, by decide⟩ .nil)))))
  exact ⟨hv, h, layout_does_not_matter s hv h⟩

end Session

end KScript
