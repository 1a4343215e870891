import KScript.Sketch
import KScript.Proofs.Text.Cut
import KScript.Proofs.Text.Joining

/-!
# The lines of a sketch

A marked text consists of blank lines, the line that begins with the marker, and the lines behind it.
Its sketch is what follows the marker on its line and the later lines that are no directives.  In
particular the marker is still in front when the directives are gone.
-/

namespace KScript

open Text

namespace Sketch

variable {source l b : Text} {ls ks : List Text}

theorem solid_marker : marker.Solid := by decide

theorem head?_marker_append (t : Text) : (marker ++ t).head? = some '#' := by
  rw [List.head?_append_of_ne_nil marker (by decide)]
  decide

/-- Blanks in front of the marker do not matter. -/
theorem trim_append_marker (hb : b.Blank) (t : Text) :
    Text.trim (b ++ (marker ++ t)) = marker ++ t.trimEnd := by
  rw [trim_append_left hb, solid_marker.trim_append]

/-- A marked text begins with the marker behind blanks. -/
theorem isMarked_iff : isMarked source = true ↔
    ∃ b r : Text, b.Blank ∧ source = b ++ (marker ++ r) := by
  rw [isMarked, List.isPrefixOf_iff_prefix]
  constructor
  · intro h
    obtain ⟨b, hb, hs⟩ := exists_blank_append_trimStart source
    obtain ⟨r, hr⟩ := h.trans (trimEnd_isPrefix source.trimStart)
    exact ⟨b, r, hb, by rw [hr, ← hs]⟩
  · rintro ⟨b, r, hb, rfl⟩
    rw [trim_append_marker hb]
    exact List.prefix_append _ _

/-! ## The line of the marker -/

/-- The lines of a marked text: blank ones, the one on which `l` follows the marker, and `ls`. -/
inductive Opens (l : Text) (ls : List Text) : List Text → Prop
  | mk (blanks : List Text) (b : Text) (hblanks : ∀ k ∈ blanks, k.Blank) (hb : b.Blank) :
      Opens l ls (blanks ++ (b ++ (marker ++ l)) :: ls)

/-- The sketch of a marked text, from what follows the marker and the lines behind it. -/
def ofRemainder (l : Text) (ls : List Text) : Sketch where
  debug := ls.any isDirective
  body := (ofLines (l :: ls.filter fun k => !isDirective k)).trim.lines

/-- The text that opens a sketch: blanks and the marker, before what follows it. -/
theorem Opens.exists_ofLines (h : Opens l ls ks) :
    ∃ b : Text, b.Blank ∧ ofLines ks = b ++ (marker ++ ofLines (l :: ls)) := by
  cases h with
  | mk blanks b hblanks hb =>
    refine ⟨ofLines (blanks ++ [b]), ?_, ?_⟩
    · intro c hc
      rcases mem_ofLines hc with rfl | ⟨k, hk, hc⟩
      · exact isBlank_feed
      · rcases List.mem_append.1 hk with hk | hk
        · exact hblanks k hk c hc
        · exact hb c (List.mem_singleton.1 hk ▸ hc)
    · rw [← ofLines_concat_append_ofLines_cons]
      exact congrArg _ (ofLines_concat_append_ofLines_cons [] marker l ls).symm

theorem not_isDirective_of_blank {k : Text} (h : k.Blank) : isDirective k = false := by
  rw [isDirective, trim_eq_nil_iff.2 h]
  rfl

theorem not_isDirective_of_marker (hb : b.Blank) (l : Text) :
    isDirective (b ++ (marker ++ l)) = false := by
  rw [isDirective, trim_append_marker hb]
  refine beq_eq_false_iff_ne.2 fun h => ?_
  exact absurd (h ▸ List.prefix_append marker l.trimEnd : marker <+: directive) (by decide)

/-- Directives are lines behind the marker. -/
theorem Opens.filter (h : Opens l ls ks) :
    Opens l (ls.filter fun k => !isDirective k) (ks.filter fun k => !isDirective k) := by
  cases h with
  | mk blanks b hblanks hb =>
    have hfilter : blanks.filter (fun k => !isDirective k) = blanks :=
      List.filter_eq_self.2 fun k hk => by simp [not_isDirective_of_blank (hblanks k hk)]
    rw [List.filter_append, hfilter,
      List.filter_cons_of_pos (by simp [not_isDirective_of_marker hb l])]
    exact .mk blanks b hblanks hb

theorem Opens.any_isDirective (h : Opens l ls ks) : ks.any isDirective = ls.any isDirective := by
  cases h with
  | mk blanks b hblanks hb =>
    have hany : blanks.any isDirective = false :=
      List.any_eq_false.2 fun k hk => by simp [not_isDirective_of_blank (hblanks k hk)]
    rw [List.any_append, hany, List.any_cons, not_isDirective_of_marker hb l]
    rfl

/-- A marked text opens with its marker. -/
theorem exists_opens (h : isMarked source = true) :
    ∃ l ls, Opens l ls source.unifyBreaks.lines := by
  obtain ⟨b, r, hb, rfl⟩ := isMarked_iff.1 h
  obtain ⟨blanks, x, hx⟩ := exists_lines_eq_concat b.unifyBreaks
  obtain ⟨l, ls, hl⟩ := exists_lines_eq_cons r.unifyBreaks
  have hmarker : marker.lines = [] ++ [marker] := lines_eq_singleton (by decide)
  have hunify : unifyBreaks (b ++ (marker ++ r)) =
      b.unifyBreaks ++ (marker ++ r.unifyBreaks) := by
    have hhead : (marker ++ r).head? ≠ some '\n' := by
      rw [head?_marker_append]
      decide
    rw [unifyBreaks_append (.inr hhead), unifyBreaks_append (.inl (by decide)),
      unifyBreaks_eq_self (by decide : '\r' ∉ marker)]
  have hblank : ∀ k ∈ b.unifyBreaks.lines, k.Blank := by
    intro k hk c hc
    exact blank_unifyBreaks hb c ((infix_of_mem_lines hk).subset hc)
  rw [hx] at hblank
  obtain ⟨hblanks, hx'⟩ := List.forall_mem_append.1 hblank
  rw [hunify, lines_append hx (lines_append hmarker hl)]
  exact ⟨l, ls, .mk blanks x hblanks (hx' x List.mem_cons_self)⟩

/-- Lines that open with the marker are those of a marked text, whatever its breaks are. -/
theorem isMarked_of_opens (h : Opens l ls source.unifyBreaks.lines) : isMarked source = true := by
  obtain ⟨b, hb, hs⟩ := h.exists_ofLines
  have hstart : source.trimStart.unifyBreaks = marker ++ ofLines (l :: ls) := by
    rw [← trimStart_unifyBreaks, ← ofLines_lines source.unifyBreaks, hs, trimStart_append_left hb,
      solid_marker.trimStart_append]
  have hpre : marker <+: source.trimStart :=
    isPrefix_of_isPrefix_unifyBreaks (by decide) (hstart ▸ List.prefix_append _ _)
  obtain ⟨r, hr⟩ := hpre
  obtain ⟨c, hc, hsource⟩ := exists_blank_append_trimStart source
  exact isMarked_iff.2 ⟨c, r, hc, by rw [hr, ← hsource]⟩

/-- The marker is still in front when the directives are gone. -/
theorem Opens.trim_withoutDirectives (h : Opens l ls source.unifyBreaks.lines) :
    (withoutDirectives source).trim =
      marker ++ (ofLines (l :: ls.filter fun k => !isDirective k)).trimEnd := by
  obtain ⟨b, hb, hs⟩ := h.filter.exists_ofLines
  rw [withoutDirectives, hs, trim_append_marker hb]

/-- The sketch of a marked text. -/
theorem ofText?_of_opens (h : Opens l ls source.unifyBreaks.lines) :
    ofText? source = some (ofRemainder l ls) := by
  have hbody : (unmarked (withoutDirectives source).trim).trim =
      (ofLines (l :: ls.filter fun k => !isDirective k)).trim := by
    rw [h.trim_withoutDirectives, unmarked, dropPrefix?_append, Option.getD_some, trim_trimEnd]
  rw [ofText?, if_pos (isMarked_of_opens h), ofMarked, hbody, h.any_isDirective]
  rfl

/-- The sketch that a marker line and further lines hold, if none of these is a directive. -/
theorem ofText?_ofLines (hne : ls ≠ []) (hf : ∀ k ∈ ls, '\n' ∉ k) (hr : ∀ k ∈ ls, '\r' ∉ k)
    (hd : ∀ k ∈ ls, isDirective k = false) :
    ofText? (Text.ofLines (marker :: ls)) = some ⟨false, (Text.ofLines ls).trim.lines⟩ := by
  have hunify : unifyBreaks (Text.ofLines (marker :: ls)) = Text.ofLines (marker :: ls) := by
    refine unifyBreaks_eq_self fun hc => ?_
    rcases mem_ofLines hc with hc | ⟨k, hk, hc⟩
    · exact absurd hc (by decide)
    · rcases List.mem_cons.1 hk with rfl | hk
      · exact absurd hc (by decide)
      · exact hr k hk hc
  have hlines : (Text.ofLines (marker :: ls)).lines = marker :: ls :=
    lines_ofLines (List.cons_ne_nil _ _) (List.forall_mem_cons.2 ⟨by decide, hf⟩)
  have hopens : Opens [] ls (marker :: ls) := by
    rw [← List.append_nil marker]
    exact .mk [] [] (List.forall_mem_nil _) (List.forall_mem_nil _)
  have hdebug : ls.any isDirective = false := List.any_eq_false.2 fun k hk => by simp [hd k hk]
  have hfilter : ls.filter (fun k => !isDirective k) = ls :=
    List.filter_eq_self.2 fun k hk => by simp [hd k hk]
  have hbody : (Text.ofLines ([] :: ls)).trim = (Text.ofLines ls).trim := by
    obtain ⟨m, ms, rfl⟩ := List.exists_cons_of_ne_nil hne
    have hfeed : Blank ['\n'] := by decide
    rw [ofLines_cons_cons]
    exact trim_append_left hfeed _
  rw [ofText?_of_opens (by rw [hunify, hlines]; exact hopens), ofRemainder, hdebug, hfilter, hbody]

/-- **The marker is taken off, and taken off once.**  A text that begins with the marker, blanks aside,
still does when its breaks are unified, its directives gone and its ends trimmed.  So the marker is always
found where it is taken off, and one marker goes.  What is left, trimmed as one text, is what follows the
marker on its line and, behind it, the later lines that are no directives, in order. -/
theorem marker_kept (h : isMarked source = true) :
    (∃ l ls, Opens l ls source.unifyBreaks.lines) ∧
    ∀ l ls, Opens l ls source.unifyBreaks.lines →
      let t := (withoutDirectives source).trim
      let rest := ofLines (l :: ls.filter fun k => !isDirective k)
      marker <+: t ∧ t.dropPrefix? marker = some rest.trimEnd ∧ t = marker ++ unmarked t ∧
        ofText? source = some ⟨ls.any isDirective, rest.trim.lines⟩ := by
  refine ⟨exists_opens h, fun l ls hopens => ?_⟩
  intro t rest
  have ht : t = marker ++ rest.trimEnd := hopens.trim_withoutDirectives
  have hdrop : t.dropPrefix? marker = some rest.trimEnd := dropPrefix?_eq_some_iff.2 ht
  have hunmarked : unmarked t = rest.trimEnd := by rw [unmarked, hdrop, Option.getD_some]
  exact ⟨⟨rest.trimEnd, ht.symm⟩, hdrop, hunmarked ▸ ht, ofText?_of_opens hopens⟩

/-- Breaks of three kinds, a directive behind the line of the marker, and a second marker on that line. -/
theorem marker_kept_twice :
    let source : Text := "\u3000\r\n #kscript#kscript x\r #debug \n\ny\r\n".toList
    let ls : List Text := [" #debug ".toList, [], ['y'], []]
    isMarked source = true ∧ Opens "#kscript x".toList ls source.unifyBreaks.lines ∧
      dropPrefix? (withoutDirectives source).trim marker = some "#kscript x\n\ny".toList ∧
      ofText? source = some ⟨true, ["#kscript x".toList, [], ['y']]⟩ := by
  intro source ls
  have hlines : source.unifyBreaks.lines =
      [['\u3000']] ++ ([' '] ++ (marker ++ "#kscript x".toList)) :: ls := by decide
  have hopens : Opens "#kscript x".toList ls source.unifyBreaks.lines := by
    rw [hlines]
    exact .mk _ _ (by decide) (by decide)
  have hmarked : isMarked source = true := isMarked_of_opens hopens
  obtain ⟨-, hdrop, -, hsketch⟩ := (marker_kept hmarked).2 _ _ hopens
  exact ⟨hmarked, hopens, hdrop, hsketch⟩

end Sketch

end KScript
