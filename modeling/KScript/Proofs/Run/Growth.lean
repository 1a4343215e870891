import KScript.Proofs.Run.BoundNames
import KScript.Proofs.Run.Tracing

/-!
# Growing sketches

What is appended to a marked text, behind a break, only adds to its script: the code that was there
stays in front, and so do the diagnostics, and no name is lost.  The one line that can change is the
last one, which may get back the blanks that were trimmed at the end of the text, and it shows them
only if it is a comment.
-/

namespace KScript

open Text

/-! ## The lines of a growing sketch -/

namespace Sketch

variable {l : Text} {ls ks : List Text} {source : Text}

/-- The lines of a sketch and those after text was appended: either there was nothing but an empty
line, or the last line has got blanks and more lines stand behind it. -/
inductive Grows : List Text → List Text → Prop
  | empty (ms : List Text) : Grows [[]] ms
  | behind (ks : List Text) (x e : Text) (ms : List Text) (he : e.Blank) :
      Grows (ks ++ [x]) (ks ++ (x ++ e) :: ms)

theorem Opens.append (h : Opens l ls ks) (ms : List Text) : Opens l (ls ++ ms) (ks ++ ms) := by
  cases h with
  | mk blanks b hblanks hb =>
    rw [List.append_assoc, List.cons_append]
    exact .mk blanks b hblanks hb

/-- The empty line behind a break at the end is no line of the marker. -/
theorem Opens.of_concat_nil (h : Opens l ls (ks ++ [[]])) :
    ∃ ms, ls = ms ++ [[]] ∧ Opens l ms ks := by
  generalize hall : ks ++ [[]] = all at h
  cases h with
  | mk blanks b hblanks hb =>
    rcases List.eq_nil_or_concat ls with rfl | ⟨ms, x, rfl⟩
    · obtain ⟨-, hx⟩ := List.append_inj' hall rfl
      have hnil : b ++ (marker ++ l) = [] := (List.cons.inj hx).1.symm
      exact absurd (List.append_eq_nil_iff.1 (List.append_eq_nil_iff.1 hnil).2).1 (by decide)
    · rw [List.concat_eq_append, ← List.cons_append, ← List.append_assoc] at hall
      obtain ⟨rfl, hx⟩ := List.append_inj' hall rfl
      obtain rfl := (List.cons.inj hx).1
      exact ⟨ms, List.concat_eq_append, .mk blanks b hblanks hb⟩

/-- A break at the end of a text adds no line to its sketch. -/
theorem body_ofRemainder_concat_nil (l : Text) (ls : List Text) :
    (ofRemainder l (ls ++ [[]])).body = (ofRemainder l ls).body := by
  have hfilter : (ls ++ [[]]).filter (fun k => !isDirective k) =
      (ls.filter fun k => !isDirective k) ++ [[]] := by
    rw [List.filter_append]
    rfl
  have hfeed : Blank ['\n'] := by decide
  rw [ofRemainder, ofRemainder, hfilter, ← List.cons_append,
    ofLines_append (List.cons_ne_nil _ _) (List.cons_ne_nil _ _), ofLines_singleton,
    trim_append_right hfeed]

/-- The lines behind the marker grow, and so does the sketch. -/
theorem grows_ofRemainder (l : Text) (ls ms : List Text) :
    Grows (ofRemainder l ls).body (ofRemainder l (ls ++ ms)).body := by
  rw [ofRemainder, ofRemainder, List.filter_append, ← List.cons_append]
  generalize l :: ls.filter (fun k => !isDirective k) = old
  -- A sketch without text has an empty line, and this line may get any text.
  by_cases hb : (Text.ofLines old).Blank
  · rw [trim_eq_nil_iff.2 hb]
    exact .empty _
  · have hold : old ≠ [] := by
      rintro rfl
      exact hb (List.forall_mem_nil _)
    cases ms.filter fun k => !isDirective k with
    | nil =>
      obtain ⟨ks, x, hx⟩ := exists_lines_eq_concat (Text.ofLines old).trim
      simpa [hx] using Grows.behind ks x [] [] (List.forall_mem_nil _)
    | cons m new =>
      obtain ⟨ks, x, e, more, hx, hx', he⟩ :=
        exists_lines_trim_append_cons hb (Text.ofLines (m :: new))
      rw [ofLines_append hold (List.cons_ne_nil m new), hx, hx']
      exact .behind ks x e more he

/-- Text that is appended to a marked text makes its sketch grow. -/
theorem exists_grows (h : isMarked source = true) (u : Text) :
    ∃ sketch sketch', ofText? source = some sketch ∧
      ofText? (source ++ '\n' :: u) = some sketch' ∧ Grows sketch.body sketch'.body := by
  obtain ⟨l, ls, hopens⟩ := exists_opens h
  obtain ⟨ks, hks, hlines⟩ := lines_unifyBreaks_append_cons source u
  -- If the text ends in a CR, the break behind it is the same break, and its last line is gone.
  rcases hks with hks | hks
  · refine ⟨_, _, ofText?_of_opens hopens, ofText?_of_opens (hlines ▸ ?_),
      grows_ofRemainder l ls u.unifyBreaks.lines⟩
    exact (hks ▸ hopens).append _
  · obtain ⟨ms, rfl, hms⟩ := (hks ▸ hopens).of_concat_nil
    refine ⟨_, _, ofText?_of_opens hopens, ofText?_of_opens (hlines ▸ hms.append _), ?_⟩
    rw [body_ofRemainder_concat_nil]
    exact grows_ofRemainder l ms u.unifyBreaks.lines

end Sketch

/-! ## The emissions of a growing sketch -/

namespace Emission

/-- The emissions of a run and those after its sketch has grown: there was nothing but an empty line,
or there are more of them, or the last one was a copied line and has got longer. -/
inductive Grows : List Emission → List Emission → Prop
  | empty (fs : List Emission) : Grows [.verbatim []] fs
  | behind (es fs : List Emission) : Grows es (es ++ fs)
  | copied (es : List Emission) (x e : Text) (fs : List Emission) :
      Grows (es ++ [.verbatim x]) (es ++ .verbatim (x ++ e) :: fs)

variable {es fs : List Emission}

theorem Grows.code_isPrefix (h : Grows es fs) :
    Text.ofLines (es.map code) <+: Text.ofLines (fs.map code) := by
  cases h with
  | empty fs => exact List.nil_prefix
  | behind es fs =>
    rw [List.map_append]
    exact ofLines_isPrefix_append _ _
  | copied es x e fs =>
    rw [List.map_append, List.map_append]
    exact ofLines_concat_isPrefix (es.map code) x e (fs.map code)

/-- What is read off all emissions but copied lines is extended. -/
theorem Grows.filterMap_isPrefix {β : Type} {f : Emission → Option β}
    (hf : ∀ c, f (.verbatim c) = none) (h : Grows es fs) : es.filterMap f <+: fs.filterMap f := by
  cases h with
  | empty fs =>
    rw [List.filterMap_cons_none (hf [])]
    exact List.nil_prefix
  | behind es fs =>
    rw [List.filterMap_append]
    exact List.prefix_append _ _
  | copied es x e fs =>
    rw [List.filterMap_append, List.filterMap_append, List.filterMap_cons_none (hf x),
      List.filterMap_cons_none (hf (x ++ e)), List.filterMap_nil, List.append_nil]
    exact List.prefix_append _ _

/-- The emissions of a sketch grow with it. -/
theorem grows_replay (keywords : Names) (s : Scope) {body body' : List Text}
    (h : Sketch.Grows body body') :
    Grows (replay keywords s (schedule 1 body)) (replay keywords s (schedule 1 body')) := by
  cases h with
  | empty ms => exact .empty _
  | behind ks x e ms he =>
    rw [schedule_append, schedule_append, schedule, schedule, schedule, List.append_nil]
    rcases Item.ofLine_append_blank he with hsame | ⟨hx, hxe⟩
    · rw [hsame, ← List.append_assoc, replay_append s (_ ++ _)]
      exact .behind _ _
    · rw [hx, hxe, replay_append, replay_append]
      exact .copied _ x e _

end Emission

/-! ## Scripts -/

namespace HostScript

variable {source : Text}

/-- **Appending text never changes what was generated before.**  The longer text is a sketch too.
Its code begins with the code of the shorter one, its diagnostics with those of the shorter one, and
every name that was bound still is. -/
theorem appending_extends (keywords : Names) (h : Sketch.isMarked source = true) (u : Text) :
    (ofText keywords (source ++ '\n' :: u)).fromSketch = true ∧
      (ofText keywords source).code <+: (ofText keywords (source ++ '\n' :: u)).code ∧
      (ofText keywords source).diagnostics <+:
        (ofText keywords (source ++ '\n' :: u)).diagnostics ∧
      (ofText keywords source).boundNames ⊆ (ofText keywords (source ++ '\n' :: u)).boundNames := by
  obtain ⟨sketch, sketch', hs, hs', hgrows⟩ := Sketch.exists_grows h u
  have hes : Emission.Grows (Run.ofSketch keywords sketch).emissions
      (Run.ofSketch keywords sketch').emissions := by
    rw [Run.emissions_eq_replay, Run.emissions_eq_replay]
    exact Emission.grows_replay keywords Scope.empty hgrows
  have hst : sketch.statements ⊆ sketch'.statements := by
    rw [← Run.statements_ofSketch keywords, ← Run.statements_ofSketch keywords]
    exact (hes.filterMap_isPrefix fun _ => rfl).subset
  refine ⟨?_, ?_, ?_, ?_⟩
  · rw [ofText_of_sketch keywords hs']
    rfl
  · rw [ofText_of_sketch keywords hs, ofText_of_sketch keywords hs']
    exact hes.code_isPrefix
  · rw [ofText_of_sketch keywords hs, ofText_of_sketch keywords hs']
    exact hes.filterMap_isPrefix fun _ => rfl
  · intro n hn
    obtain ⟨t, ht, hb⟩ := (mem_boundNames_iff keywords hs).1 hn
    exact (mem_boundNames_iff keywords hs').2 ⟨t, hst ht, hb⟩

/-- A comment gets back the blanks behind it, and a literal that is left open fails on its own. -/
theorem appending_extends_comment :
    let source := "#kscript\nx = 1; = 2\n// note  \r".toList
    let longer := source ++ '\n' :: "#debug\ny = 'open".toList
    Sketch.isMarked source = true ∧ (ofText ∅ longer).fromSketch = true ∧
      (ofText ∅ source).code <+: (ofText ∅ longer).code ∧
      (ofText ∅ source).diagnostics <+: (ofText ∅ longer).diagnostics ∧
      (ofText ∅ source).boundNames ⊆ (ofText ∅ longer).boundNames := by
  intro source longer
  have h : Sketch.isMarked source = true := by decide
  exact ⟨h, appending_extends ∅ h _⟩

end HostScript

end KScript
