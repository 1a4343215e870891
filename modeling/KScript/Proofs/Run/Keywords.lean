import KScript.Proofs.Run.Chunks
import KScript.Proofs.Statement.Declaring

/-!
# What the keywords decide

A keyword is a name that needs no quotes.  Which names are keywords decides over the quotes of words
and of arguments, and over nothing else: what is read, what fails and what is bound does not depend on
them.  Every word that is looked up occurs in the text, so keywords that do not occur in it have no
effect at all.
-/

namespace KScript

open Text

/-- Two sets of names that have the same members among the names that occur in a text. -/
def Names.AgreeOn (t : Text) (keywords keywords' : Names) : Prop :=
  ∀ n, n <:+: t → (n ∈ keywords ↔ n ∈ keywords')

theorem Names.AgreeOn.mono {t u : Text} {keywords keywords' : Names}
    (h : AgreeOn t keywords keywords') (hu : u <:+: t) : AgreeOn u keywords keywords' :=
  fun n hn => h n (hn.trans hu)

/-! ## Values -/

namespace Value

variable {known known' : Text → Bool} {v : Text} {value : Value}

theorem isPlain_congr {t : Text} (h : known t = known' t) : isPlain known t = isPlain known' t := by
  rw [isPlain, isPlain, h]

theorem renderWord_congr {t : Text} (h : known t = known' t) :
    renderWord known t = renderWord known' t := by
  rw [renderWord, renderWord, isPlain_congr h]

theorem renderArgument_congr {t : Text} (h : known t.trim = known' t.trim) :
    renderArgument known t = renderArgument known' t := by
  simp only [renderArgument, isPlain_congr h]

/-- Only words that occur in the value are looked up. -/
theorem Reads.render_congr (h : Reads v value) (hk : ∀ n, n <:+: v → known n = known' n) :
    value.render known = value.render known' := by
  cases h with
  | empty | verbatim => rfl
  | word w hw => exact renderWord_congr (hk w hw.isInfix)
  | call f args hf ha =>
    have hargs : args.map (renderArgument known) = args.map (renderArgument known') :=
      List.map_congr_left fun a hmem =>
        renderArgument_congr (hk a.trim ((trim_isInfix a).trans (ha a hmem)))
    rw [render, render, hargs]

end Value

/-! ## Statements -/

variable {keywords keywords' : Names} {s : Scope} {t : Text}

theorem Names.AgreeOn.knows_eq (h : AgreeOn t keywords keywords') {n : Text} (hn : n <:+: t) :
    s.knows keywords n = s.knows keywords' n := by
  have hc : keywords.contains n = keywords'.contains n := by
    rw [Bool.eq_iff_iff, Std.ExtTreeSet.contains_iff_mem, Std.ExtTreeSet.contains_iff_mem]
    exact h n hn
  rw [Scope.knows, Scope.knows, hc]

/-- Keywords that do not occur in a statement do not matter to it. -/
theorem Statement.Form.render_congr {st : Statement} (hf : Form t st)
    (h : Names.AgreeOn t keywords keywords') : st.render keywords s = st.render keywords' s := by
  have hvalue {v : Text} {value : Value} (hv : Value.ofText v = .ok value) (hpart : v <:+: t) :
      value.render (s.knows keywords) = value.render (s.knows keywords') :=
    (Value.reads_of_ofText hv).render_congr fun n hn =>
      h.knows_eq (hn.trans ((trim_isInfix v).trans hpart))
  cases hf with
  | opener | blockEnd | controlEnd | control => rfl
  | assign target v value hs ha hv =>
    rw [render_assign, render_assign, hvalue hv (Assignment.value_isInfix ha)]
  | update target v op value hs ha hv =>
    rw [render_update, render_update, hvalue hv (Assignment.value_isInfix ha)]
  | expression value hs ha hv => rw [render, render, hvalue hv List.infix_rfl]

/-! ## Emissions -/

namespace Emission

/-- Whether a statement fails, and how, does not depend on the keywords. -/
theorem diagnostic?_ofItem (keywords keywords' : Names) (s : Scope) (i : Item) :
    (ofItem keywords s i).1.diagnostic? = (ofItem keywords' s i).1.diagnostic? := by
  cases i with
  | verbatim c => rfl
  | statement t =>
    cases h : Statement.ofText t with
    | ok st => rw [ofItem_of_ok keywords s h, ofItem_of_ok keywords' s h]; rfl
    | error f => rw [ofItem_of_error keywords s h, ofItem_of_error keywords' s h]

theorem diagnostics_replay (keywords keywords' : Names) (s : Scope) (es : List (Nat × Item)) :
    (replay keywords s es).filterMap diagnostic? = (replay keywords' s es).filterMap diagnostic? := by
  induction es generalizing s with
  | nil => rfl
  | cons e es ih =>
    rw [replay, replay, List.filterMap_cons, List.filterMap_cons, ih,
      diagnostic?_ofItem keywords keywords']

/-- Keywords that do not occur in a statement do not matter to its emission. -/
theorem ofItem_congr {i : Item} (hi : ∀ t, i.statement? = some t →
      t.trim = t ∧ Names.AgreeOn t keywords keywords') :
    (ofItem keywords s i).1 = (ofItem keywords' s i).1 := by
  cases i with
  | verbatim c => rfl
  | statement t =>
    obtain ⟨ht, hagree⟩ := hi t rfl
    cases h : Statement.ofText t with
    | ok st =>
      rw [ofItem_of_ok keywords s h, ofItem_of_ok keywords' s h,
        (Statement.form_of_ofText ht h).render_congr hagree]
    | error f => rw [ofItem_of_error keywords s h, ofItem_of_error keywords' s h]

theorem replay_congr {es : List (Nat × Item)} (h : ∀ e ∈ es, ∀ t, e.2.statement? = some t →
      t.trim = t ∧ Names.AgreeOn t keywords keywords') :
    replay keywords s es = replay keywords' s es := by
  induction es generalizing s with
  | nil => rfl
  | cons e es ih =>
    obtain ⟨he, hes⟩ := List.forall_mem_cons.1 h
    rw [replay, replay, ofItem_congr he, ih hes]

end Emission

/-! ## Sketches -/

namespace Sketch

variable {source l : Text} {ls ks : List Text} {sketch : Sketch}

/-- What follows the marker and the lines behind it occur in the lines of the text. -/
theorem Opens.exists_isInfix {k : Text} (h : Opens l ls ks) (hk : k ∈ l :: ls) :
    ∃ m ∈ ks, k <:+: m := by
  cases h with
  | mk blanks b hblanks hb =>
    rcases List.mem_cons.1 hk with rfl | hk
    · refine ⟨_, List.mem_append_right blanks List.mem_cons_self, ?_⟩
      exact ((List.suffix_append marker k).trans (List.suffix_append b _)).isInfix
    · exact ⟨k, List.mem_append_right blanks (List.mem_cons_of_mem _ hk), List.infix_rfl⟩

/-- The lines of a sketch occur in the text. -/
theorem isInfix_of_mem_body (h : ofText? source = some sketch) {line : Text}
    (hl : line ∈ sketch.body) : line <:+: source := by
  have hfeed := (not_mem_of_mem_body h hl).1
  obtain ⟨hmarked, -⟩ := Option.ite_none_right_eq_some.1 h
  obtain ⟨l, ls, hopens⟩ := exists_opens hmarked
  obtain rfl : ofRemainder l ls = sketch := Option.some.inj ((ofText?_of_opens hopens).symm.trans h)
  have hjoined : line <:+: ofLines (l :: ls.filter fun k => !isDirective k) :=
    (infix_of_mem_lines hl).trans (trim_isInfix _)
  obtain ⟨k, hk, hline⟩ := exists_isInfix_of_isInfix_ofLines hfeed (List.cons_ne_nil _ _) hjoined
  have hk' : k ∈ l :: ls := List.cons_subset_cons l (List.filter_subset_self ls) hk
  obtain ⟨m, hm, hkm⟩ := hopens.exists_isInfix hk'
  exact isInfix_of_isInfix_unifyBreaks hfeed (hline.trans (hkm.trans (infix_of_mem_lines hm)))

end Sketch

/-! ## Runs -/

namespace Run

open Emission

variable (keywords keywords' : Names) (sketch : Sketch)

theorem scope_keywords :
    (ofSketch keywords sketch).scope = (ofSketch keywords' sketch).scope := by
  rw [scope_ofSketch, scope_ofSketch]

theorem diagnostics_keywords :
    (ofSketch keywords sketch).diagnostics = (ofSketch keywords' sketch).diagnostics := by
  rw [diagnostics, diagnostics, emissions_ofSketch, emissions_ofSketch,
    diagnostics_replay keywords keywords']

/-- Every line has as many emissions as it asks for items. -/
theorem map_length_chunks :
    (ofSketch keywords sketch).chunks.map List.length =
      sketch.body.map fun line => (Item.ofLine line).length := by
  refine List.ext_getElem? fun i => ?_
  rw [List.getElem?_map, List.getElem?_map, getElem?_chunks, Option.map_map]
  congr 1
  funext line
  exact length_carry _ _ _

theorem length_emissions :
    (ofSketch keywords sketch).emissions.length = (ofSketch keywords' sketch).emissions.length := by
  rw [emissions, emissions, List.length_flatten, List.length_flatten, map_length_chunks,
    map_length_chunks]

variable {keywords keywords' sketch}

/-- Keywords that do not occur in a text do not matter to its run. -/
theorem emissions_eq_of_agreeOn {source : Text} (hsketch : Sketch.ofText? source = some sketch)
    (h : Names.AgreeOn source keywords keywords') :
    (ofSketch keywords sketch).emissions = (ofSketch keywords' sketch).emissions := by
  rw [emissions_ofSketch, emissions_ofSketch]
  refine replay_congr fun ⟨k, i⟩ he t ht => ?_
  obtain ⟨-, -, line, hline, hi⟩ := Sketch.mem_schedule he
  cases i with
  | verbatim c => cases ht
  | statement u =>
    cases ht
    obtain ⟨-, htrim, hpart⟩ := Item.statement_of_mem_ofLine hi
    exact ⟨htrim, h.mono
      (hpart.trans (Sketch.isInfix_of_mem_body hsketch (List.mem_of_getElem? hline)))⟩

end Run

theorem HostScript.fromSketch_ofRun (r : Run) : (ofRun r).fromSketch = true := rfl

/-- Scripts have as many lines, whatever the keywords are. -/
theorem HostScript.length_lines (keywords keywords' : Names) (source : Text) :
    (ofText keywords source).code.lines.length = (ofText keywords' source).code.lines.length := by
  cases h : Sketch.ofText? source with
  | none => simp [ofText, Run.ofText?, h]
  | some sketch =>
    have hlength := Run.length_emissions keywords keywords' sketch
    rw [ofText_of_sketch keywords h, ofText_of_sketch keywords' h, ofRun, ofRun]
    by_cases hne : (Run.ofSketch keywords sketch).emissions = []
    · have hne' : (Run.ofSketch keywords' sketch).emissions = [] := by
        rw [← List.length_eq_zero_iff, ← hlength, hne, List.length_nil]
      rw [Run.codeLines, Run.codeLines, hne, hne']
    · have hne' : (Run.ofSketch keywords' sketch).emissions ≠ [] := by
        rwa [ne_eq, ← List.length_eq_zero_iff, ← hlength, List.length_eq_zero_iff]
      rw [Run.lines_ofLines_codeLines keywords h hne, Run.lines_ofLines_codeLines keywords' h hne',
        Run.codeLines, Run.codeLines, List.length_map, List.length_map, hlength]

/-! ## Sessions -/

namespace Session

/-- **Keywords decide over quotes only.**  Two sessions that differ in their keywords find the same
failures and the same names, emit as much for every line and as many lines of code, and differ in
nothing else afterwards.  Keywords that do not occur in the text do not matter at all. -/
theorem keywords_only_quote (s : Session) (keywords : Names) (source : Text) :
    let one := s.submit source
    let other := { s with keywords := keywords }.submit source
    (one.1.fromSketch = other.1.fromSketch ∧ one.1.diagnostics = other.1.diagnostics ∧
      one.1.boundNames = other.1.boundNames) ∧
    other.2.2 = { one.2.2 with keywords := keywords } ∧
    ((∀ sketch, Sketch.ofText? source = some sketch →
        (Run.ofSketch s.keywords sketch).chunks.map List.length =
          (Run.ofSketch keywords sketch).chunks.map List.length) ∧
      one.1.code.lines.length = other.1.code.lines.length) ∧
    (Names.AgreeOn source s.keywords keywords → one.1 = other.1 ∧ one.2.1 = other.2.1) := by
  intro one other
  have hchunks (sketch : Sketch) : (Run.ofSketch s.keywords sketch).chunks.map List.length =
      (Run.ofSketch keywords sketch).chunks.map List.length := by
    rw [Run.map_length_chunks, Run.map_length_chunks]
  have hlines := HostScript.length_lines s.keywords keywords source
  cases h : Sketch.ofText? source with
  | none =>
    have hmarked : Sketch.isMarked source = false := by
      by_contra hm
      simp [Sketch.ofText?, hm] at h
    have hone : one = _ := s.submit_of_not_isMarked hmarked
    have hother : other = _ := { s with keywords := keywords }.submit_of_not_isMarked hmarked
    rw [hone, hother]
    exact ⟨⟨rfl, rfl, rfl⟩, rfl, ⟨fun _ hs => absurd hs.symm (Option.some_ne_none _), rfl⟩,
      fun _ => ⟨rfl, rfl⟩⟩
  | some sketch =>
    have hone : one = _ := s.submit_of_sketch h
    have hother : other = _ := { s with keywords := keywords }.submit_of_sketch h
    have hscope := Run.scope_keywords s.keywords keywords sketch
    have hdiagnostics := Run.diagnostics_keywords s.keywords keywords sketch
    refine ⟨?_, ?_, ⟨fun sketch _ => hchunks sketch, hlines⟩, fun hagree => ?_⟩
    · rw [hone, hother]
      refine ⟨(HostScript.fromSketch_ofRun _).trans (HostScript.fromSketch_ofRun _).symm,
        hdiagnostics, ?_⟩
      rw [HostScript.ofRun, HostScript.ofRun, hscope]
    · rw [hone, hother, hscope, hdiagnostics]
    · have hemissions := Run.emissions_eq_of_agreeOn h hagree
      rw [hone, hother, HostScript.ofRun, HostScript.ofRun, Run.records, Run.records,
        Run.summary, Run.summary, Run.codeLines, Run.codeLines, hscope, hdiagnostics, hemissions]
      exact ⟨rfl, rfl⟩

/-- A word that is quoted unless it is a keyword, beside a statement that fails. -/
theorem keywords_only_quote_mixed :
    let source : Text := "#kscript\nsay hi; , 2".toList
    let hi : Names := .ofList ["hi".toList]
    let ho : Names := .ofList ["ho".toList]
    ((start ∅).submit source).1.diagnostics = ((start hi).submit source).1.diagnostics ∧
      ((start ∅).submit source).1.code ≠ ((start hi).submit source).1.code ∧
      Names.AgreeOn source ∅ ho ∧
      ((start ∅).submit source).1 = ((start ho).submit source).1 := by
  intro source hi ho
  have hho : ¬ "ho".toList <:+: source := by decide
  have hagree : Names.AgreeOn source ∅ ho := by
    intro n hn
    rw [Names.mem_ofList, List.mem_singleton]
    exact iff_of_false Std.ExtTreeSet.not_mem_empty fun he => hho (he ▸ hn)
  have hcode : ((start ∅).submit source).1.code ≠ ((start hi).submit source).1.code := by decide
  exact ⟨(keywords_only_quote (start ∅) hi source).1.2.1, hcode, hagree,
    ((keywords_only_quote (start ∅) ho source).2.2.2 hagree).1⟩

end Session

end KScript
