import KScript.Proofs.Statement.Declaring
import KScript.Proofs.Value

/-!
# Values that cannot be read

A value fails where it is cut, for one of two reasons: the cut finds a literal that is left open, or
nothing stands in front of the first comma.  Which names are known plays no part in it.
-/

namespace KScript

open Text

namespace Text

variable {c : Char} {p v : Text} {ps : List Text}

/-- The first character of a text is structural unless a scan acts on it. -/
theorem mem_skeleton_of_head? (hc : Scan.reacts c = false) (h : v.head? = some c) : c ∈ v.skeleton := by
  obtain ⟨r, rfl⟩ := List.head?_eq_some_iff.1 h
  exact mem_skeleton_of_structural (a := []) (Scan.structural_iff.2 ⟨rfl, hc⟩) r

/-- What begins a trimmed text is blank only if it is empty. -/
theorem trim_ne_nil_of_isPrefix (hv : v.trim = v) (h : p <+: v) (hne : p ≠ []) : p.trim ≠ [] := by
  obtain ⟨c, r, rfl⟩ := List.exists_cons_of_ne_nil hne
  obtain ⟨u, rfl⟩ := h
  rw [ne_eq, trim_eq_nil_iff]
  intro hblank
  exact Bool.noConfusion ((hblank c List.mem_cons_self).symm.trans (isBlank_head_of_trim_eq hv))

/-- Nothing stands in front of the first separator of a trimmed text only if the text begins with it. -/
theorem trim_head_pieces_eq_nil_iff (hv : v.trim = v) (hc : c ∈ v.skeleton)
    (h : v.pieces (· == c) = p :: ps) : p.trim = [] ↔ v.head? = some c := by
  have hcuts := cutsInto_pieces (· == c) v
  rw [h] at hcuts
  cases hcuts with
  | whole _ hnone => exact absurd (hnone c hc) (by simp)
  | @cut _ d b _ hnone hstructural hsep hb =>
    obtain rfl : d = c := beq_iff_eq.1 hsep
    constructor
    · intro hblank
      have hnil : p = [] := by
        by_contra hne
        exact trim_ne_nil_of_isPrefix hv (List.prefix_append p _) hne hblank
      rw [hnil]
      rfl
    · intro hhead
      cases p with
      | nil => rfl
      | cons x r =>
        have hx : (x :: r).head? = some d := hhead
        have hmem := mem_skeleton_of_head? (Scan.structural_iff.1 hstructural).2 hx
        exact absurd (hnone d hmem) (by simp)

end Text

/-! ## Values that are cut -/

namespace Value

/-- Whether a trimmed value is cut, at structural commas or at blanks. -/
def isCut (v : Text) : Bool :=
  !(v.isQuoted || v.contains '(' && v.contains ')' || v.isCollection) &&
    (v.skeleton.contains ',' || v.any isBlank)

/-- Whether a trimmed value is host syntax as a whole: nothing, a quoted text, a text with both
parentheses, or a collection. -/
def IsWhole (v : Text) : Prop :=
  v = [] ∨ v.isQuoted = true ∨ ('(' ∈ v ∧ ')' ∈ v) ∨ v.isCollection = true

instance : DecidablePred IsWhole := fun _ => inferInstanceAs (Decidable (_ ∨ _))

variable {v : Text} {f : Fault} {ts : List Text}

theorem isWhole_iff : IsWhole v ↔ v.isEmpty = true ∨
    (v.isQuoted || v.contains '(' && v.contains ')' || v.isCollection) = true := by
  simp [IsWhole, or_assoc]

theorem isCut_iff :
    isCut v = true ↔ ¬ IsWhole v ∧ (',' ∈ v.skeleton ∨ ∃ c ∈ v, isBlank c = true) := by
  have hnil : (',' ∈ v.skeleton ∨ ∃ c ∈ v, isBlank c = true) → ¬ v.isEmpty = true := by
    rw [List.isEmpty_iff]
    rintro (h | ⟨c, h, -⟩) rfl <;> cases h
  rw [isCut, isWhole_iff, not_or, Bool.and_eq_true, Bool.or_eq_true, List.contains_iff_mem,
    List.any_eq_true, Bool.not_eq_true', Bool.eq_false_iff]
  constructor
  · rintro ⟨hform, hcut⟩
    exact ⟨⟨hnil hcut, hform⟩, hcut⟩
  · rintro ⟨⟨-, hform⟩, hcut⟩
    exact ⟨hform, hcut⟩

theorem cut_of_open {sep : Char → Bool} (hopen : v.closed = false) :
    v.cut sep = .error (.unterminatedLiteral v) := by
  rw [cut, hopen]
  rfl

/-- A value that is no whole is cut at commas, if it has one outside literals, or at blanks, if it has
one, or it is a word. -/
theorem ofTrimmed_of_not_isWhole (hw : ¬ IsWhole v) : ofTrimmed v =
    if ',' ∈ v.skeleton then v.commaPieces.bind ofTokens else ofSpaced v := by
  obtain ⟨hne, hform⟩ := not_or.1 (mt isWhole_iff.2 hw)
  rw [ofTrimmed_eq, if_neg hne, if_neg hform]
  simp only [List.contains_iff_mem]

/-- A value that is cut is cut at commas, if it has one outside literals, or at blanks. -/
theorem ofTrimmed_eq_of_isCut (h : isCut v = true) : ofTrimmed v =
    if ',' ∈ v.skeleton then v.commaPieces.bind ofTokens else v.words.bind (ofWords v) := by
  obtain ⟨hw, hcut⟩ := isCut_iff.1 h
  rw [ofTrimmed_of_not_isWhole hw]
  split
  · rfl
  · next hcomma => exact if_pos (List.any_eq_true.2 (hcut.resolve_left hcomma))

/-- A cut fails at a literal that is left open. -/
theorem ofTrimmed_of_isCut (h : isCut v = true) (hopen : v.closed = false) :
    ofTrimmed v = .error (.unterminatedLiteral v) := by
  rw [ofTrimmed_eq_of_isCut h, commaPieces, words, cut_of_open hopen, cut_of_open hopen]
  split <;> rfl

/-- A value that is not cut is taken as it stands or as a word. -/
theorem ofTrimmed_of_not_isCut (h : isCut v = false) :
    ∃ t, ofTrimmed v = .ok (.verbatim t) ∨ ofTrimmed v = .ok (.word t) := by
  rw [ofTrimmed_eq]
  split
  · exact ⟨_, .inl rfl⟩
  · split
    · exact ⟨_, .inl rfl⟩
    · next hform =>
      rw [Bool.not_eq_true] at hform
      rw [isCut, hform, Bool.not_false, Bool.true_and, Bool.or_eq_false_iff] at h
      obtain ⟨hcomma, hblank⟩ := h
      rw [hcomma, ofSpaced, hblank]
      exact ⟨_, .inr rfl⟩

theorem exists_ofTrimmed_of_not_isCut (h : isCut v = false) : ∃ value, ofTrimmed v = .ok value := by
  obtain ⟨t, ht | ht⟩ := ofTrimmed_of_not_isCut h <;> exact ⟨_, ht⟩

/-! ## Tokens -/

theorem ofTokens_cons_eq_error_iff {t : Text} {r : List Text} :
    ofTokens (t :: r) = .error f ↔ t.trim = [] ∧ f = .missingCallee (t :: r) := by
  rw [ofTokens]
  split
  · next h => simp [List.isEmpty_iff.1 h, eq_comm]
  · next h => simp [mt List.isEmpty_iff.2 h]

theorem ofTokens_cons_eq_ok_iff {t : Text} {r : List Text} {value : Value} :
    ofTokens (t :: r) = .ok value ↔ t.trim ≠ [] ∧ value = .call t.trim r := by
  rw [ofTokens]
  split
  · next h => simp [List.isEmpty_iff.1 h]
  · next h => simp [mt List.isEmpty_iff.2 h, eq_comm]

/-- The words of a trimmed value have something to call in front. -/
theorem exists_ofWords (hv : v.trim = v) (h : v.words = .ok ts) :
    ∃ value, ofWords v ts = .ok value := by
  match ts with
  | [] => exact ⟨_, rfl⟩
  | [t] => exact ⟨_, rfl⟩
  | t :: u :: r =>
    rw [ofWords]
    split
    · exact ⟨_, rfl⟩
    · cases hcall : ofTokens (t :: u :: r) with
      | ok value => exact ⟨value, rfl⟩
      | error f =>
        obtain ⟨hblank, -⟩ := ofTokens_cons_eq_error_iff.1 hcall
        obtain ⟨ps, -, hwords⟩ := map_eq_ok_iff.1 h
        have hne : t ≠ [] := by
          have hmem := hwords ▸ List.mem_cons_self (a := t) (l := u :: r)
          simpa using (List.mem_filter.1 hmem).2
        exact absurd hblank (trim_ne_nil_of_isPrefix hv (words_head_isPrefix hv h) hne)

/-! ## Failures -/

/-- **How a trimmed value fails.**  It is cut, and either a literal is left open or the value begins
with a comma. -/
theorem ofTrimmed_eq_error_iff (hv : v.trim = v) : ofTrimmed v = .error f ↔ isCut v = true ∧
    (v.closed = false ∧ f = .unterminatedLiteral v ∨
      v.closed = true ∧ v.head? = some ',' ∧
        f = .missingCallee ((v.pieces (· == ',')).map Text.trim)) := by
  cases hcut : isCut v with
  | false =>
    obtain ⟨value, hvalue⟩ := exists_ofTrimmed_of_not_isCut hcut
    simp [hvalue]
  | true =>
    cases hclosed : v.closed with
    | false => simp [ofTrimmed_of_isCut hcut hclosed, eq_comm]
    | true =>
      rw [ofTrimmed_eq_of_isCut hcut, commaPieces_of_closed hclosed, words_of_closed hclosed]
      split
      · next hcomma =>
        obtain ⟨p, ps, hps⟩ := List.exists_cons_of_ne_nil (pieces_ne_nil (· == ',') v)
        rw [Except.bind, hps, List.map_cons, ofTokens_cons_eq_error_iff, trim_trim,
          trim_head_pieces_eq_nil_iff hv hcomma hps]
        simp
      · next hcomma =>
        obtain ⟨value, hvalue⟩ := exists_ofWords hv (words_of_closed hclosed)
        have hhead : v.head? ≠ some ',' := fun h => hcomma (mem_skeleton_of_head? rfl h)
        simp [Except.bind, hvalue, hhead]

/-- A value that is no whole fails at a cut if it is cut and leaves a literal open. -/
theorem exists_split_error_iff (hv : v.trim = v) (hw : ¬ IsWhole v) :
    (∃ f, ofTrimmed v = .error f ∧ f.kind = .split) ↔
      v.closed = false ∧ (',' ∈ v.skeleton ∨ ∃ c ∈ v, isBlank c = true) := by
  constructor
  · rintro ⟨f, hf, hkind⟩
    obtain ⟨hcut, ⟨hopen, -⟩ | ⟨-, -, rfl⟩⟩ := (ofTrimmed_eq_error_iff hv).1 hf
    · exact ⟨hopen, (isCut_iff.1 hcut).2⟩
    · cases hkind
  · rintro ⟨hopen, hcut⟩
    exact ⟨_, ofTrimmed_of_isCut (isCut_iff.2 ⟨hw, hcut⟩) hopen, rfl⟩

/-- A value that is no whole lacks something to call if it begins with a comma and leaves no literal
open. -/
theorem exists_value_error_iff (hv : v.trim = v) (hw : ¬ IsWhole v) :
    (∃ f, ofTrimmed v = .error f ∧ f.kind = .value) ↔ v.closed = true ∧ v.head? = some ',' := by
  constructor
  · rintro ⟨f, hf, hkind⟩
    obtain ⟨-, ⟨-, rfl⟩ | ⟨hclosed, hhead, -⟩⟩ := (ofTrimmed_eq_error_iff hv).1 hf
    · cases hkind
    · exact ⟨hclosed, hhead⟩
  · rintro ⟨hclosed, hhead⟩
    have hcomma : ',' ∈ v.skeleton := mem_skeleton_of_head? rfl hhead
    have hcut : isCut v = true := isCut_iff.2 ⟨hw, .inl hcomma⟩
    exact ⟨_, (ofTrimmed_eq_error_iff hv).2 ⟨hcut, .inr ⟨hclosed, hhead, rfl⟩⟩, rfl⟩

/-- A whole is no cut value, so it does not fail. -/
theorem exists_ofTrimmed_of_isWhole (hw : IsWhole v) : ∃ value, ofTrimmed v = .ok value := by
  apply exists_ofTrimmed_of_not_isCut
  by_contra hcut
  exact (isCut_iff.1 (Bool.not_eq_false _ ▸ hcut)).1 hw

end Value

/-- The stage in which an outcome failed, if it did. -/
def stage? {α : Type} : Except StatementError α → Option FaultKind
  | .ok _ => none
  | .error e => some e.kind

namespace Scope

variable {s : Scope} {keywords : Names} {v : Text}

theorem reduce_eq_error_iff {e : StatementError} : s.reduce keywords v = .error e ↔
    ∃ f, Value.ofText v = .error f ∧ e = f.on s.line := by
  unfold reduce
  cases Value.ofText v with
  | error f => simp [located, Except.map, eq_comm]
  | ok value => simp [located, Except.map]

/-- Scope and built-in names have no part in whether a value fails, and where. -/
theorem stage?_reduce (s : Scope) (keywords : Names) (v : Text) :
    stage? (s.reduce keywords v) = match Value.ofText v with
      | .ok _ => none
      | .error f => some f.kind := by
  unfold reduce
  cases Value.ofText v <;> rfl

theorem stage?_reduce_eq_some_iff {kind : FaultKind} : stage? (s.reduce keywords v) = some kind ↔
    ∃ f, Value.ofText v = .error f ∧ f.kind = kind := by
  rw [stage?_reduce]
  cases Value.ofText v <;> simp

/-- **When a value fails.**  A value that is host syntax as a whole is reduced.  Any other value fails at
a cut exactly if it leaves a literal open and has a comma outside literals or a blank anywhere, and fails
for want of something to call exactly if it leaves no literal open and begins with a comma; otherwise it
is reduced.  Failures are on the current line, and neither the built-in names nor the scope decide
whether there is one, or in which stage. -/
theorem reduce_fails_iff (s : Scope) (keywords : Names) (v : Text) :
    let u := v.trim
    let outcome := s.reduce keywords v
    let opens := u.closed = false ∧ (',' ∈ u.skeleton ∨ ∃ c ∈ u, isBlank c = true)
    let lacks := u.closed = true ∧ u.head? = some ','
    (Value.IsWhole u → ∃ w, outcome = .ok w) ∧
      (¬ Value.IsWhole u → (stage? outcome = some .split ↔ opens) ∧
        (stage? outcome = some .value ↔ lacks) ∧ ((∃ w, outcome = .ok w) ↔ ¬ opens ∧ ¬ lacks)) ∧
      (∀ e, outcome = .error e → e.line = s.line) ∧
      ∀ (s' : Scope) (keywords' : Names), stage? (s'.reduce keywords' v) = stage? outcome := by
  intro u outcome opens lacks
  have hu : u.trim = u := trim_trim v
  refine ⟨?_, ?_, ?_, ?_⟩
  · intro hwhole
    obtain ⟨value, hvalue⟩ := Value.exists_ofTrimmed_of_isWhole hwhole
    exact ⟨_, reduce_eq_ok_iff.2 ⟨value, hvalue, rfl⟩⟩
  · intro hwhole
    have hsplit : stage? outcome = some .split ↔ opens :=
      stage?_reduce_eq_some_iff.trans (Value.exists_split_error_iff hu hwhole)
    have hlacks : stage? outcome = some .value ↔ lacks :=
      stage?_reduce_eq_some_iff.trans (Value.exists_value_error_iff hu hwhole)
    refine ⟨hsplit, hlacks, ?_⟩
    rw [← hsplit, ← hlacks]
    cases outcome with
    | ok w => simp [stage?]
    | error e => cases hkind : e.kind <;> simp [stage?, hkind]
  · intro e he
    obtain ⟨f, -, rfl⟩ := reduce_eq_error_iff.1 he
    rfl
  · intro s' keywords'
    exact (stage?_reduce s' keywords' v).trans (stage?_reduce s keywords v).symm

/-- A value that begins with a comma, on the fourth line and with a name that is known, one with a
literal that is left open, and one whose comma stands in a literal. -/
theorem reduce_fails_iff_comma :
    let s : Scope := { empty with line := 4, names := .ofList ["x".toList] }
    ¬ Value.IsWhole ", 1, x".toList ∧
      (∃ e, s.reduce ∅ " , 1, x ".toList = .error e ∧ e.kind = .value ∧ e.line = 4) ∧
      stage? (empty.reduce (.ofList ["say".toList]) " , 1, x ".toList) = some .value ∧
      ¬ Value.IsWhole "say \"x".toList ∧ stage? (s.reduce ∅ "say \"x".toList) = some .split ∧
      Value.IsWhole "\"a, b\"".toList ∧ ∃ w, s.reduce ∅ "\"a, b\"".toList = .ok w := by
  intro s
  have hcomma : ¬ Value.IsWhole ", 1, x".toList := by decide
  have hopen : ¬ Value.IsWhole "say \"x".toList := by decide
  have hquoted : Value.IsWhole "\"a, b\"".toList := by decide
  obtain ⟨-, hfails, hline, hstage⟩ := reduce_fails_iff s ∅ " , 1, x ".toList
  obtain ⟨-, hopens, -⟩ := reduce_fails_iff s ∅ "say \"x".toList
  have hvalue : stage? (s.reduce ∅ " , 1, x ".toList) = some .value :=
    (hfails hcomma).2.1.2 ⟨by decide, by decide⟩
  refine ⟨hcomma, ?_, (hstage empty _).trans hvalue, hopen, ?_, hquoted,
    (reduce_fails_iff s ∅ _).1 hquoted⟩
  · cases houtcome : s.reduce ∅ " , 1, x ".toList with
    | ok w =>
      rw [houtcome] at hvalue
      cases hvalue
    | error e =>
      rw [houtcome] at hvalue
      exact ⟨e, rfl, Option.some.inj hvalue, hline e houtcome⟩
  · exact (hopens hopen).1.2 ⟨by decide, .inr ⟨' ', by decide, by decide⟩⟩

end Scope

end KScript
