import KScript.Proofs.Literal.Quoted
import KScript.Proofs.Statement.Declaring
import KScript.Proofs.Value

/-!
# Settled host syntax

Host syntax is read as what it is.  A call is taken as it stands because of its parentheses and a
quoted text because of its quotes; a word that needs no quotes needs none when more names are known.
So a value that is rendered stays as it is when it is read and rendered again.
-/

namespace KScript

namespace Value

variable {known known' : Text → Bool} {t v f : Text} {args : List Text} {value : Value}

/-! ## Reading -/

theorem ofText_of_trim_eq (ht : t.trim = t) : ofText t = ofTrimmed t := congrArg ofTrimmed ht

/-- Text in quotes or with both parentheses is taken as it stands. -/
theorem ofTrimmed_of_isVerbatim (hne : t ≠ [])
    (h : t.isQuoted = true ∨ '(' ∈ t ∧ ')' ∈ t) : ofTrimmed t = .ok (.verbatim t) := by
  have hempty : ¬ t.isEmpty = true := by rwa [List.isEmpty_iff]
  have hverbatim : (t.isQuoted || t.contains '(' && t.contains ')' || t.isCollection) = true := by
    rcases h with h | ⟨hopen, hclose⟩
    · simp [h]
    · simp [hopen, hclose]
  rw [ofTrimmed, if_neg hempty, if_pos hverbatim]

theorem callee_of_ofTokens {ts : List Text} (h : ofTokens ts = .ok value) :
    ∃ f args, value = .call f args ∧ f.trim = f ∧ f ≠ [] := by
  cases ts with
  | nil => cases h
  | cons f args =>
    rw [ofTokens] at h
    split at h
    · cases h
    · next hf =>
      obtain rfl := Except.ok.inj h
      exact ⟨f.trim, args, rfl, Text.trim_trim f, by rwa [List.isEmpty_iff] at hf⟩

/-- A trimmed value is read as nothing, as a whole, or as a call of something trimmed. -/
theorem ofTrimmed_cases (hv : v.trim = v) (h : ofTrimmed v = .ok value) :
    value = .verbatim (Text.quote []) ∨ value = .verbatim v ∨ value = .word v ∨
      ∃ f args, value = .call f args ∧ f.trim = f ∧ f ≠ [] := by
  rw [ofTrimmed_eq] at h
  split at h
  · exact .inl (Except.ok.inj h).symm
  split at h
  · exact .inr (.inl (Except.ok.inj h).symm)
  split at h
  · obtain ⟨ts, -, htokens⟩ := bind_eq_ok_iff.1 h
    exact .inr (.inr (.inr (callee_of_ofTokens htokens)))
  unfold ofSpaced at h
  split at h
  · obtain ⟨ws, hwords, hread⟩ := bind_eq_ok_iff.1 h
    match ws with
    | [] => exact .inl (Except.ok.inj hread).symm
    | [w] =>
      obtain rfl := Text.eq_of_words_eq_singleton hv hwords
      exact .inr (.inr (.inl (Except.ok.inj hread).symm))
    | f :: w :: args =>
      rw [ofWords] at hread
      split at hread
      · exact .inr (.inl (Except.ok.inj hread).symm)
      · exact .inr (.inr (.inr (callee_of_ofTokens hread)))
  · exact .inr (.inr (.inl (Except.ok.inj h).symm))

/-! ## Names that become known -/

theorem isPlain_mono (hk : ∀ n, known n = true → known' n = true) (h : isPlain known t = true) :
    isPlain known' t = true := by
  unfold isPlain at h ⊢
  rcases Bool.or_eq_true_iff.1 h with h | h
  · rw [h, Bool.true_or]
  · rw [hk t h, Bool.or_true]

theorem isPlain_quote (known : Text → Bool) (t : Text) : isPlain known t.quote = true := by
  rw [isPlain, Text.isQuoted_quote, Bool.true_or, Bool.true_or]

/-- An argument is settled once it is rendered. -/
theorem renderArgument_renderArgument (hk : ∀ n, known n = true → known' n = true) (a : Text) :
    renderArgument known' (renderArgument known a) = renderArgument known a := by
  unfold renderArgument
  dsimp only
  split
  · next h =>
    rw [Text.trim_trim]
    refine if_pos ?_
    rcases Bool.or_eq_true_iff.1 h with h | h
    · rw [isPlain_mono hk h, Bool.true_or]
    · rw [h, Bool.or_true]
  · rw [Text.trim_quote, isPlain_quote, Bool.true_or]
    rfl

/-! ## Settled texts -/

/-- Host syntax that is read as what it is. -/
inductive Settled (known : Text → Bool) (t : Text) : Prop
  /-- It is taken as it stands. -/
  | verbatim (h : ofText t = .ok (.verbatim t))
  /-- It is a word that needs no quotes. -/
  | word (h : ofText t = .ok (.word t))
      (hw : (isPlain known t || t.contains '.' || t.contains '[') = true)

namespace Settled

/-- What is settled stays so when more names are known. -/
theorem mono (hk : ∀ n, known n = true → known' n = true) (h : Settled known t) :
    Settled known' t := by
  cases h with
  | verbatim h => exact .verbatim h
  | word h hw =>
    refine .word h ?_
    rw [Bool.or_assoc] at hw ⊢
    rcases Bool.or_eq_true_iff.1 hw with hw | hw
    · rw [isPlain_mono hk hw, Bool.true_or]
    · rw [hw, Bool.or_true]

/-- Rendering does not change what is settled. -/
theorem exists_render_eq (h : Settled known t) :
    ∃ value, ofText t = .ok value ∧ t = value.render known := by
  cases h with
  | verbatim h => exact ⟨_, h, rfl⟩
  | word h hw => exact ⟨_, h, (if_pos hw).symm⟩

end Settled

theorem settled_quote (t : Text) : Settled known t.quote := by
  refine .verbatim ?_
  rw [ofText_of_trim_eq (Text.trim_quote t)]
  exact ofTrimmed_of_isVerbatim (List.cons_ne_nil _ _) (.inl (Text.isQuoted_quote t))

theorem settled_word (ht : ofText t = .ok (.word t)) : Settled known (renderWord known t) := by
  unfold renderWord
  split
  · next hw => exact .word ht hw
  · exact settled_quote t

/-- A call is settled by its parentheses, whatever its arguments are. -/
theorem settled_call (hf : f.trim = f) (hne : f ≠ []) : Settled known ((call f args).render known) := by
  obtain ⟨c, r, rfl⟩ := List.exists_cons_of_ne_nil hne
  -- The call begins as its callee does and ends with a parenthesis: neither is blank.
  have htrim := Text.trim_cons_concat (Text.isBlank_head_of_trim_eq hf) (d := ')') (by decide)
    (r ++ '(' :: [',', ' '].intercalate (args.map (renderArgument known)))
  have hrender : (call (c :: r) args).render known =
      c :: (r ++ '(' :: [',', ' '].intercalate (args.map (renderArgument known)) ++ [')']) := by
    rw [render, List.cons_append, List.cons_append]
  rw [hrender]
  refine .verbatim ?_
  rw [ofText_of_trim_eq htrim]
  exact ofTrimmed_of_isVerbatim (List.cons_ne_nil _ _) (.inr ⟨by simp, by simp⟩)

/-- Host syntax is settled. -/
theorem settled_render (h : ofText v = .ok value) : Settled known (value.render known) := by
  have hv : v.trim.trim = v.trim := Text.trim_trim v
  -- A call is not read back as a call but as a text with parentheses.
  rcases ofTrimmed_cases hv h with rfl | rfl | rfl | ⟨f, args, rfl, hf, hne⟩
  · exact settled_quote []
  · exact .verbatim ((ofText_of_trim_eq hv).trans h)
  · exact settled_word ((ofText_of_trim_eq hv).trans h)
  · exact settled_call hf hne

end Value

namespace Scope

/-- **Reducing twice is reducing once.**  What a value has been reduced to is reduced to itself, also
where more names are known, whichever of them are built in and whichever are bound; and so is every
argument of a call. -/
theorem reduce_reduce {s s' : Scope} {keywords keywords' : Names}
    (hk : ∀ n, n ∈ keywords ∨ n ∈ s.names → n ∈ keywords' ∨ n ∈ s'.names) :
    (∀ v w, s.reduce keywords v = .ok w → s'.reduce keywords' w = .ok w) ∧
      ∀ a, Value.renderArgument (s'.knows keywords') (Value.renderArgument (s.knows keywords) a) =
        Value.renderArgument (s.knows keywords) a := by
  have hknows : ∀ n, s.knows keywords n = true → s'.knows keywords' n = true := by
    intro n
    simpa [knows, binds] using hk n
  constructor
  · intro v w h
    obtain ⟨value, hread, rfl⟩ := reduce_eq_ok_iff.1 h
    exact reduce_eq_ok_iff.2 ((Value.settled_render hread).mono hknows).exists_render_eq
  · exact Value.renderArgument_renderArgument hknows

/-- A word that was quoted keeps its quotes when it becomes a name, and a bound name stays bare when it
is built in instead. -/
theorem reduce_reduce_call :
    let s : Scope := { empty with names := .ofList ["x".toList] }
    let keywords : Names := .ofList ["y".toList]
    let keywords' : Names := .ofList ["red".toList, "x".toList, "y".toList]
    (∀ n, n ∈ keywords ∨ n ∈ s.names → n ∈ keywords' ∨ n ∈ empty.names) ∧
      s.reduce keywords "say red x y-1".toList = .ok "say(\"red\", x, y-1)".toList ∧
      empty.reduce keywords' "say(\"red\", x, y-1)".toList = .ok "say(\"red\", x, y-1)".toList ∧
      Value.renderArgument (s.knows keywords) " red ".toList = "\"red\"".toList ∧
      Value.renderArgument (empty.knows keywords') "\"red\"".toList = "\"red\"".toList := by
  intro s keywords keywords'
  have hk : ∀ n, n ∈ keywords ∨ n ∈ s.names → n ∈ keywords' ∨ n ∈ empty.names := by
    rintro n (h | h)
    · obtain rfl := List.mem_singleton.1 (Names.mem_ofList.1 h)
      exact .inl (Names.mem_ofList.2 (by simp))
    · obtain rfl := List.mem_singleton.1 (Names.mem_ofList.1 h)
      exact .inl (Names.mem_ofList.2 (by simp))
  obtain ⟨hreduce, hargument⟩ := reduce_reduce hk
  have hcall : s.reduce keywords "say red x y-1".toList = .ok "say(\"red\", x, y-1)".toList := rfl
  have hred : Value.renderArgument (s.knows keywords) " red ".toList = "\"red\"".toList := rfl
  exact ⟨hk, hcall, hreduce _ _ hcall, hred, hred ▸ hargument " red ".toList⟩

end Scope

end KScript
