import KScript.Proofs.Text.Split
import KScript.Proofs.Text.Trim

/-!
# Texts made of the characters of another

Code is made of characters of the script and of printable characters that the generator writes.
-/

namespace KScript

/-- The characters that the generator writes by itself are among these. -/
def isPrintable (c : Char) : Bool := ' ' ≤ c && c ≤ '~'

namespace Text

variable {t u v w : Text}

/-- The characters of `u` are characters of `t` or printable. -/
def Covers (t u : Text) : Prop := ∀ c ∈ u, c ∈ t ∨ isPrintable c = true

theorem covers_of_subset (h : u ⊆ t) : t.Covers u := by
  intro _ hc
  exact .inl (h hc)

theorem covers_of_isPrintable (h : u.all isPrintable = true) : t.Covers u := by
  intro c hc
  exact .inr (List.all_eq_true.1 h c hc)

theorem covers_refl (t : Text) : t.Covers t := covers_of_subset (List.Subset.refl t)

theorem Covers.append (hu : t.Covers u) (hv : t.Covers v) : t.Covers (u ++ v) :=
  List.forall_mem_append.2 ⟨hu, hv⟩

theorem Covers.cons {d : Char} (hd : d ∈ t ∨ isPrintable d = true) (hu : t.Covers u) :
    t.Covers (d :: u) :=
  List.forall_mem_cons.2 ⟨hd, hu⟩

theorem Covers.mono (hu : t.Covers u) (h : t ⊆ v) : v.Covers u := by
  intro c hc
  exact (hu c hc).imp_left fun hc => h hc

theorem Covers.trans (hu : t.Covers u) (hv : u.Covers v) : t.Covers v := by
  intro c hc
  rcases hv c hc with hc | hc
  · exact hu c hc
  · exact .inr hc

theorem Covers.intercalate {us : List Text} (hw : t.Covers w) (h : ∀ u ∈ us, t.Covers u) :
    t.Covers (w.intercalate us) := by
  intro c hc
  rcases mem_of_mem_intercalate hc with hc | ⟨u, hu, hc⟩
  · exact hw c hc
  · exact h u hu c hc

theorem trim_subset (t : Text) : t.trim ⊆ t := by
  intro c hc
  exact mem_of_mem_trim hc

end Text

end KScript
