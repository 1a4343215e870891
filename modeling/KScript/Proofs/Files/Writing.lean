import KScript.Files.Tree
import KScript.Proofs.Outcome
import Mathlib.Data.List.DropRight

/-!
# Writing to a file tree

A path leads to a place if all places on its way are directories, and it shows what stands there.  A
file is written where no directory stands, so no way through the tree is opened or closed by writing:
every path leads where it led, and only those that lead to the written place show something new.
-/

namespace KScript

/-- What a path shows that leads to a place, from what stands there. -/
def Entry.ofNode? : Option Node → Entry
  | none => missing
  | some .directory => unreadable FileFault.isDirectory.message
  | some (.file contents) => file contents

namespace FileTree

variable {t : FileTree} {k l m : Location} {c : Text} {cs : List Text} {path : String}
  {contents : ByteArray}

/-! ## Ways through a tree -/

theorem enter_eq_ok_iff : t.enter l = .ok () ↔ t.node? l = some .directory := by
  unfold enter
  split
  · next h => simp [h]
  · next h => simp [h]
  · next h => simp [h]

theorem walk_cons_eq_ok_iff : t.walk l (c :: cs) = .ok m ↔
    t.node? l = some .directory ∧ t.walk (l.follow c) cs = .ok m := by
  rw [walk, ← enter_eq_ok_iff, bind_eq_ok_iff]
  exact ⟨fun ⟨_, h⟩ => h, fun h => ⟨(), h⟩⟩

/-- The last component leads from a directory. -/
theorem walk_concat_eq_ok_iff : t.walk l (cs ++ [c]) = .ok m ↔
    ∃ k, t.walk l cs = .ok k ∧ t.node? k = some .directory ∧ k.follow c = m := by
  induction cs generalizing l with
  | nil =>
    rw [List.nil_append, walk_cons_eq_ok_iff]
    constructor
    · rintro ⟨hl, hm⟩
      exact ⟨l, rfl, hl, Except.ok.inj hm⟩
    · rintro ⟨k, hk, hdir, hm⟩
      obtain rfl := Except.ok.inj hk
      exact ⟨hdir, congrArg _ hm⟩
  | cons d cs ih =>
    rw [List.cons_append, walk_cons_eq_ok_iff, ih]
    constructor
    · rintro ⟨hl, k, hk, h⟩
      exact ⟨k, walk_cons_eq_ok_iff.2 ⟨hl, hk⟩, h⟩
    · rintro ⟨k, hk, h⟩
      obtain ⟨hl, hk⟩ := walk_cons_eq_ok_iff.1 hk
      exact ⟨hl, k, hk, h⟩

/-- Whether a path leads to a place. -/
structure Leads (t : FileTree) (path : String) (l : Location) : Prop where
  not_empty : path ≠ ""
  no_nul : '\x00' ∉ path.toList
  walk_eq : t.walk (Location.origin path) (Location.components path) = .ok l

/-- A path shows what stands at the place that it leads to. -/
theorem Leads.entry_eq (h : t.Leads path l) : t.entry path = Entry.ofNode? (t.node? l) := by
  have hpath : ¬ (path = "" ∨ '\x00' ∈ path.toList) := not_or.2 ⟨h.not_empty, h.no_nul⟩
  rw [entry, if_neg hpath, h.walk_eq]
  dsimp only
  split <;> simp_all [Entry.ofNode?]

/-- A path that leads nowhere shows nothing. -/
theorem entry_of_not_leads (h : ∀ l, ¬ t.Leads path l) : t.entry path = .missing := by
  unfold entry
  split
  · rfl
  · next hpath =>
    rw [not_or] at hpath
    split
    · rfl
    · next l hwalk => exact absurd ⟨hpath.1, hpath.2, hwalk⟩ (h l)

/-! ## The place that is written -/

/-- What it takes to write a path: it leads to a place that is no anchor and no directory. -/
structure CanWrite (t : FileTree) (path : String) (l : Location) : Prop where
  leads : t.Leads path l
  not_anchor : l.names ≠ []
  not_directory : t.node? l ≠ some .directory

theorem follow_of_ne (h : c ≠ []) (hdot : c ≠ ['.']) (hdots : c ≠ ['.', '.']) :
    l.follow c = l.child c := by
  simp [Location.follow, h, hdot, hdots]

/-- A path is written where it leads. -/
theorem canWrite_of_target (h : t.target path = .ok l) : t.CanWrite path l := by
  unfold target at h
  split at h
  · cases h
  next hempty =>
  split at h
  · cases h
  next hnul =>
  dsimp only at h
  split at h
  · cases h
  next name before hparts =>
  obtain ⟨folder, hwalk, h⟩ := bind_eq_ok_iff.1 h
  obtain ⟨⟨⟩, henter, h⟩ := bind_eq_ok_iff.1 h
  split at h
  · cases h
  next hname =>
  obtain rfl := Except.ok.inj h
  simp only [not_or] at hname
  obtain ⟨hlast, hdot, hdots, hdirectory⟩ := hname
  -- No component behind the name is empty, so the name is the last one.
  have hkept : (Location.components path).rdropWhile List.isEmpty = Location.components path :=
    List.rdropWhile_eq_self_iff.2 fun hne hempty => hlast (by
      rw [List.getLast?_eq_some_getLast hne, List.isEmpty_iff.1 hempty])
  have hcomponents : Location.components path = before.reverse ++ [name] := by
    rw [← hkept, List.rdropWhile, hparts, List.reverse_cons]
  have hne : name ≠ [] := by
    rintro rfl
    exact hlast (by rw [hcomponents, List.getLast?_concat])
  refine ⟨⟨hempty, hnul, ?_⟩, ?_, ?_⟩
  · rw [hcomponents, walk_concat_eq_ok_iff]
    exact ⟨folder, hwalk, enter_eq_ok_iff.1 henter, follow_of_ne hne hdot hdots⟩
  · exact List.cons_ne_nil name folder.names
  · intro hdir
    exact hdirectory (by rw [hdir]; rfl)

/-! ## The tree after a file is written -/

/-- The tree `t'` differs from the tree `t` in the file at a place to which `path` leads. -/
structure Replaces (t t' : FileTree) (path : String) (l : Location) (contents : ByteArray) :
    Prop where
  leads : t.Leads path l
  node?_eq : t'.node? l = some (.file contents)
  node?_of_ne : ∀ k ≠ l, t'.node? k = t.node? k
  entry_eq : t'.entry path = .file contents
  entry_of_not_leads : ∀ other, ¬ t.Leads other l → t'.entry other = t.entry other

/-- No way is opened or closed where a file is put and no directory stood. -/
theorem walk_put_eq_ok_iff (hl : l.names ≠ []) (hdir : t.node? l ≠ some .directory) :
    (t.put l (.file contents)).walk k cs = .ok m ↔ t.walk k cs = .ok m := by
  induction cs generalizing k with
  | nil => exact Iff.rfl
  | cons c cs ih =>
    have hdirectory : (t.put l (.file contents)).node? k = some .directory ↔
        t.node? k = some .directory := by
      by_cases hk : k = l
      · rw [hk, node?_put_self hl]
        exact iff_of_false (by rintro ⟨⟩) hdir
      · rw [node?_put_of_ne hk]
    rw [walk_cons_eq_ok_iff, walk_cons_eq_ok_iff, hdirectory, ih]

theorem leads_put_iff (hl : l.names ≠ []) (hdir : t.node? l ≠ some .directory) :
    (t.put l (.file contents)).Leads path k ↔ t.Leads path k := by
  constructor
  · rintro ⟨hempty, hnul, hwalk⟩
    exact ⟨hempty, hnul, (walk_put_eq_ok_iff hl hdir).1 hwalk⟩
  · rintro ⟨hempty, hnul, hwalk⟩
    exact ⟨hempty, hnul, (walk_put_eq_ok_iff hl hdir).2 hwalk⟩

/-- Writing a path replaces the file to which it leads, and nothing else. -/
theorem replaces_put (h : t.CanWrite path l) (contents : ByteArray) :
    t.Replaces (t.put l (.file contents)) path l contents where
  leads := h.leads
  node?_eq := node?_put_self h.not_anchor
  node?_of_ne _ hk := node?_put_of_ne hk
  entry_eq := by
    have hleads : (t.put l (.file contents)).Leads path l :=
      (leads_put_iff h.not_anchor h.not_directory).2 h.leads
    rw [hleads.entry_eq, node?_put_self h.not_anchor, Entry.ofNode?]
  entry_of_not_leads other hother := by
    by_cases hsome : ∃ k, t.Leads other k
    · obtain ⟨k, hk⟩ := hsome
      have hne : k ≠ l := by
        rintro rfl
        exact hother hk
      have hk' : (t.put l (.file contents)).Leads other k :=
        (leads_put_iff h.not_anchor h.not_directory).2 hk
      rw [hk.entry_eq, hk'.entry_eq, node?_put_of_ne hne]
    · rw [not_exists] at hsome
      rw [entry_of_not_leads hsome, entry_of_not_leads fun k hk => hsome k
        ((leads_put_iff h.not_anchor h.not_directory).1 hk)]

/-- A write that succeeds replaces the file to which the path leads, and nothing else. -/
theorem exists_replaces_of_write {t' : FileTree} (h : t.write path contents = .ok t') :
    ∃ l, t.Replaces t' path l contents := by
  obtain ⟨l, htarget, rfl⟩ := map_eq_ok_iff.1 h
  exact ⟨l, replaces_put (canWrite_of_target htarget) contents⟩

/-! ## Trees with the same directories -/

/-- Two trees with directories and files at the same places, whatever the files hold. -/
def SameShape (t t' : FileTree) : Prop :=
  ∀ l, (t.node? l).map Node.isDirectory = (t'.node? l).map Node.isDirectory

/-- Whether a place can be entered is a matter of what kind of node stands there. -/
theorem enter_eq_of_kind (t : FileTree) (l : Location) : t.enter l =
    match (t.node? l).map Node.isDirectory with
    | some true => .ok ()
    | some false => .error .notDirectory
    | none => .error .noSuchFile := by
  unfold enter
  rcases t.node? l with _ | _ | _ <;> rfl

namespace SameShape

variable {t' : FileTree}

theorem refl (t : FileTree) : t.SameShape t := fun _ => rfl

/-- What a file holds is no part of the shape. -/
theorem put (h : t.SameShape t') (l : Location) (contents contents' : ByteArray) :
    (t.put l (.file contents)).SameShape (t'.put l (.file contents')) := by
  intro k
  by_cases hk : k = l
  · subst hk
    by_cases hnames : k.names = []
    · rw [node?, node?, if_pos hnames, if_pos hnames]
    · rw [node?_put_self hnames, node?_put_self hnames]
      rfl
  · rw [node?_put_of_ne hk, node?_put_of_ne hk]
    exact h k

theorem enter_eq (h : t.SameShape t') (l : Location) : t.enter l = t'.enter l := by
  rw [enter_eq_of_kind, enter_eq_of_kind, h l]

theorem walk_eq (h : t.SameShape t') (l : Location) (cs : List Text) :
    t.walk l cs = t'.walk l cs := by
  induction cs generalizing l with
  | nil => rfl
  | cons c cs ih =>
    rw [walk, walk, h.enter_eq]
    exact congrArg _ (funext fun _ => ih _)

/-- A path can be written at the same place, or fails in the same way. -/
theorem target_eq (h : t.SameShape t') (path : String) : t.target path = t'.target path := by
  have hany (l : Location) :
      (t.node? l).any Node.isDirectory = (t'.node? l).any Node.isDirectory := by
    simpa only [Option.any_map, id_eq] using congrArg (Option.any id) (h l)
  unfold target
  simp only [h.walk_eq, h.enter_eq, hany]

/-- A file is written to both trees at the same place, or to neither for the same reason. -/
theorem write (h : t.SameShape t') (path : String) (contents : ByteArray) :
    (∃ fault, t.write path contents = .error fault ∧ t'.write path contents = .error fault) ∨
      ∃ l u u', t.write path contents = .ok u ∧ t'.write path contents = .ok u' ∧
        t.Replaces u path l contents ∧ t'.Replaces u' path l contents := by
  cases htarget : t.target path with
  | error fault =>
    left
    refine ⟨fault, ?_, ?_⟩
    · rw [FileTree.write, htarget]
      rfl
    · rw [FileTree.write, ← h.target_eq, htarget]
      rfl
  | ok l =>
    right
    have htarget' : t'.target path = .ok l := (h.target_eq path).symm.trans htarget
    refine ⟨l, _, _, map_eq_ok_iff.2 ⟨l, htarget, rfl⟩, map_eq_ok_iff.2 ⟨l, htarget', rfl⟩, ?_, ?_⟩
    · exact replaces_put (canWrite_of_target htarget) contents
    · exact replaces_put (canWrite_of_target htarget') contents

end SameShape

end FileTree

end KScript
