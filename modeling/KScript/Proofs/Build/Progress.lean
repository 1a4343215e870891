import KScript.Proofs.Build.Endings

/-!
# Reports of progress

Whether progress is reported decides over the reports of progress and over nothing else.  A build
without them ends as the build with them does, and its events are the others in their order.
-/

namespace KScript

namespace Build

variable {o : Options} {w : World} {e : Event}

/-- Whether an event reports the progress of a build. -/
def isProgress (e : Event) : Bool := e.level = .info ∧ e.target = some target

/-- The events that are no reports of progress. -/
def silence (es : List Event) : List Event := es.filter fun e => !isProgress e

/-- A report of a build without its reports of progress. -/
def Report.silenced (r : Report) : Report := { r with events := silence r.events }

theorem silence_append (es fs : List Event) : silence (es ++ fs) = silence es ++ silence fs :=
  List.filter_append ..

/-! ## Events of a build -/

theorem isProgress_of_mem_progress {message : String} (h : e ∈ o.progress message) :
    isProgress e = true := by
  unfold Options.progress at h
  split at h
  · rw [List.mem_singleton.1 h]
    rfl
  · cases h

/-- Reports about a sketch are filed under its own target. -/
theorem target_of_mem_deliverAll {rs : List Record} (h : e ∈ Sink.tracing.deliverAll rs) :
    e.target = some Sink.target := by
  rw [Sink.deliverAll_tracing] at h
  obtain ⟨r, -, rfl⟩ := List.mem_map.1 h
  rfl

theorem not_isProgress_of_target (h : e.target = some Sink.target) : isProgress e = false := by
  have hne : Sink.target ≠ target := by decide
  simp [isProgress, h, hne]

@[simp] theorem silence_progress (o : Options) (message : String) :
    silence (o.progress message) = [] := by
  refine List.filter_eq_nil_iff.2 fun e he => ?_
  simp [isProgress_of_mem_progress he]

@[simp] theorem silence_deliverAll (rs : List Record) :
    silence (Sink.tracing.deliverAll rs) = Sink.tracing.deliverAll rs := by
  refine List.filter_eq_self.2 fun e he => ?_
  simp [not_isProgress_of_target (target_of_mem_deliverAll he)]

/-- An event of a build reports its progress or is about the sketch. -/
theorem mem_events_plan (h : e ∈ (plan o w).events) :
    isProgress e = true ∨ e.target = some Sink.target := by
  unfold plan prepare at h
  split at h
  · cases h
  · rcases List.mem_append.1 h with h | h
    · rcases List.mem_append.1 h with h | h
      · exact .inl (isProgress_of_mem_progress h)
      · exact .inr (target_of_mem_deliverAll h)
    · exact .inl (isProgress_of_mem_progress h)

theorem mem_events_build (h : e ∈ ((build o : StateM World Report) w).1.events) :
    isProgress e = true ∨ e.target = some Sink.target := by
  rcases (ends_build o w).events_eq with hevents | ⟨path, hevents⟩
  · exact mem_events_plan (hevents ▸ h)
  · rw [hevents] at h
    rcases List.mem_append.1 h with h | h
    · exact mem_events_plan h
    · exact .inl (isProgress_of_mem_progress h)

/-! ## Builds that report no progress -/

/-- Up to the write a build asks only for its reports whether progress is wanted. -/
theorem plan_silenced (o : Options) (w : World) :
    plan { o with verbose := false } w = (plan { o with verbose := true } w).silenced := by
  -- What is loaded does not depend on the reports.
  have hload : load { o with verbose := false } (w.source { o with verbose := false })
      (w.keywords { o with verbose := false }) =
    load { o with verbose := true } (w.source { o with verbose := true })
      (w.keywords { o with verbose := true }) := rfl
  unfold plan prepare
  rw [hload]
  split
  · rfl
  · simp only [Report.silenced, silence_append, silence_progress, silence_deliverAll]
    rfl

theorem finish_silenced (o : Options) (r : Report) (w : World) :
    (finish { o with verbose := false } r.silenced : StateM World Report) w =
      (((finish { o with verbose := true } r : StateM World Report) w).1.silenced,
        ((finish { o with verbose := true } r : StateM World Report) w).2) := by
  cases houtcome : r.outcome with
  | error f =>
    rw [finish_of_error houtcome, finish_of_error (r := r.silenced) houtcome]
    rfl
  | ok out =>
    obtain hpath | ⟨path, hpath⟩ := Option.eq_none_or_eq_some o.output
    · rw [finish_of_no_output (o := { o with verbose := true }) hpath,
        finish_of_no_output (o := { o with verbose := false }) hpath]
      rfl
    · rw [finish_of_output (o := { o with verbose := true }) houtcome hpath,
        finish_of_output (o := { o with verbose := false }) (r := r.silenced) houtcome hpath]
      cases w.files.write path out.bytes with
      | error fault => rfl
      | ok files =>
        simp only [Report.silenced, silence_append, silence_progress]
        rfl

/-- A build that reports no progress is the build that does, without the reports of progress. -/
theorem build_silenced (o : Options) (w : World) :
    (build { o with verbose := false } : StateM World Report) w =
      (((build { o with verbose := true } : StateM World Report) w).1.silenced,
        ((build { o with verbose := true } : StateM World Report) w).2) := by
  rw [build_eq_finish, build_eq_finish, plan_silenced]
  exact finish_silenced o _ w

end Build

end KScript
