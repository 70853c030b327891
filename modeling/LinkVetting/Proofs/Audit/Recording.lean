import LinkVetting.Audit.Recorder

/-!
# Runs of a recorder

What a recorder does is settled by the answer of its medium.  A run reacts to one
signal after the other, so it can be cut anywhere before the end.  All that it
reports about entries are the faults of writing them.
-/

namespace LinkVetting.Audit.Recorder

variable {σ : Type} {medium : Medium σ} {recorder : Recorder σ}

/-! ## One signal -/

section

variable {entry : Entry} {next : σ} {fault : TrailFault}

theorem record_of_ok (answered : medium.write recorder.state entry = (next, .ok ())) :
    recorder.record medium entry = (⟨next, true⟩, []) := by
  rw [record, answered]

theorem record_of_error (answered : medium.write recorder.state entry = (next, .error fault)) :
    recorder.record medium entry = (⟨next, recorder.isDirty⟩, [.entryNotWritten fault]) := by
  rw [record, answered]

theorem pause_of_clean (clean : recorder.isDirty = false) :
    recorder.pause medium = (recorder, []) := by
  rw [pause, clean, if_neg Bool.false_ne_true]

theorem pause_of_ok (dirty : recorder.isDirty = true)
    (answered : medium.flush recorder.state = (next, .ok ())) :
    recorder.pause medium = (⟨next, false⟩, []) := by
  rw [pause, if_pos dirty, answered]

theorem pause_of_error (dirty : recorder.isDirty = true)
    (answered : medium.flush recorder.state = (next, .error fault)) :
    recorder.pause medium = (⟨next, true⟩, [.pauseFlushFailed fault]) := by
  rw [pause, if_pos dirty, answered]

theorem finish_of_clean (clean : recorder.isDirty = false) :
    recorder.finish medium = (recorder, [.trailFinished]) := by
  rw [finish, clean, if_neg Bool.false_ne_true]

theorem finish_of_ok (dirty : recorder.isDirty = true)
    (answered : medium.flush recorder.state = (next, .ok ())) :
    recorder.finish medium = (⟨next, true⟩, [.trailFinished]) := by
  rw [finish, if_pos dirty, answered]

theorem finish_of_error (dirty : recorder.isDirty = true)
    (answered : medium.flush recorder.state = (next, .error fault)) :
    recorder.finish medium = (⟨next, true⟩, [.finalFlushFailed fault, .trailFinished]) := by
  rw [finish, if_pos dirty, answered]

end

/-! ## Runs -/

theorem run_cons {signal : Signal} {later : List Signal} (unended : signal ≠ .ended) :
    recorder.run medium (signal :: later) =
      (((recorder.react medium signal).1.run medium later).1,
        (recorder.react medium signal).2 ++
          ((recorder.react medium signal).1.run medium later).2) := by
  cases signal with
  | entry entry => rfl
  | pause => rfl
  | ended => exact absurd rfl unended

theorem fst_run_entry {entry : Entry} {later : List Signal} :
    (recorder.run medium (.entry entry :: later)).1 =
      ((recorder.record medium entry).1.run medium later).1 := rfl

/-- What every write and every flush keeps true of a medium, a run keeps true. -/
theorem run_keeps {Holds : σ → Prop}
    (write : ∀ state entry, Holds state → Holds (medium.write state entry).1)
    (flush : ∀ state, Holds state → Holds (medium.flush state).1)
    (holds : Holds recorder.state) {signals : List Signal} :
    Holds (recorder.run medium signals).1.state := by
  have react (recorder : Recorder σ) (signal : Signal) (holds : Holds recorder.state) :
      Holds (recorder.react medium signal).1.state := by
    have flushed := flush recorder.state holds
    cases signal with
    | entry entry =>
        have written := write recorder.state entry holds
        rw [Recorder.react, record]
        split
        · rename_i answer
          rwa [answer] at written
        · rename_i answer
          rwa [answer] at written
    | pause =>
        rw [Recorder.react, Recorder.pause]
        split
        · split
          · rename_i answer
            rwa [answer] at flushed
          · rename_i answer
            rwa [answer] at flushed
        · exact holds
    | ended =>
        rw [Recorder.react, finish]
        split
        · split
          · rename_i answer
            rwa [answer] at flushed
          · rename_i answer
            rwa [answer] at flushed
        · exact holds
  induction signals generalizing recorder with
  | nil => exact holds
  | cons signal later induction =>
      by_cases ends : signal = .ended
      · subst ends
        exact react recorder .ended holds
      · rw [run_cons ends]
        exact induction (react recorder signal holds)

theorem run_entries_append {entries : List Entry} {later : List Signal} :
    recorder.run medium (entries.map .entry ++ later) =
      (((recorder.run medium (entries.map .entry)).1.run medium later).1,
        (recorder.run medium (entries.map .entry)).2 ++
          ((recorder.run medium (entries.map .entry)).1.run medium later).2) := by
  induction entries generalizing recorder with
  | nil => rfl
  | cons entry entries induction =>
      rw [List.map_cons, List.cons_append, run_cons Signal.noConfusion,
        run_cons Signal.noConfusion, induction, List.append_assoc]

theorem level_of_mem_record {entry : Entry} {event : Event}
    (member : event ∈ (recorder.record medium entry).2) : event.level = .error := by
  rw [record] at member
  split at member
  · cases member
  · rw [List.mem_singleton.mp member]
    rfl

/-- All that is reported about entries is that they could not be written. -/
theorem level_of_mem_run_entries {entries : List Entry} {event : Event}
    (member : event ∈ (recorder.run medium (entries.map .entry)).2) :
    event.level = .error := by
  induction entries generalizing recorder with
  | nil => cases member
  | cons entry entries induction =>
      rw [List.map_cons, run_cons Signal.noConfusion] at member
      rcases List.mem_append.mp member with first | later
      · exact level_of_mem_record first
      · exact induction later

end LinkVetting.Audit.Recorder
