import LinkVetting.Audit.Trail
import LinkVetting.Proofs.Audit.RegularFile

/-!
# Steps of a trail on a regular file

One invariant ties together the file, the bytes that the writer holds back, the
queue and the waiting log calls: read one after the other they are the entries
logged so far.  Every step of a trail preserves it, and the last one leaves
nothing to be written.
-/

namespace LinkVetting.Audit

open Files (Disk)

namespace Trail

/-- The file, what the writer holds back, the queue and the waiting calls make
up the entries that have been logged. -/
structure Keeps (place : List Files.Name) (previous : List UInt8) (logged : List Entry)
    (trail : Trail) (disk : Disk) : Prop where
  place : trail.writer.place = place
  recorded : ∃ taken, trail.writer.HasWritten disk (previous ++ taken.flatMap Entry.bytes) ∧
    taken ++ (trail.queue ++ trail.blocked) = logged
  clean : trail.isDirty = false → trail.writer.waiting = []
  bounded : trail.queue.length ≤ capacity
  full : trail.blocked ≠ [] → trail.queue.length = capacity

section

variable {place : List Files.Name} {previous : List UInt8} {logged : List Entry}
variable {trail : Trail} {disk : Disk} {now : Nat}

theorem Keeps.nobodyWaits (keeps : Keeps place previous logged trail disk)
    (room : trail.queue.length < capacity) : trail.blocked = [] := by
  by_cases empty : trail.blocked = []
  · exact empty
  · have atCapacity := keeps.full empty
    omega

theorem Keeps.log {entry : Entry} (keeps : Keeps place previous logged trail disk)
    (running : trail.state = .running) :
    Keeps place previous (logged ++ [entry]) (trail.log entry).1 disk := by
  have nobodyWaits := keeps.nobodyWaits
  obtain ⟨samePlace, ⟨taken, written, together⟩, clean, bounded, full⟩ := keeps
  have isOpen : trail.isOpen = true := by simp [Trail.isOpen, running]
  by_cases room : trail.queue.length < capacity
  · have answer : (trail.log entry).1 = { trail with queue := trail.queue ++ [entry] } := by
      simp [Trail.log, isOpen, room]
    rw [answer]
    exact
      { place := samePlace
        recorded := ⟨taken, written, by simp [← together, nobodyWaits room]⟩
        clean := clean
        bounded := by simpa using Nat.succ_le_of_lt room
        full := fun waits => absurd (nobodyWaits room) waits }
  · have answer : (trail.log entry).1 =
        { trail with blocked := trail.blocked ++ [entry] } := by
      simp [Trail.log, isOpen, room]
    rw [answer]
    exact
      { place := samePlace
        recorded := ⟨taken, written, by simp [← together]⟩
        clean := clean
        bounded := bounded
        full := fun _ => Nat.le_antisymm bounded (Nat.le_of_not_lt room) }

theorem log_frame {entry : Entry} :
    (trail.log entry).1.state = trail.state ∧ (trail.log entry).1.sinks = trail.sinks := by
  rw [Trail.log]
  split
  · exact ⟨rfl, rfl⟩
  · split
    · exact ⟨rfl, rfl⟩
    · exact ⟨rfl, rfl⟩

theorem Keeps.addSink (keeps : Keeps place previous logged trail disk) :
    Keeps place previous logged trail.addSink disk :=
  ⟨keeps.place, keeps.recorded, keeps.clean, keeps.bounded, keeps.full⟩

theorem Keeps.dropSink (keeps : Keeps place previous logged trail disk) :
    Keeps place previous logged trail.dropSink disk :=
  ⟨keeps.place, keeps.recorded, keeps.clean, keeps.bounded, keeps.full⟩

/-! ### What a writer that succeeds leaves of a trail -/

section

variable {next : Writer} {later : Disk} {entry : Entry} {queue : List Entry}

/-- Taking an entry moves it from the queue to the writer, and a waiting call
gets the room. -/
theorem takeEntry_of_write (waits : trail.queue = entry :: queue)
    (answer : trail.writer.write disk entry = (next, later, .ok ())) :
    trail.takeEntry disk now =
      ({ trail with
          writer := next
          isDirty := true
          queue := queue ++ trail.blocked.take 1
          blocked := trail.blocked.drop 1
          deadline := now + pauseLength }, later, []) := by
  simp only [takeEntry, waits, recorder, Recorder.record, Writer.medium, answer, withRecorder]

theorem pause_of_flush (dirty : trail.isDirty = true)
    (answer : trail.writer.flush disk = (next, later, .ok ())) :
    trail.pause disk =
      ({ trail with
          writer := next
          isDirty := false
          deadline := trail.deadline + pauseLength }, later, []) := by
  simp only [pause, recorder, Recorder.pause, dirty, if_true, Writer.medium, answer, withRecorder]

theorem pause_of_clean (clean : trail.isDirty = false) :
    trail.pause disk = ({ trail with deadline := trail.deadline + pauseLength }, disk, []) := by
  rw [pause, Recorder.pause_of_clean clean]
  rfl

theorem finish_of_flush (dirty : trail.isDirty = true)
    (answer : trail.writer.flush disk = (next, later, .ok ())) :
    trail.finish disk =
      ({ trail with writer := next, state := .finished }, later, [.trailFinished]) := by
  simp only [finish, recorder, Recorder.finish, dirty, if_true, Writer.medium, answer,
    withRecorder]

theorem finish_of_clean (clean : trail.isDirty = false) :
    trail.finish disk = ({ trail with state := .finished }, disk, [.trailFinished]) := by
  rw [finish, Recorder.finish_of_clean clean]
  rfl

end

/-! ### Steps of the recorder -/

theorem takeEntry_of_hasWritten {entry : Entry} {queue : List Entry} {total : List UInt8}
    (written : trail.writer.HasWritten disk total)
    (waits : trail.queue = entry :: queue) :
    ∃ next later, trail.takeEntry disk now =
        ({ trail with
            writer := next
            isDirty := true
            queue := queue ++ trail.blocked.take 1
            blocked := trail.blocked.drop 1
            deadline := now + pauseLength }, later, []) ∧
      next.place = trail.writer.place ∧ next.HasWritten later (total ++ entry.bytes) := by
  obtain ⟨next, later, answer, samePlace, nextWritten⟩ :=
    @Writer.write_of_hasWritten trail.writer disk total entry written
  exact ⟨next, later, takeEntry_of_write waits answer, samePlace, nextWritten⟩

theorem Keeps.takeEntry (keeps : Keeps place previous logged trail disk) :
    ∃ next later, trail.takeEntry disk now = (next, later, []) ∧
      Keeps place previous logged next later ∧
        next.state = trail.state ∧ next.sinks = trail.sinks ∧
          next.queue.length + next.blocked.length =
            trail.queue.length + trail.blocked.length - 1 := by
  cases waits : trail.queue with
  | nil =>
      have nobodyWaits : trail.blocked = [] :=
        keeps.nobodyWaits (by simp [waits, capacity])
      have unchanged : trail.takeEntry disk now = (trail, disk, []) := by
        rw [Trail.takeEntry, waits]
      exact ⟨trail, disk, unchanged, keeps, rfl, rfl, by simp [waits, nobodyWaits]⟩
  | cons entry queue =>
      obtain ⟨samePlace, ⟨taken, written, together⟩, clean, bounded, full⟩ := keeps
      obtain ⟨next, later, answer, nextPlace, nextWritten⟩ :=
        @takeEntry_of_hasWritten trail disk now entry queue _ written waits
      rw [waits, List.length_cons] at bounded
      refine ⟨_, later, answer, ?_, rfl, rfl, ?_⟩
      · exact
          { place := nextPlace.trans samePlace
            recorded := by
              refine ⟨taken ++ [entry], ?_, ?_⟩
              · simpa using nextWritten
              · rw [← together, waits, List.append_assoc queue, List.take_append_drop]
                simp
            clean := fun notDirty => by cases notDirty
            bounded := by
              simp only [List.length_append, List.length_take]
              omega
            full := fun stillWaits => by
              have others : 0 < (trail.blocked.drop 1).length :=
                List.length_pos_iff.mpr stillWaits
              rw [List.length_drop] at others
              have atCapacity := full (List.ne_nil_of_length_pos (by omega))
              rw [waits, List.length_cons] at atCapacity
              simp only [List.length_append, List.length_take]
              omega }
      · simp only [List.length_append, List.length_take, List.length_drop,
          List.length_cons]
        omega

theorem Keeps.takeAll {fuel : Nat} (keeps : Keeps place previous logged trail disk)
    (enough : trail.queue.length + trail.blocked.length ≤ fuel) :
    ∃ next later, takeAll now fuel trail disk = (next, later, []) ∧
      Keeps place previous logged next later ∧
        next.state = trail.state ∧ next.sinks = trail.sinks ∧
          next.queue = [] ∧ next.blocked = [] := by
  induction fuel generalizing trail disk with
  | zero =>
      have noQueue : trail.queue = [] := List.length_eq_zero_iff.mp (by omega)
      have nobodyWaits : trail.blocked = [] := List.length_eq_zero_iff.mp (by omega)
      exact ⟨trail, disk, rfl, keeps, rfl, rfl, noQueue, nobodyWaits⟩
  | succ fuel induction =>
      by_cases noQueue : trail.queue = []
      · have nobodyWaits : trail.blocked = [] :=
          keeps.nobodyWaits (by simp [noQueue, capacity])
        have unchanged : Trail.takeAll now (fuel + 1) trail disk = (trail, disk, []) := by
          simp [Trail.takeAll, noQueue]
        exact ⟨trail, disk, unchanged, keeps, rfl, rfl, noQueue, nobodyWaits⟩
      · obtain ⟨middle, middleDisk, taken, middleKeeps, sameState, sameSinks, fewer⟩ :=
          @Keeps.takeEntry place previous logged trail disk now keeps
        obtain ⟨next, later, rest, nextKeeps, nextState, nextSinks, queue, blocked⟩ :=
          induction middleKeeps (by omega)
        refine ⟨next, later, ?_, nextKeeps, nextState.trans sameState,
          nextSinks.trans sameSinks, queue, blocked⟩
        have someQueue : trail.queue.isEmpty = false := by simpa using noQueue
        simp [Trail.takeAll, someQueue, taken, rest]

theorem Keeps.pause (keeps : Keeps place previous logged trail disk) :
    ∃ next later, trail.pause disk = (next, later, []) ∧
      Keeps place previous logged next later ∧
        next.state = trail.state ∧ next.sinks = trail.sinks ∧
          next.writer.waiting = [] := by
  obtain ⟨samePlace, ⟨taken, written, together⟩, clean, bounded, full⟩ := keeps
  cases dirty : trail.isDirty with
  | true =>
      obtain ⟨later, answer, flushed⟩ := Writer.flush_of_hasWritten written
      exact ⟨_, later, pause_of_flush dirty answer,
        ⟨samePlace, ⟨taken, flushed, together⟩, fun _ => rfl, bounded, full⟩, rfl, rfl, rfl⟩
  | false =>
      exact ⟨_, disk, pause_of_clean dirty,
        ⟨samePlace, ⟨taken, written, together⟩, clean, bounded, full⟩, rfl, rfl, clean dirty⟩

theorem Keeps.finish (keeps : Keeps place previous logged trail disk) :
    ∃ next later, trail.finish disk = (next, later, [.trailFinished]) ∧
      Keeps place previous logged next later ∧
        next.state = .finished ∧ next.sinks = trail.sinks ∧
          next.queue = trail.queue ∧ next.blocked = trail.blocked ∧
            next.writer.waiting = [] := by
  obtain ⟨samePlace, ⟨taken, written, together⟩, clean, bounded, full⟩ := keeps
  cases dirty : trail.isDirty with
  | true =>
      obtain ⟨later, answer, flushed⟩ := Writer.flush_of_hasWritten written
      exact ⟨_, later, finish_of_flush dirty answer,
        ⟨samePlace, ⟨taken, flushed, together⟩, fun _ => rfl, bounded, full⟩, rfl, rfl,
        rfl, rfl, rfl⟩
  | false =>
      exact ⟨_, disk, finish_of_clean dirty,
        ⟨samePlace, ⟨taken, written, together⟩, clean, bounded, full⟩, rfl, rfl, rfl,
        rfl, clean dirty⟩

/-- A trail is at work, or it has ended and has nothing left to write. -/
def Settled (trail : Trail) : Prop :=
  trail.state = .running ∨
    trail.state = .finished ∧ trail.sinks = 0 ∧ trail.queue = [] ∧ trail.blocked = [] ∧
      trail.writer.waiting = []

/-- A turn leaves nothing in the queue, and it is the last one if no sink is
left. -/
theorem Keeps.turn (keeps : Keeps place previous logged trail disk)
    (settled : trail.Settled) :
    ∃ next later events, trail.turn disk now = (next, later, events) ∧
      Keeps place previous logged next later ∧ next.Settled ∧
        next.sinks = trail.sinks ∧ (trail.sinks = 0 → next.state = .finished) := by
  rcases settled with running | ended
  · obtain ⟨middle, middleDisk, taken, middleKeeps, sameState, sameSinks, noQueue,
      nobodyWaits⟩ := @Keeps.takeAll place previous logged trail disk now
        (trail.queue.length + trail.blocked.length) keeps (Nat.le_refl _)
    by_cases last : trail.sinks = 0
    · obtain ⟨next, later, finished, nextKeeps, nextState, nextSinks, queue, blocked,
        waiting⟩ := middleKeeps.finish
      refine ⟨next, later, [.trailFinished], ?_, nextKeeps, ?_,
        nextSinks.trans sameSinks, fun _ => nextState⟩
      · simp [Trail.turn, running, taken, sameSinks, last, finished]
      · exact Or.inr ⟨nextState, nextSinks.trans (sameSinks.trans last),
          queue.trans noQueue, blocked.trans nobodyWaits, waiting⟩
    · refine ⟨middle, middleDisk, [], ?_, middleKeeps, Or.inl (sameState.trans running),
        sameSinks, fun noSink => absurd noSink last⟩
      simp [Trail.turn, running, taken, sameSinks, last]
  · have unchanged : trail.turn disk now = (trail, disk, []) := by
      rw [Trail.turn, ended.1]
    exact ⟨trail, disk, [], unchanged, keeps, Or.inr ended, rfl, fun _ => ended.1⟩

end

end Trail

end LinkVetting.Audit
