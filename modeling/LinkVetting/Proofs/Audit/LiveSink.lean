import LinkVetting.Audit.Session
import LinkVetting.Proofs.Audit.Recording

/-!
# Logging through a live sink

Whatever the medium under a trail does, the entries that have been logged through
a live sink are those that the recorder has taken, those in the queue and those
of waiting calls, in this order.  What is reported meanwhile comes from the
recorder.
-/

namespace LinkVetting.Audit

open Files (Disk)

namespace Trail

/-- Calls only wait where the queue is full. -/
def IsFair (trail : Trail) : Prop := trail.blocked ≠ [] → capacity ≤ trail.queue.length

/-- The entries that the recorder has not taken. -/
def pending (trail : Trail) : List Entry := trail.queue ++ trail.blocked

/-- Entries have been logged on a trail while its recorder has taken some of the
pending ones and has reported events. -/
structure Advances (trail : Trail) (disk : Disk) (entries : List Entry) (events : List Event)
    (next : Trail) (later : Disk) : Prop where
  recorded : ∃ taken,
    (trail.recorder disk).run Writer.medium (taken.map .entry) =
        (next.recorder later, events) ∧
      taken ++ next.pending = trail.pending ++ entries
  state : next.state = trail.state
  sinks : next.sinks = trail.sinks

section

variable {trail middle next : Trail} {disk middleDisk later : Disk} {now : Nat}
variable {entries others : List Entry} {events reports : List Event} {entry : Entry}

theorem IsFair.nobodyWaits (fair : trail.IsFair) (room : trail.queue.length < capacity) :
    trail.blocked = [] := by
  by_cases nobody : trail.blocked = []
  · exact nobody
  · have atCapacity := fair nobody
    omega

theorem Advances.refl : Advances trail disk [] [] trail disk :=
  ⟨⟨[], rfl, by simp⟩, rfl, rfl⟩

theorem Advances.trans (first : Advances trail disk entries events middle middleDisk)
    (second : Advances middle middleDisk others reports next later) :
    Advances trail disk (entries ++ others) (events ++ reports) next later := by
  obtain ⟨⟨taken, ran, accounted⟩, sameState, sameSinks⟩ := first
  obtain ⟨⟨more, ranOn, accountedMore⟩, nextState, nextSinks⟩ := second
  refine ⟨⟨taken ++ more, ?_, ?_⟩, nextState.trans sameState, nextSinks.trans sameSinks⟩
  · rw [List.map_append, Recorder.run_entries_append, ran, ranOn]
  · rw [List.append_assoc, accountedMore, ← List.append_assoc, accounted, List.append_assoc]

/-- A run to the end can be taken up where a trail has advanced. -/
theorem Advances.run_ended (advances : Advances trail disk entries events next later) :
    ((trail.recorder disk).run Writer.medium
        ((trail.pending ++ entries).map .entry ++ [.ended])).1 =
      ((next.recorder later).run Writer.medium (next.pending.map .entry ++ [.ended])).1 := by
  obtain ⟨taken, ran, accounted⟩ := advances.recorded
  rw [← accounted, List.map_append, List.append_assoc, Recorder.run_entries_append, ran]

theorem log_of_open (isOpen : trail.isOpen = true) (fair : trail.IsFair) :
    ∃ queue blocked, trail.log entry = ({ trail with queue, blocked }, []) ∧
      { trail with queue, blocked : Trail }.pending = trail.pending ++ [entry] ∧
        { trail with queue, blocked : Trail }.IsFair := by
  by_cases room : trail.queue.length < capacity
  · have nobodyWaits := fair.nobodyWaits room
    refine ⟨trail.queue ++ [entry], trail.blocked, by simp [Trail.log, isOpen, room], ?_, ?_⟩
    · simp [pending, nobodyWaits]
    · exact fun waits => absurd nobodyWaits waits
  · refine ⟨trail.queue, trail.blocked ++ [entry], by simp [Trail.log, isOpen, room], ?_, ?_⟩
    · simp [pending]
    · exact fun _ => Nat.le_of_not_lt room

theorem advances_log (running : trail.state = .running) (fair : trail.IsFair) :
    trail.log entry = ((trail.log entry).1, []) ∧
      Advances trail disk [entry] [] (trail.log entry).1 disk ∧
        (trail.log entry).1.IsFair := by
  have isOpen : trail.isOpen = true := by simp [Trail.isOpen, running]
  obtain ⟨queue, blocked, answer, nextPending, stillFair⟩ := @log_of_open trail entry isOpen fair
  rw [answer]
  exact ⟨rfl, ⟨⟨[], rfl, nextPending⟩, rfl, rfl⟩, stillFair⟩

theorem IsFair.taken {queue : List Entry} (fair : trail.IsFair)
    (waits : trail.queue = entry :: queue) {writer : Writer} {isDirty : Bool} {deadline : Nat} :
    { trail with
      writer, isDirty, deadline
      queue := queue ++ trail.blocked.take 1
      blocked := trail.blocked.drop 1 : Trail }.IsFair := by
  intro stillWaits
  have others : 0 < (trail.blocked.drop 1).length := List.length_pos_iff.mpr stillWaits
  rw [List.length_drop] at others
  have atCapacity := fair (List.ne_nil_of_length_pos (by omega))
  rw [waits, List.length_cons] at atCapacity
  simp only [List.length_append, List.length_take]
  omega

theorem advances_takeEntry (fair : trail.IsFair) (someQueue : trail.queue ≠ []) :
    ∃ next later events, trail.takeEntry disk now = (next, later, events) ∧
      Advances trail disk [] events next later ∧ next.IsFair ∧
        next.pending.length + 1 = trail.pending.length := by
  obtain ⟨first, queue, cut⟩ := List.exists_cons_of_ne_nil someQueue
  cases recorded : (trail.recorder disk).record Writer.medium first with
  | mk recorder events =>
      have answer : trail.takeEntry disk now =
          ({ (trail.withRecorder recorder).1 with
              queue := queue ++ trail.blocked.take 1
              blocked := trail.blocked.drop 1
              deadline := now + pauseLength }, recorder.state.2, events) := by
        simp only [takeEntry, cut, recorded, withRecorder]
      refine ⟨_, _, _, answer, ⟨⟨[first], ?_, ?_⟩, rfl, rfl⟩, fair.taken cut, ?_⟩
      · rw [List.map_singleton, Recorder.run_cons Signal.noConfusion, Recorder.react, recorded]
        simp [Recorder.run, Trail.recorder, withRecorder]
      · rw [pending, pending, cut, List.append_assoc queue, List.take_append_drop]
        simp
      · simp only [pending, cut, List.length_append, List.length_cons, List.length_take,
          List.length_drop]
        omega

theorem advances_takeAll {fuel : Nat} (fair : trail.IsFair)
    (enough : trail.pending.length ≤ fuel) :
    ∃ next later events, takeAll now fuel trail disk = (next, later, events) ∧
      Advances trail disk [] events next later ∧ next.pending = [] := by
  induction fuel generalizing trail disk with
  | zero =>
      have nothing : trail.pending = [] := List.length_eq_zero_iff.mp (Nat.le_zero.mp enough)
      exact ⟨trail, disk, [], rfl, .refl, nothing⟩
  | succ fuel induction =>
      by_cases noQueue : trail.queue = []
      · have nobodyWaits := fair.nobodyWaits (by simp [noQueue, capacity])
        refine ⟨trail, disk, [], by simp [takeAll, noQueue], .refl, ?_⟩
        simp [pending, noQueue, nobodyWaits]
      · obtain ⟨middle, middleDisk, events, taken, advances, stillFair, fewer⟩ :=
          @advances_takeEntry trail disk now fair noQueue
        obtain ⟨next, later, reports, rest, advancesOn, nothing⟩ :=
          @induction middle middleDisk stillFair (by omega)
        refine ⟨next, later, events ++ reports, ?_, advances.trans advancesOn, nothing⟩
        have someQueue : trail.queue.isEmpty = false := by simpa using noQueue
        simp [takeAll, someQueue, taken, rest]

theorem advances_turn (running : trail.state = .running) (fair : trail.IsFair)
    (shared : trail.sinks ≠ 0) :
    ∃ next later events, trail.turn disk now = (next, later, events) ∧
      Advances trail disk [] events next later ∧ next.pending = [] := by
  obtain ⟨next, later, events, taken, advances, nothing⟩ :=
    @advances_takeAll trail disk now (trail.queue.length + trail.blocked.length) fair
      (Nat.le_of_eq List.length_append)
  refine ⟨next, later, events, ?_, advances, nothing⟩
  simp [turn, running, taken, advances.sinks, shared]

/-- The last turn of a trail takes all that is pending and comes to the end. -/
theorem turn_of_no_sinks (running : trail.state = .running) (fair : trail.IsFair)
    (last : trail.sinks = 0) :
    ∃ next later events, trail.turn disk now = (next, later, events) ∧
      (trail.recorder disk).run Writer.medium (trail.pending.map .entry ++ [.ended]) =
        (next.recorder later, events) ∧ next.state = .finished := by
  obtain ⟨middle, middleDisk, events, took, advances, nothing⟩ :=
    @advances_takeAll trail disk now (trail.queue.length + trail.blocked.length) fair
      (Nat.le_of_eq List.length_append)
  obtain ⟨⟨taken, ran, accounted⟩, sameState, sameSinks⟩ := advances
  rw [nothing, List.append_nil, List.append_nil] at accounted
  rw [accounted] at ran
  cases finished : (middle.recorder middleDisk).finish Writer.medium with
  | mk recorder reports =>
      refine ⟨{ (middle.withRecorder recorder).1 with state := .finished },
        recorder.state.2, events ++ reports, ?_, ?_, rfl⟩
      · simp [turn, running, took, sameSinks, last, finish, finished, withRecorder]
      · rw [Recorder.run_entries_append, ran]
        simp only [Recorder.run, Recorder.react, finished]
        rfl

end

end Trail

namespace Session

/-- A session holds a live sink of its only trail. -/
structure HasLiveSink (session : Session) (name : String) (trail : Trail) : Prop where
  trails : session.trails = [trail]
  sink : session.sinks.lookup name = some 0
  running : trail.state = .running
  shared : trail.sinks ≠ 0
  fair : trail.IsFair

section

variable {session : Session} {name : String} {trail : Trail} {entry : Entry}
variable {entries : List Entry}

theorem HasLiveSink.log (live : session.HasLiveSink name trail) :
    ∃ next, (session.log name entry).1.HasLiveSink name next ∧
      trail.Advances session.disk [entry] (session.log name entry).2 next
        (session.log name entry).1.disk := by
  obtain ⟨trails, sink, running, shared, fair⟩ := live
  obtain ⟨answer, logged, stillFair⟩ :=
    @Trail.advances_log trail session.disk entry running fair
  have stillRunning := logged.state.trans running
  have stillShared := logged.sinks.symm ▸ shared
  have found : session.trails[0]? = some trail := by simp [trails]
  by_cases nobodyWaits : (trail.log entry).1.blocked = []
  · have outcome : session.log name entry =
        (session.setTrail 0 (trail.log entry).1, []) := by
      rw [Session.log, sink]
      simp only [found]
      rw [answer]
      simp [nobodyWaits]
    rw [outcome]
    exact ⟨(trail.log entry).1,
      ⟨by simp [setTrail, trails], sink, stillRunning, stillShared, stillFair⟩, logged⟩
  · obtain ⟨next, later, events, turned, advances, nothing⟩ :=
      @Trail.advances_turn (trail.log entry).1 session.disk session.now stillRunning
        stillFair stillShared
    have outcome : session.log name entry =
        ({ session with disk := later, trails := [next] }, events) := by
      rw [Session.log, sink]
      simp only [found]
      rw [answer]
      simp [nobodyWaits, turnAll, setTrail, trails, turns, turnOf, turned]
    rw [outcome]
    refine ⟨next, ⟨rfl, sink, advances.state.trans stillRunning,
      advances.sinks.symm ▸ stillShared, fun waits => ?_⟩, logged.trans advances⟩
    exact absurd (List.append_eq_nil_iff.mp nothing).2 waits

theorem HasLiveSink.logAll (live : session.HasLiveSink name trail) :
    ∃ next, (session.logAll name entries).1.HasLiveSink name next ∧
      trail.Advances session.disk entries (session.logAll name entries).2 next
        (session.logAll name entries).1.disk := by
  induction entries generalizing session trail with
  | nil => exact ⟨trail, live, .refl⟩
  | cons entry later induction =>
      obtain ⟨middle, stillLive, logged⟩ := @HasLiveSink.log session name trail entry live
      obtain ⟨next, liveAfter, loggedLater⟩ := induction stillLive
      exact ⟨next, liveAfter, logged.trans loggedLater⟩

/-- A session that starts a trail has a live sink of it. -/
theorem start_of_openOn {disk opened : Disk} {path : Files.Path} {writer : Writer}
    (answer : Writer.openOn disk path = (opened, .ok writer)) :
    ∃ started, ({ disk : Session }).start name path = (started, .ok [.trailOpened path]) ∧
      started.disk = opened ∧
        started.HasLiveSink name { writer, deadline := Trail.pauseLength } := by
  refine ⟨⟨opened, 0, [{ writer, deadline := Trail.pauseLength }], [(name, 0)]⟩, ?_, rfl, ?_⟩
  · simp [start, Trail.start, answer, dropSink]
  · exact
      { trails := rfl
        sink := by simp
        running := rfl
        shared := Nat.one_ne_zero
        fair := fun waits => absurd rfl waits }

/-- Once the only sink is given up, the recorder takes what is pending and comes
to the end before the session goes on, however long it would wait. -/
theorem HasLiveSink.join {patience : Nat} (live : session.HasLiveSink name trail)
    (only : trail.sinks = 1) :
    ((session.dropSink name).join patience).1.disk =
      ((trail.recorder session.disk).run Writer.medium
        (trail.pending.map .entry ++ [.ended])).1.state.2 := by
  obtain ⟨trails, sink, running, _, fair⟩ := live
  obtain ⟨next, later, events, turned, ran, finished⟩ :=
    @Trail.turn_of_no_sinks trail.dropSink session.disk session.now running fair
      (by rw [Trail.dropSink, only])
  have same : trail.dropSink.recorder session.disk = trail.recorder session.disk := rfl
  have samePending : trail.dropSink.pending = trail.pending := rfl
  rw [same, samePending] at ran
  rw [ran]
  simp [dropSink, sink, trails, Session.join, turnAll, turns, turnOf, setTrail, turned, finished,
    Trail.recorder]

end

end Session

end LinkVetting.Audit
