import LinkVetting.Proofs.Audit.LiveSink
import LinkVetting.Proofs.Audit.TrailSteps
import LinkVetting.Proofs.Audit.WholeLines

/-!
# The course of a trail

A trail takes its course in small steps that come in any order: entries are logged,
sinks come and go, the recorder takes an entry, hands over what is held back, pauses or
comes to the end, and an abort is asked for and at some later time takes effect.
Nothing parts a line on the way.  The file holds the lines of the first entries that
have been taken, and at least of those that had been taken before the last flush.  Once
the trail has come to an end the file stays as it is.
-/

namespace LinkVetting.Audit

open Files (Disk)

/-- What can happen to a trail. -/
inductive Happening where
  | log (entry : Entry)
  | addSink
  | dropSink
  /-- An abort is asked for. -/
  | abort
  /-- The abort takes effect. -/
  | cut
  /-- The recorder takes an entry at a point in time. -/
  | take (now : Nat)
  /-- What is held back is handed over, which is the first part of a flush and of a write that
  finds no room. -/
  | drain
  | pause
  | finish

/-- The entry of a log call. -/
def Happening.entry? : Happening → Option Entry
  | .log entry => some entry
  | _ => none

/-- The event that an entry has been dropped. -/
def Entry.dropped (entry : Entry) : Event := .entryDropped entry.eventType

/-- A point on the course of a trail: the trail with its disk, and what has come before. -/
structure Point where
  trail : Trail
  disk : Disk
  events : List Event := []
  /-- The entries of the log calls that came while the trail was open, in order. -/
  logged : List Entry := []
  /-- The entries that the recorder has taken, in order. -/
  taken : List Entry := []
  /-- The entries that the recorder had taken before its last flush. -/
  flushed : List Entry := []

namespace Point

/-- A point after the recorder has flushed what was unflushed. -/
def afterFlush (point : Point) (answer : Trail × Disk × List Event) : Point :=
  { point with
    trail := answer.1
    disk := answer.2.1
    events := point.events ++ answer.2.2
    flushed := if point.trail.isDirty then point.taken else point.flushed }

/-- One step, if it is possible. -/
def step (point : Point) : Happening → Option Point
  | .log entry =>
      some { point with
        trail := (point.trail.log entry).1
        events := point.events ++ (point.trail.log entry).2
        logged := if point.trail.isOpen then point.logged ++ [entry] else point.logged }
  | .addSink => some { point with trail := point.trail.addSink }
  | .dropSink => some { point with trail := point.trail.dropSink }
  | .abort => some { point with trail := point.trail.abort }
  | .cut =>
      if point.trail.state = .aborting then
        some { point with
          trail := point.trail.abortNow.1
          events := point.events ++ point.trail.abortNow.2 }
      else none
  | .take now =>
      match point.trail.queue with
      | [] => none
      | entry :: _ =>
          if point.trail.isOpen then
            let (trail, disk, events) := point.trail.takeEntry point.disk now
            some { point with
              trail, disk
              events := point.events ++ events
              taken := point.taken ++ [entry] }
          else none
  | .drain =>
      if point.trail.isOpen then
        let (writer, disk, _) := point.trail.writer.drain point.disk
        some { point with trail := { point.trail with writer }, disk }
      else none
  | .pause =>
      if point.trail.isOpen then some (point.afterFlush (point.trail.pause point.disk)) else none
  | .finish =>
      if point.trail.isOpen ∧ point.trail.sinks = 0 ∧ point.trail.pending = [] then
        some (point.afterFlush (point.trail.finish point.disk))
      else none

/-- Steps one after the other. -/
def run (point : Point) : List Happening → Option Point
  | [] => some point
  | happening :: later => (point.step happening).bind fun next => next.run later

section

variable {point middle last : Point} {earlier later : List Happening}

theorem run_append :
    point.run (earlier ++ later) = (point.run earlier).bind fun middle => middle.run later := by
  induction earlier generalizing point with
  | nil => rfl
  | cons happening earlier induction =>
      rw [List.cons_append, run, run]
      cases point.step happening with
      | none => rfl
      | some next => exact induction

theorem run_trans (first : point.run earlier = some middle)
    (second : middle.run later = some last) : point.run (earlier ++ later) = some last := by
  rw [run_append, first, Option.bind_some, second]

end

/-! ## Lines on the way -/

/-- What is on the file at a point and what is held back: the lines of the entries that have
been taken, as long as the trail is open. -/
structure Keeps (place : List Files.Name) (previous : List UInt8) (onFile held : List Entry)
    (point : Point) : Prop where
  place : point.trail.writer.place = place
  holds : point.trail.writer.HoldsLines previous onFile held point.disk
  flushed : point.flushed <+: onFile
  taken : onFile ++ held <+: point.taken
  logged : point.taken <+: point.logged
  whileOpen : point.trail.isOpen = true →
    onFile ++ held = point.taken ∧ point.taken ++ point.trail.pending = point.logged ∧
      point.trail.IsFair

/-- No line is parted at a point. -/
def IsWhole (place : List Files.Name) (previous : List UInt8) (point : Point) : Prop :=
  ∃ onFile held, point.Keeps place previous onFile held

section

variable {place : List Files.Name} {previous : List UInt8} {onFile held : List Entry}
variable {point next : Point} {entry : Entry} {now : Nat}

/-- The file at a point holds whole lines of the first entries that have been taken. -/
theorem IsWhole.file (whole : point.IsWhole place previous) :
    ∃ onFile, point.disk.root.get? place = some (.file (previous ++ linesOf onFile)) ∧
      point.flushed <+: onFile ∧ onFile <+: point.taken ∧ point.taken <+: point.logged := by
  obtain ⟨onFile, held, keeps⟩ := whole
  have file := keeps.holds.file
  rw [keeps.place] at file
  exact ⟨onFile, file, keeps.flushed, (List.prefix_append onFile held).trans keeps.taken,
    keeps.logged⟩

/-! ### Logging -/

theorem log_of_closed {trail : Trail} (closed : trail.isOpen = false) :
    trail.log entry = (trail, [entry.dropped]) := by
  rw [Trail.log, closed]
  rfl

theorem Keeps.log (keeps : point.Keeps place previous onFile held)
    (happens : point.step (.log entry) = some next) : next.Keeps place previous onFile held := by
  obtain ⟨atPlace, holds, flushed, taken, logged, whileOpen⟩ := keeps
  obtain rfl := Option.some.inj happens
  cases isOpen : point.trail.isOpen with
  | false =>
      rw [log_of_closed isOpen]
      exact ⟨atPlace, holds, flushed, taken, logged, whileOpen⟩
  | true =>
      obtain ⟨all, accounted, fair⟩ := whileOpen isOpen
      obtain ⟨queue, blocked, answer, pending, stillFair⟩ := @Trail.log_of_open _ entry isOpen fair
      rw [answer]
      refine ⟨atPlace, holds, flushed, taken, logged.trans (List.prefix_append _ _), fun _ => ?_⟩
      refine ⟨all, ?_, stillFair⟩
      rw [pending, ← List.append_assoc, accounted]
      rfl

/-! ### Taking entries -/

theorem Keeps.take (keeps : point.Keeps place previous onFile held)
    (happens : point.step (.take now) = some next) : next.IsWhole place previous := by
  obtain ⟨atPlace, holds, flushed, _, _, whileOpen⟩ := keeps
  cases waits : point.trail.queue with
  | nil => simp [step, waits] at happens
  | cons entry queue =>
      cases isOpen : point.trail.isOpen with
      | false => simp [step, waits, isOpen] at happens
      | true =>
          obtain ⟨all, accounted, fair⟩ := whileOpen isOpen
          obtain ⟨writer, later, onFileThen, heldThen, answer, samePlace, holdsThen, grows,
            together⟩ := @Writer.HoldsLines.write _ _ _ _ _ entry holds
          simp only [step, waits, isOpen, if_true, Trail.takeEntry_of_write waits answer]
            at happens
          obtain rfl := Option.some.inj happens
          have allThen : onFileThen ++ heldThen = point.taken ++ [entry] := by rw [together, all]
          have accountedThen : point.taken ++ [entry] ++
              (queue ++ point.trail.blocked.take 1 ++ point.trail.blocked.drop 1) =
                point.logged := by
            rw [List.append_assoc queue, List.take_append_drop, ← accounted, Trail.pending, waits]
            simp
          refine ⟨onFileThen, heldThen, samePlace.trans atPlace, holdsThen, flushed.trans grows,
            allThen ▸ List.prefix_rfl, ?_,
            fun _ => ⟨allThen, accountedThen, fair.taken waits⟩⟩
          rw [← accountedThen]
          exact List.prefix_append _ _

/-! ### Flushing -/

theorem Keeps.drain (keeps : point.Keeps place previous onFile held)
    (happens : point.step .drain = some next) : next.IsWhole place previous := by
  obtain ⟨atPlace, holds, flushed, taken, logged, whileOpen⟩ := keeps
  obtain ⟨later, answer, drained⟩ := holds.drain
  rw [step] at happens
  split at happens
  · rename_i isOpen
    rw [answer] at happens
    obtain rfl := Option.some.inj happens
    obtain ⟨all, accounted, fair⟩ := whileOpen isOpen
    refine ⟨onFile ++ held, [], atPlace, drained, flushed.trans (List.prefix_append _ _), ?_,
      logged, fun _ => ⟨?_, accounted, fair⟩⟩
    · rw [List.append_nil]
      exact taken
    · rw [List.append_nil]
      exact all
  · cases happens

/-- A pause and the end flush alike, if something is unflushed. -/
theorem exists_flushed {trail : Trail} {disk : Disk}
    (holds : trail.writer.HoldsLines previous onFile held disk) :
    ∃ writer later onFileThen heldThen,
      trail.pause disk =
          ({ trail with
              writer
              isDirty := false
              deadline := trail.deadline + Trail.pauseLength }, later, []) ∧
        trail.finish disk =
            ({ trail with writer, state := .finished }, later, [.trailFinished]) ∧
          writer.place = trail.writer.place ∧
            writer.HoldsLines previous onFileThen heldThen later ∧ onFile <+: onFileThen ∧
              onFileThen ++ heldThen = onFile ++ held ∧
                (trail.isDirty = true → heldThen = []) := by
  cases dirty : trail.isDirty with
  | true =>
      obtain ⟨later, answer, flushed⟩ := holds.flush
      refine ⟨_, later, onFile ++ held, [], Trail.pause_of_flush dirty answer, ?_, rfl, flushed,
        List.prefix_append onFile held, List.append_nil _, fun _ => rfl⟩
      rw [Trail.finish_of_flush dirty answer, dirty]
  | false =>
      refine ⟨trail.writer, disk, onFile, held, ?_, ?_, rfl, holds, List.prefix_rfl, rfl,
        fun unflushed => by cases unflushed⟩
      · rw [Trail.pause_of_clean dirty, ← dirty]
      · rw [Trail.finish_of_clean dirty, dirty]

theorem Keeps.afterFlush (keeps : point.Keeps place previous onFile held)
    (isOpen : point.trail.isOpen = true) {answer : Trail × Disk × List Event}
    {onFileThen heldThen : List Entry}
    (samePlace : answer.1.writer.place = point.trail.writer.place)
    (holdsThen : answer.1.writer.HoldsLines previous onFileThen heldThen answer.2.1)
    (grows : onFile <+: onFileThen) (together : onFileThen ++ heldThen = onFile ++ held)
    (nothingHeld : point.trail.isDirty = true → heldThen = [])
    (queue : answer.1.queue = point.trail.queue)
    (blocked : answer.1.blocked = point.trail.blocked) :
    (point.afterFlush answer).Keeps place previous onFileThen heldThen := by
  obtain ⟨atPlace, _, flushed, taken, logged, whileOpen⟩ := keeps
  obtain ⟨all, accounted, fair⟩ := whileOpen isOpen
  have pending : answer.1.pending = point.trail.pending := by
    rw [Trail.pending, queue, blocked, Trail.pending]
  have flushedThen :
      (if point.trail.isDirty then point.taken else point.flushed) <+: onFileThen := by
    split
    · rename_i dirty
      have allOnFile : onFileThen = point.taken := by
        rw [← all, ← together, nothingHeld dirty, List.append_nil]
      exact allOnFile ▸ List.prefix_rfl
    · exact flushed.trans grows
  have stillFair : answer.1.IsFair := by
    rw [Trail.IsFair, queue, blocked]
    exact fair
  exact
    { place := samePlace.trans atPlace
      holds := holdsThen
      flushed := flushedThen
      taken := together ▸ taken
      logged := logged
      whileOpen := fun _ => ⟨together.trans all, pending ▸ accounted, stillFair⟩ }

theorem Keeps.pause (keeps : point.Keeps place previous onFile held)
    (happens : point.step .pause = some next) : next.IsWhole place previous := by
  rw [step] at happens
  split at happens
  · rename_i isOpen
    obtain rfl := Option.some.inj happens
    obtain ⟨writer, later, onFileThen, heldThen, paused, _, samePlace, holdsThen, grows, together,
      nothingHeld⟩ := exists_flushed keeps.holds
    rw [paused]
    exact ⟨onFileThen, heldThen,
      keeps.afterFlush isOpen samePlace holdsThen grows together nothingHeld rfl rfl⟩
  · cases happens

theorem Keeps.finish (keeps : point.Keeps place previous onFile held)
    (happens : point.step .finish = some next) : next.IsWhole place previous := by
  rw [step] at happens
  split at happens
  · rename_i ending
    obtain rfl := Option.some.inj happens
    obtain ⟨writer, later, onFileThen, heldThen, _, finished, samePlace, holdsThen, grows,
      together, nothingHeld⟩ := exists_flushed keeps.holds
    rw [finished]
    exact ⟨onFileThen, heldThen,
      keeps.afterFlush ending.1 samePlace holdsThen grows together nothingHeld rfl rfl⟩
  · cases happens

/-! ### Aborts -/

theorem isOpen_abort {trail : Trail} : trail.abort.isOpen = trail.isOpen := by
  rw [Trail.abort]
  split
  · rename_i running
    rw [Trail.isOpen, Trail.isOpen, running]
    rfl
  · rfl

theorem abort_frame {trail : Trail} :
    trail.abort.writer = trail.writer ∧ trail.abort.queue = trail.queue ∧
      trail.abort.blocked = trail.blocked ∧ trail.abort.sinks = trail.sinks := by
  rw [Trail.abort]
  split
  · exact ⟨rfl, rfl, rfl, rfl⟩
  · exact ⟨rfl, rfl, rfl, rfl⟩

theorem Keeps.of_frame (keeps : point.Keeps place previous onFile held) {trail : Trail}
    (isOpen : trail.isOpen = point.trail.isOpen) (writer : trail.writer = point.trail.writer)
    (queue : trail.queue = point.trail.queue) (blocked : trail.blocked = point.trail.blocked) :
    { point with trail }.Keeps place previous onFile held := by
  obtain ⟨atPlace, holds, flushed, taken, logged, whileOpen⟩ := keeps
  refine ⟨by rw [writer]; exact atPlace, by rw [writer]; exact holds, flushed, taken, logged, ?_⟩
  simp only [isOpen, Trail.pending, Trail.IsFair, queue, blocked]
  exact whileOpen

theorem Keeps.cut (keeps : point.Keeps place previous onFile held)
    (happens : point.step .cut = some next) : next.IsWhole place previous := by
  rw [step] at happens
  split at happens
  · obtain rfl := Option.some.inj happens
    obtain ⟨atPlace, holds, flushed, taken, logged, _⟩ := keeps
    refine ⟨onFile, [], atPlace, holds.giveUp, flushed, ?_, logged, fun isOpen => ?_⟩
    · rw [List.append_nil]
      exact (List.prefix_append onFile held).trans taken
    · cases isOpen
  · cases happens

/-! ### Whole courses -/

theorem IsWhole.step {happening : Happening} (whole : point.IsWhole place previous)
    (happens : point.step happening = some next) : next.IsWhole place previous := by
  obtain ⟨onFile, held, keeps⟩ := whole
  cases happening with
  | log entry => exact ⟨onFile, held, keeps.log happens⟩
  | addSink =>
      obtain rfl := Option.some.inj happens
      exact ⟨onFile, held, keeps.of_frame rfl rfl rfl rfl⟩
  | dropSink =>
      obtain rfl := Option.some.inj happens
      exact ⟨onFile, held, keeps.of_frame rfl rfl rfl rfl⟩
  | abort =>
      obtain rfl := Option.some.inj happens
      obtain ⟨writer, queue, blocked, _⟩ := @abort_frame point.trail
      exact ⟨onFile, held, keeps.of_frame isOpen_abort writer queue blocked⟩
  | cut => exact keeps.cut happens
  | take now => exact keeps.take happens
  | drain => exact keeps.drain happens
  | pause => exact keeps.pause happens
  | finish => exact keeps.finish happens

theorem IsWhole.run {course : List Happening} (whole : point.IsWhole place previous)
    (runs : point.run course = some next) : next.IsWhole place previous := by
  induction course generalizing point with
  | nil => exact Option.some.inj runs ▸ whole
  | cons happening course induction =>
      rw [Point.run, Option.bind_eq_some_iff] at runs
      obtain ⟨between, happens, runsOn⟩ := runs
      exact induction (whole.step happens) runsOn

end

/-! ## After the end -/

section

variable {point next : Point} {happening : Happening} {course : List Happening}

/-- A trail that has come to an end stays at its end, and drops the entries of later log
calls. -/
theorem step_of_closed (closed : point.trail.isOpen = false)
    (happens : point.step happening = some next) :
    next.trail.state = point.trail.state ∧ next.disk = point.disk ∧
      next.events = point.events ++ (happening.entry?.toList.map Entry.dropped) := by
  have notAborting : point.trail.state ≠ .aborting := by
    intro aborting
    rw [Trail.isOpen, aborting] at closed
    cases closed
  cases happening with
  | log entry =>
      rw [step, log_of_closed closed] at happens
      obtain rfl := Option.some.inj happens
      exact ⟨rfl, rfl, rfl⟩
  | addSink =>
      obtain rfl := Option.some.inj happens
      exact ⟨rfl, rfl, (List.append_nil _).symm⟩
  | dropSink =>
      obtain rfl := Option.some.inj happens
      exact ⟨rfl, rfl, (List.append_nil _).symm⟩
  | abort =>
      obtain rfl := Option.some.inj happens
      refine ⟨?_, rfl, (List.append_nil _).symm⟩
      dsimp only
      rw [Trail.abort, if_neg]
      intro running
      rw [Trail.isOpen, running] at closed
      cases closed
  | cut =>
      rw [step, if_neg notAborting] at happens
      cases happens
  | take now =>
      rw [step] at happens
      split at happens
      · cases happens
      · rw [closed] at happens
        cases happens
  | drain =>
      rw [step, closed] at happens
      cases happens
  | pause =>
      rw [step, closed] at happens
      cases happens
  | finish =>
      rw [step, closed] at happens
      simp at happens

theorem run_of_closed (closed : point.trail.isOpen = false)
    (runs : point.run course = some next) :
    next.trail.state = point.trail.state ∧ next.disk = point.disk ∧
      next.events = point.events ++ (course.filterMap Happening.entry?).map Entry.dropped := by
  induction course generalizing point with
  | nil =>
      obtain rfl := Option.some.inj runs
      exact ⟨rfl, rfl, (List.append_nil _).symm⟩
  | cons happening course induction =>
      rw [run, Option.bind_eq_some_iff] at runs
      obtain ⟨between, happens, runsOn⟩ := runs
      obtain ⟨state, disk, events⟩ := step_of_closed closed happens
      have stillClosed : between.trail.isOpen = false := by
        rw [Trail.isOpen, state]
        exact closed
      obtain ⟨stateOn, diskOn, eventsOn⟩ := induction stillClosed runsOn
      refine ⟨stateOn.trans state, diskOn.trans disk, ?_⟩
      rw [eventsOn, events, List.append_assoc, ← List.map_append]
      cases happening with
      | log entry => rfl
      | addSink | dropSink | abort | cut | take | drain | pause | finish => rfl

end

end Point

end LinkVetting.Audit
