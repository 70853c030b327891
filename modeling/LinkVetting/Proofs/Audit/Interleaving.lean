import LinkVetting.Proofs.Audit.TrailSteps

/-!
# Interleaved use of a trail

Any number of sinks log entries, are copied and are given up while time passes
and the recorder works, in any order.  A trail that has ended has outlived all
sinks and has put every entry on the file, once and in order.
-/

namespace LinkVetting.Audit

open Files (Disk)

/-- A trail in use: the disk, the clock, and the sinks that are held, by number. -/
structure Usage where
  disk : Disk
  trail : Trail
  now : Nat
  held : List Nat

namespace Usage

/-- What can happen to a trail in use.  Nothing aborts it. -/
inductive Action where
  /-- A log call takes its place in the queue or behind it. -/
  | log (sink : Nat) (entry : Entry)
  | clone (sink copy : Nat)
  | drop (sink : Nat)
  | wait (milliseconds : Nat)
  /-- The recorder takes one entry. -/
  | take
  /-- No entry has come for a pause. -/
  | pause
  | turn

/-- One action, if it is possible: only held sinks log, are copied or given up,
only a trail that runs takes entries, and a pause has to be over. -/
def step (usage : Usage) : Action → Option Usage
  | .log sink entry =>
      if sink ∈ usage.held then
        some { usage with trail := (usage.trail.log entry).1 }
      else none
  | .clone sink copy =>
      if sink ∈ usage.held ∧ copy ∉ usage.held then
        some { usage with trail := usage.trail.addSink, held := copy :: usage.held }
      else none
  | .drop sink =>
      if sink ∈ usage.held then
        some { usage with trail := usage.trail.dropSink, held := usage.held.erase sink }
      else none
  | .wait milliseconds => some { usage with now := usage.now + milliseconds }
  | .take =>
      if usage.trail.state = .running then
        let (trail, disk, _) := usage.trail.takeEntry usage.disk usage.now
        some { usage with trail, disk }
      else none
  | .pause =>
      if usage.trail.state = .running ∧ usage.trail.deadline ≤ usage.now then
        let (trail, disk, _) := usage.trail.pause usage.disk
        some { usage with trail, disk }
      else none
  | .turn =>
      let (trail, disk, _) := usage.trail.turn usage.disk usage.now
      some { usage with trail, disk }

/-- Actions one after the other. -/
def run (usage : Usage) : List Action → Option Usage
  | [] => some usage
  | action :: later => (usage.step action).bind fun next => next.run later

theorem run_append {usage : Usage} {first second : List Action} :
    usage.run (first ++ second) = (usage.run first).bind fun middle => middle.run second := by
  induction first generalizing usage with
  | nil => rfl
  | cons action first induction =>
      rw [List.cons_append, run, run, Option.bind_assoc]
      exact Option.bind_congr fun next _ => induction

/-- A trail that has just been started, with its one sink. -/
def ofStart (disk : Disk) (trail : Trail) (now : Nat) : Usage := ⟨disk, trail, now, [0]⟩

/-- The entry that an action logs. -/
def Action.entry? : Action → Option Entry
  | .log _ entry => some entry
  | _ => none

/-- The entry that an action logs through a sink. -/
def Action.entryOf? (sink : Nat) : Action → Option Entry
  | .log other entry => if other = sink then some entry else none
  | _ => none

/-- The entries that actions log, in order. -/
def logged (actions : List Action) : List Entry := actions.filterMap Action.entry?

/-- The entries that actions log through a sink, in order. -/
def loggedBy (sink : Nat) (actions : List Action) : List Entry :=
  actions.filterMap (Action.entryOf? sink)

theorem loggedBy_sublist {sink : Nat} {actions : List Action} :
    (loggedBy sink actions).Sublist (logged actions) := by
  induction actions with
  | nil => exact .slnil
  | cons action actions induction =>
      cases action with
      | log other entry =>
          by_cases same : other = sink
          · simpa [loggedBy, logged, Action.entry?, Action.entryOf?, same] using induction
          · simpa [loggedBy, logged, Action.entry?, Action.entryOf?, same] using
              induction.cons entry
      | _ => exact induction

/-- What every action preserves. -/
structure Holds (place : List Files.Name) (previous : List UInt8) (logged : List Entry)
    (usage : Usage) : Prop where
  keeps : usage.trail.Keeps place previous logged usage.disk
  settled : usage.trail.Settled
  sinks : usage.trail.sinks = usage.held.length

section

variable {place : List Files.Name} {previous : List UInt8} {entries : List Entry}
variable {usage next : Usage}

theorem Holds.running (holds : Holds place previous entries usage) {sink : Nat}
    (member : sink ∈ usage.held) : usage.trail.state = .running := by
  rcases holds.settled with running | ⟨_, noSinks, _⟩
  · exact running
  · have none : usage.held.length = 0 := holds.sinks.symm.trans noSinks
    have some : 0 < usage.held.length := List.length_pos_of_mem member
    omega

theorem Holds.step {action : Action} (holds : Holds place previous entries usage)
    (stepped : usage.step action = some next) :
    Holds place previous (entries ++ action.entry?.toList) next := by
  have running {sink : Nat} (member : sink ∈ usage.held) := holds.running member
  obtain ⟨keeps, settled, sinks⟩ := holds
  cases action with
  | log sink entry =>
      rw [Usage.step] at stepped
      split at stepped
      · rename_i member
        cases stepped
        obtain ⟨sameState, sameSinks⟩ := @Trail.log_frame usage.trail entry
        exact
          { keeps := keeps.log (running member)
            settled := Or.inl (sameState.trans (running member))
            sinks := sameSinks.trans sinks }
      · cases stepped
  | clone sink copy =>
      change Holds place previous (entries ++ []) next
      rw [List.append_nil]
      rw [Usage.step] at stepped
      split at stepped
      · rename_i possible
        cases stepped
        exact
          { keeps := keeps.addSink
            settled := Or.inl (running possible.1)
            sinks := congrArg (· + 1) sinks }
      · cases stepped
  | drop sink =>
      change Holds place previous (entries ++ []) next
      rw [List.append_nil]
      rw [Usage.step] at stepped
      split at stepped
      · rename_i member
        cases stepped
        have fewer := List.length_erase_of_mem member
        exact
          { keeps := keeps.dropSink
            settled := Or.inl (running member)
            sinks := (congrArg (· - 1) sinks).trans fewer.symm }
      · cases stepped
  | wait milliseconds =>
      change Holds place previous (entries ++ []) next
      rw [List.append_nil]
      cases stepped
      exact ⟨keeps, settled, sinks⟩
  | take =>
      change Holds place previous (entries ++ []) next
      rw [List.append_nil]
      rw [Usage.step] at stepped
      split at stepped
      · rename_i atWork
        obtain ⟨trail, disk, answer, nextKeeps, sameState, sameSinks, _⟩ :=
          @Trail.Keeps.takeEntry _ _ _ _ _ usage.now keeps
        rw [answer] at stepped
        cases stepped
        exact
          { keeps := nextKeeps
            settled := Or.inl (sameState.trans atWork)
            sinks := sameSinks.trans sinks }
      · cases stepped
  | pause =>
      change Holds place previous (entries ++ []) next
      rw [List.append_nil]
      rw [Usage.step] at stepped
      split at stepped
      · rename_i possible
        obtain ⟨trail, disk, answer, nextKeeps, sameState, sameSinks, _⟩ := keeps.pause
        rw [answer] at stepped
        cases stepped
        exact
          { keeps := nextKeeps
            settled := Or.inl (sameState.trans possible.1)
            sinks := sameSinks.trans sinks }
      · cases stepped
  | turn =>
      change Holds place previous (entries ++ []) next
      rw [List.append_nil]
      obtain ⟨trail, disk, events, answer, nextKeeps, nextSettled, sameSinks, _⟩ :=
        @Trail.Keeps.turn _ _ _ _ _ usage.now keeps settled
      rw [Usage.step, answer] at stepped
      cases stepped
      exact
        { keeps := nextKeeps
          settled := nextSettled
          sinks := sameSinks.trans sinks }

/-- The file of a trail that has ended has the line of each entry, once and in order. -/
theorem Holds.file (holds : Holds place previous entries usage)
    (finished : usage.trail.state = .finished) :
    usage.held = [] ∧
      usage.disk.root.get? place =
        some (.file (previous ++ entries.flatMap Entry.bytes)) := by
  obtain ⟨keeps, settled, sinks⟩ := holds
  rcases settled with running | ⟨_, noSinks, noQueue, nobodyWaits, nothingWaits⟩
  · rw [running] at finished
    cases finished
  · refine ⟨List.length_eq_zero_iff.mp (sinks.symm.trans noSinks), ?_⟩
    obtain ⟨samePlace, ⟨taken, ⟨⟨content, file, together⟩, _⟩, accounted⟩, _⟩ := keeps
    rw [noQueue, nobodyWaits, List.append_nil, List.append_nil] at accounted
    rw [nothingWaits, List.append_nil, accounted] at together
    rw [← samePlace, file, together]

theorem Holds.run {actions : List Action} (holds : Holds place previous entries usage)
    (ran : usage.run actions = some next) :
    Holds place previous (entries ++ logged actions) next := by
  induction actions generalizing usage entries with
  | nil =>
      cases ran
      simpa [logged] using holds
  | cons action later induction =>
      rw [Usage.run] at ran
      obtain ⟨middle, stepped, rest⟩ := Option.bind_eq_some_iff.mp ran
      have reached := induction (holds.step stepped) rest
      rw [List.append_assoc] at reached
      have together : action.entry?.toList ++ logged later = logged (action :: later) := by
        cases entry : action.entry? <;> simp [logged, entry]
      rwa [together] at reached

end

theorem holds_ofStart {disk opened : Disk} {path : Files.Path} {trail : Trail}
    {event : Event} {now : Nat}
    (started : Trail.start disk path now = (opened, .ok (trail, event)))
    (regular : ∃ content, opened.root.get? trail.writer.place = some (.file content)) :
    Holds trail.writer.place (disk.contentAt trail.writer.place) []
      (ofStart opened trail now) := by
  rw [Trail.start] at started
  split at started
  · rename_i later writer answer
    cases started
    obtain ⟨written, nothingWaits⟩ := Writer.hasWritten_of_openOn answer regular
    exact
      { keeps :=
          { place := rfl
            recorded := by
              refine ⟨[], ?_, rfl⟩
              rw [List.flatMap_nil, List.append_nil]
              exact written
            clean := fun _ => nothingWaits
            bounded := Nat.zero_le _
            full := fun waits => absurd rfl waits }
        settled := Or.inl rfl
        sinks := rfl }
  · cases started

/-- Once every sink has been given up, a turn ends the trail. -/
theorem turn_finishes {place : List Files.Name} {previous : List UInt8}
    {entries : List Entry} {usage : Usage} (holds : Holds place previous entries usage)
    (noSinks : usage.held = []) :
    ∃ next, usage.step .turn = some next ∧ next.trail.state = .finished := by
  obtain ⟨trail, disk, events, answer, _, _, _, last⟩ :=
    @Trail.Keeps.turn _ _ _ _ _ usage.now holds.keeps holds.settled
  refine ⟨{ usage with trail, disk }, by rw [Usage.step, answer], last ?_⟩
  rw [holds.sinks, noSinks, List.length_nil]

/-- A trail that ends has outlived all sinks.  Its file then has the content from
before the start and the line of each logged entry, once and in order; the
entries of each sink stand in the order in which it logged them. -/
theorem file_of_finished {disk opened : Disk} {path : Files.Path} {trail : Trail}
    {event : Event} {now : Nat} {actions : List Action} {usage : Usage}
    (started : Trail.start disk path now = (opened, .ok (trail, event)))
    (regular : ∃ content, opened.root.get? trail.writer.place = some (.file content))
    (ran : (ofStart opened trail now).run actions = some usage)
    (finished : usage.trail.state = .finished) :
    usage.held = [] ∧
      usage.disk.root.get? trail.writer.place =
        some (.file (disk.contentAt trail.writer.place ++
          (logged actions).flatMap fun entry =>
            Text.Utf8.encode entry.lineChars ++ [0x0A])) ∧
        ∀ sink, (loggedBy sink actions).Sublist (logged actions) := by
  obtain ⟨noSinks, file⟩ := ((holds_ofStart started regular).run ran).file finished
  have bytes : Entry.bytes =
      fun entry => Text.Utf8.encode entry.lineChars ++ [0x0A] := by
    funext entry
    rw [Entry.bytes, Text.Utf8.encode_append]
    rfl
  rw [List.nil_append, bytes] at file
  exact ⟨noSinks, file, fun sink => loggedBy_sublist⟩

/-- An entry without an input or a rejection. -/
def plainEntry (eventType : EventType) : Entry where
  id := ⟨List.replicate 32 ⟨0, by decide⟩, rfl⟩
  timestamp := .epoch
  eventType
  source := { component := "c" }
  details := .null

theorem file_of_finished_two_sinks :
    ∃ opened trail event usage,
      Trail.start ⟨.directory [], []⟩ ⟨[0x61]⟩ 0 = (opened, .ok (trail, event)) ∧
        opened.root.get? trail.writer.place = some (.file []) ∧
          (ofStart opened trail 0).run
            [.log 0 (plainEntry .processStarted), .clone 0 1, .take,
              .log 1 (plainEntry .processStopped), .drop 0, .wait 600, .pause, .drop 1,
              .turn] = some usage ∧
            usage.trail.state = .finished ∧ usage.held = [] ∧
              usage.disk.root.get? trail.writer.place =
                some (.file ([plainEntry .processStarted,
                  plainEntry .processStopped].flatMap fun entry =>
                    Text.Utf8.encode entry.lineChars ++ [0x0A])) := by
  let opened : Disk := ⟨.directory [([0x61], .file [])], []⟩
  let trail : Trail := { writer := { path := ⟨[0x61]⟩, place := [[0x61]] }, deadline := 500 }
  have started : Trail.start ⟨.directory [], []⟩ ⟨[0x61]⟩ 0 =
      (opened, .ok (trail, .trailOpened ⟨[0x61]⟩)) := rfl
  have file : opened.root.get? trail.writer.place = some (.file []) := rfl
  have ends : ((ofStart opened trail 0).run
      [.log 0 (plainEntry .processStarted), .clone 0 1, .take,
        .log 1 (plainEntry .processStopped), .drop 0, .wait 600, .pause, .drop 1,
        .turn]).map (fun usage => usage.trail.state) = some .finished := by
    decide +kernel
  obtain ⟨usage, ran, finished⟩ := Option.map_eq_some_iff.mp ends
  obtain ⟨noSinks, content, _⟩ := file_of_finished started ⟨[], file⟩ ran finished
  exact ⟨opened, trail, _, usage, started, file, ran, finished, noSinks, content⟩

end Usage

end LinkVetting.Audit
