import LinkVetting.Proofs.Audit.IdleFlush
import LinkVetting.Proofs.Audit.TrailCourse

/-!
# The course of a session

A session logs on its only trail, copies and gives up its sinks, is idle, asks for an
abort and waits for the end, in any order.  All of this is a course of the trail, so
an abort may cut the trail but parts no line: it can come at any point, and what is on
the file then are whole lines.
-/

namespace LinkVetting.Audit

open Files (Disk)

namespace Point

/-- A course of the trail leads from one point to another, with some events and some log
calls on the way, of which some have come while the trail was open. -/
structure LeadsTo (point : Point) (events : List Event) (called accepted : List Entry)
    (last : Point) : Prop where
  course : ∃ course, point.run course = some last ∧ course.filterMap Happening.entry? = called
  events : last.events = point.events ++ events
  logged : last.logged = point.logged ++ accepted

section

variable {point middle last : Point} {events reports : List Event}
variable {called accepted others more : List Entry}
variable {place : List Files.Name} {previous : List UInt8} {now fuel : Nat}

theorem LeadsTo.refl : point.LeadsTo [] [] [] point :=
  ⟨⟨[], rfl, rfl⟩, (List.append_nil _).symm, (List.append_nil _).symm⟩

theorem LeadsTo.trans (first : point.LeadsTo events called accepted middle)
    (second : middle.LeadsTo reports others more last) :
    point.LeadsTo (events ++ reports) (called ++ others) (accepted ++ more) last := by
  obtain ⟨⟨earlier, runs, calls⟩, noted, logged⟩ := first
  obtain ⟨⟨later, runsOn, callsOn⟩, notedOn, loggedOn⟩ := second
  refine ⟨⟨earlier ++ later, run_trans runs runsOn, ?_⟩, ?_, ?_⟩
  · rw [List.filterMap_append, calls, callsOn]
  · rw [notedOn, noted, List.append_assoc]
  · rw [loggedOn, logged, List.append_assoc]

theorem LeadsTo.of_step {happening : Happening} (happens : point.step happening = some last)
    (silent : happening.entry? = none) (noted : last.events = point.events ++ events)
    (logged : last.logged = point.logged) : point.LeadsTo events [] [] last := by
  refine ⟨⟨[happening], ?_, ?_⟩, noted, logged.trans (List.append_nil _).symm⟩
  · rw [run, happens]
    rfl
  · rw [List.filterMap_cons_none silent, List.filterMap_nil]

theorem LeadsTo.isWhole (leads : point.LeadsTo events called accepted last)
    (whole : point.IsWhole place previous) : last.IsWhole place previous := by
  obtain ⟨⟨course, runs, _⟩, _⟩ := leads
  exact whole.run runs

/-! ## Turns of the recorder -/

theorem takeEntry_frame {trail : Trail} {disk : Disk} :
    (trail.takeEntry disk now).1.state = trail.state ∧
      (trail.takeEntry disk now).1.sinks = trail.sinks := by
  cases waits : trail.queue with
  | nil => simp only [Trail.takeEntry, waits, and_self]
  | cons entry queue => simp only [Trail.takeEntry, waits, Trail.withRecorder, and_self]

theorem exists_takeAll (isOpen : point.trail.isOpen = true) :
    ∃ last events, Trail.takeAll now fuel point.trail point.disk =
        (last.trail, last.disk, events) ∧
      point.LeadsTo events [] [] last ∧ last.trail.state = point.trail.state ∧
        last.trail.sinks = point.trail.sinks := by
  induction fuel generalizing point with
  | zero => exact ⟨point, [], rfl, .refl, rfl, rfl⟩
  | succ fuel induction =>
      cases waits : point.trail.queue with
      | nil =>
          refine ⟨point, [], ?_, .refl, rfl, rfl⟩
          simp [Trail.takeAll, waits]
      | cons entry queue =>
          obtain ⟨sameState, sameSinks⟩ := @takeEntry_frame now point.trail point.disk
          cases answer : point.trail.takeEntry point.disk now with
          | mk trail rest =>
              obtain ⟨disk, events⟩ := rest
              rw [answer] at sameState sameSinks
              let next : Point :=
                { point with
                  trail, disk
                  events := point.events ++ events
                  taken := point.taken ++ [entry] }
              have happens : point.step (.take now) = some next := by
                simp only [step, waits, isOpen, if_true, answer, next]
              have stillOpen : next.trail.isOpen = true := by
                rw [← isOpen, Trail.isOpen, Trail.isOpen, ← sameState]
              obtain ⟨last, reports, rest, leads, lastState, lastSinks⟩ := induction stillOpen
              have first : point.LeadsTo events [] [] next :=
                .of_step happens rfl rfl rfl
              refine ⟨last, events ++ reports, ?_, first.trans leads,
                lastState.trans sameState, lastSinks.trans sameSinks⟩
              simp only [Trail.takeAll, waits, List.isEmpty_cons, Bool.false_eq_true, if_false,
                answer]
              simp only [next] at rest
              rw [rest]

/-- A turn of the recorder is a course of the trail. -/
theorem exists_turn (whole : point.IsWhole place previous) :
    ∃ last events, point.trail.turn point.disk now = (last.trail, last.disk, events) ∧
      point.LeadsTo events [] [] last ∧ last.trail.sinks = point.trail.sinks := by
  cases state : point.trail.state with
  | finished => exact ⟨point, [], by rw [Trail.turn, state], .refl, rfl⟩
  | aborted => exact ⟨point, [], by rw [Trail.turn, state], .refl, rfl⟩
  | aborting =>
      have happens : point.step .cut = some
          { point with
            trail := point.trail.abortNow.1
            events := point.events ++ point.trail.abortNow.2 } := by
        rw [step, if_pos state]
      exact ⟨_, point.trail.abortNow.2, by rw [Trail.turn, state],
        .of_step happens rfl rfl rfl, rfl⟩
  | running =>
      have isOpen : point.trail.isOpen = true := by rw [Trail.isOpen, state]; rfl
      obtain ⟨_, _, keeps⟩ := whole
      obtain ⟨_, _, fair⟩ := keeps.whileOpen isOpen
      let fuel := point.trail.queue.length + point.trail.blocked.length
      obtain ⟨middle, events, taken, leads, sameState, sameSinks⟩ :=
        @exists_takeAll point now fuel isOpen
      obtain ⟨_, _, _, takenAlso, _, nothing⟩ :=
        @Trail.advances_takeAll point.trail point.disk now fuel fair
          (Nat.le_of_eq List.length_append)
      rw [taken] at takenAlso
      cases takenAlso
      by_cases last : point.trail.sinks = 0
      · have ending : middle.trail.isOpen = true ∧ middle.trail.sinks = 0 ∧
            middle.trail.pending = [] := by
          refine ⟨?_, sameSinks.trans last, nothing⟩
          rw [← isOpen, Trail.isOpen, Trail.isOpen, ← sameState]
        have happens : middle.step .finish =
            some (middle.afterFlush (middle.trail.finish middle.disk)) := by
          rw [step, if_pos ending]
        have finished : middle.LeadsTo (middle.trail.finish middle.disk).2.2 [] [] _ :=
          .of_step happens rfl rfl rfl
        refine ⟨_, _, ?_, leads.trans finished, sameSinks⟩
        simp only [fuel] at taken
        simp [Trail.turn, state, taken, sameSinks, last, afterFlush]
      · refine ⟨middle, events, ?_, leads, sameSinks⟩
        simp only [fuel] at taken
        simp [Trail.turn, state, taken, sameSinks, last]

end

end Point

namespace Session

/-! ## Steps of a session -/

/-- What a session can do with its trails and with their ends. -/
inductive Step where
  | move (move : Move)
  /-- Asks for an abort. -/
  | abort
  /-- Waits for the end, but only so many milliseconds for one that cannot come. -/
  | join (patience : Nat)

def step (session : Session) : Step → Session × List Event
  | .move move => session.move move
  | .abort => (session.abort, [])
  | .join patience => ((session.join patience).1, (session.join patience).2.1)

/-- Steps one after the other. -/
def stepAll (session : Session) : List Step → Session × List Event
  | [] => (session, [])
  | step :: later =>
      let (session, events) := session.step step
      let (session, reports) := stepAll session later
      (session, events ++ reports)

/-- The entry of a log call through a sink that is held. -/
def calledBy (session : Session) : Step → List Entry
  | .move move => session.loggedBy move
  | .abort | .join _ => []

/-- The entries of the log calls of steps, in order. -/
def called (session : Session) : List Step → List Entry
  | [] => []
  | step :: later => session.calledBy step ++ called (session.step step).1 later

def isOpen (session : Session) : Bool := session.trails.any Trail.isOpen

/-- The entry of a log call that comes while the trail is open. -/
def acceptedBy (session : Session) (step : Step) : List Entry :=
  if session.isOpen then session.calledBy step else []

/-- The entries of the log calls that come while the trail is open, in order. -/
def accepted (session : Session) : List Step → List Entry
  | [] => []
  | step :: later => session.acceptedBy step ++ accepted (session.step step).1 later

/-- A session uses the trail of a point and no other one, and holds its sinks. -/
structure Shows (session : Session) (point : Point) : Prop where
  trails : session.trails = [point.trail]
  disk : session.disk = point.disk
  sinks : point.trail.sinks = session.sinks.length
  names : (session.sinks.map Prod.fst).Nodup
  places : ∀ sink ∈ session.sinks, sink.2 = 0

/-- A session shows a point to which a course of its trail leads from another point. -/
def Reaches (point : Point) (called accepted : List Entry) (answer : Session × List Event) :
    Prop :=
  ∃ last, point.LeadsTo answer.2 called accepted last ∧ answer.1.Shows last

section

variable {session : Session} {point : Point} {name copy : String} {entry : Entry}
variable {place : List Files.Name} {previous : List UInt8}
variable {called accepted others more : List Entry} {answer after : Session × List Event}

theorem Shows.reaches (shows : session.Shows point) : Reaches point [] [] (session, []) :=
  ⟨point, .refl, shows⟩

theorem Reaches.trans (first : Reaches point called accepted answer)
    (whole : point.IsWhole place previous)
    (second : ∀ between : Point, between.IsWhole place previous → answer.1.Shows between →
      Reaches between others more after) :
    Reaches point (called ++ others) (accepted ++ more) (after.1, answer.2 ++ after.2) := by
  obtain ⟨middle, leads, shows⟩ := first
  obtain ⟨last, leadsOn, showsOn⟩ := second middle (leads.isWhole whole) shows
  exact ⟨last, leads.trans leadsOn, showsOn⟩

/-! ### Sinks -/

theorem Shows.dropSink (shows : session.Shows point) :
    Reaches point [] [] (session.dropSink name, []) := by
  rcases @dropSink_cases session _ name shows.trails shows.names shows.places with
    ⟨unchanged, _⟩ | ⟨dropped, fewer⟩
  · rw [unchanged]
    exact shows.reaches
  · have happens : point.step .dropSink = some { point with trail := point.trail.dropSink } := rfl
    rw [dropped]
    refine ⟨_, .of_step happens rfl (List.append_nil _).symm rfl, ?_⟩
    exact
      { trails := rfl
        disk := shows.disk
        sinks := by
          rw [Trail.dropSink, shows.sinks]
          exact Nat.sub_eq_of_eq_add fewer.symm
        names := names_others shows.names
        places := places_others shows.places }

/-- A copy of a sink gets a name, and a sink that had the name before is given up. -/
theorem Shows.clone (shows : session.Shows point) :
    Reaches point [] [] (session.clone name copy, []) := by
  cases found : session.sinks.lookup name with
  | none =>
      rw [Session.clone, found]
      exact shows.reaches
  | some index =>
      obtain rfl := place_of_lookup shows.places found
      let added : Point := { point with trail := point.trail.addSink }
      let dropped : Point := { added with trail := added.trail.dropSink }
      have happens : point.step .addSink = some added := rfl
      have happensThen : added.step .dropSink = some dropped := rfl
      have adds : point.LeadsTo [] [] [] added :=
        .of_step happens rfl (List.append_nil _).symm rfl
      have drops : added.LeadsTo [] [] [] dropped :=
        .of_step happensThen rfl (List.append_nil _).symm rfl
      have others := @places_copied copy _ shows.places
      have names := @names_copied copy _ 0 shows.names
      have cases := @dropSink_cases { session with trails := [added.trail] } added.trail copy rfl
        shows.names shows.places
      have cloned : session.clone name copy =
          { { session with trails := [added.trail] }.dropSink copy with
            sinks := (copy, 0) ::
              ({ session with trails := [added.trail] }.dropSink copy).sinks } := by
        rw [Session.clone, found, shows.trails]
        rfl
      rw [cloned]
      rcases cases with ⟨unchanged, all⟩ | ⟨given, fewer⟩
      · rw [unchanged]
        dsimp only at all
        rw [all] at names others
        refine ⟨added, adds, rfl, shows.disk, ?_, names, others⟩
        rw [List.length_cons, ← shows.sinks]
        rfl
      · rw [given]
        refine ⟨dropped, adds.trans drops, rfl, shows.disk, ?_, names, others⟩
        dsimp only at fewer
        rw [List.length_cons, fewer, ← shows.sinks]
        rfl

/-! ### Turns and pauses -/

theorem Shows.turnAll (shows : session.Shows point) (whole : point.IsWhole place previous) :
    Reaches point [] [] session.turnAll := by
  obtain ⟨last, events, turned, leads, sameSinks⟩ :=
    @Point.exists_turn point place previous session.now whole
  rw [turnAll_of_only shows.trails, shows.disk, turned]
  exact ⟨last, leads, rfl, rfl, sameSinks.trans shows.sinks, shows.names, shows.places⟩

theorem nextPause?_of_only {trail : Trail} {target : Nat} (trails : session.trails = [trail]) :
    session.nextPause? target = none ∨
      session.nextPause? target = some (0, trail) ∧ trail.state = .running := by
  by_cases elapsed : trail.state = .running ∧ trail.deadline < target
  · refine Or.inr ⟨?_, elapsed.1⟩
    simp [nextPause?, trails, elapsed]
  · refine Or.inl ?_
    simp [nextPause?, trails, elapsed]

theorem Shows.pauses {target fuel : Nat} (shows : session.Shows point)
    (whole : point.IsWhole place previous) : Reaches point [] [] (session.pauses target fuel) := by
  induction fuel generalizing session point with
  | zero => exact shows.reaches
  | succ fuel induction =>
      rw [Session.pauses]
      rcases @nextPause?_of_only session _ target shows.trails with none | ⟨found, running⟩
      · rw [none]
        exact shows.reaches
      · have isOpen : point.trail.isOpen = true := by rw [Trail.isOpen, running]; rfl
        have happens : point.step .pause =
            some (point.afterFlush (point.trail.pause point.disk)) := by
          rw [Point.step, if_pos isOpen]
        have paused : point.LeadsTo (point.trail.pause point.disk).2.2 [] [] _ :=
          .of_step happens rfl rfl rfl
        have first : Reaches point [] []
            ({ session.setTrail 0 (point.trail.pause point.disk).1 with
              disk := (point.trail.pause point.disk).2.1 },
              (point.trail.pause point.disk).2.2) := by
          refine ⟨_, paused, ?_, rfl, shows.sinks, shows.names, shows.places⟩
          rw [setTrail, shows.trails]
          rfl
        rw [found, shows.disk]
        exact first.trans whole fun between wholeThen showsThen => induction showsThen wholeThen

theorem Shows.idle {milliseconds : Nat} (shows : session.Shows point)
    (whole : point.IsWhole place previous) : Reaches point [] [] (session.idle milliseconds) := by
  have rested := (shows.turnAll whole).trans whole fun between wholeThen showsThen =>
    @Shows.pauses _ _ _ _ (session.turnAll.1.now + milliseconds)
      (session.turnAll.1.trails.length * (milliseconds / Trail.pauseLength + 2)) showsThen wholeThen
  obtain ⟨last, leads, trails, disk, sinks, names, places⟩ := rested
  exact ⟨last, leads, trails, disk, sinks, names, places⟩

/-! ### Steps -/

theorem Shows.isOpen_eq (shows : session.Shows point) :
    session.isOpen = point.trail.isOpen := by
  rw [isOpen, shows.trails, List.any_cons, List.any_nil, Bool.or_false]

theorem Shows.log (shows : session.Shows point) (whole : point.IsWhole place previous) :
    Reaches point (session.loggedBy (.log name entry))
      (session.acceptedBy (.move (.log name entry))) (session.log name entry) := by
  cases found : session.sinks.lookup name with
  | none =>
      have unchanged : session.log name entry = (session, []) := by rw [Session.log, found]
      have nothing : session.loggedBy (.log name entry) = [] := by simp [loggedBy, found]
      rw [unchanged, acceptedBy, calledBy, nothing, ite_self]
      exact shows.reaches
  | some index =>
      obtain rfl := place_of_lookup shows.places found
      have one : session.loggedBy (.log name entry) = [entry] := by simp [loggedBy, found]
      let next : Point :=
        { point with
          trail := (point.trail.log entry).1
          events := point.events ++ (point.trail.log entry).2
          logged := if point.trail.isOpen then point.logged ++ [entry] else point.logged }
      have leads : point.LeadsTo (point.trail.log entry).2 [entry]
          (if point.trail.isOpen then [entry] else []) next := by
        refine ⟨⟨[.log entry], rfl, rfl⟩, rfl, ?_⟩
        simp only [next]
        split
        · rfl
        · rw [List.append_nil]
      obtain ⟨_, sameSinks⟩ := @Trail.log_frame point.trail entry
      have logged : Reaches point [entry] (if point.trail.isOpen then [entry] else [])
          ({ session with trails := [(point.trail.log entry).1] }, (point.trail.log entry).2) :=
        ⟨next, leads, rfl, shows.disk, sameSinks.trans shows.sinks, shows.names, shows.places⟩
      rw [log_of_held shows.trails found, acceptedBy, calledBy, one, shows.isOpen_eq]
      dsimp only
      by_cases nobodyWaits : (point.trail.log entry).1.blocked.isEmpty = true
      · rw [if_pos nobodyWaits]
        exact logged
      · rw [if_neg nobodyWaits]
        have turned := logged.trans whole fun between wholeThen showsThen =>
          showsThen.turnAll wholeThen
        rwa [List.append_nil, List.append_nil] at turned

theorem Shows.abort (shows : session.Shows point) : Reaches point [] [] (session.abort, []) := by
  have happens : point.step .abort = some { point with trail := point.trail.abort } := rfl
  obtain ⟨_, _, _, sameSinks⟩ := @Point.abort_frame point.trail
  refine ⟨_, .of_step happens rfl (List.append_nil _).symm rfl, ?_⟩
  rw [Session.abort, shows.trails]
  exact ⟨rfl, shows.disk, sameSinks.trans shows.sinks, shows.names, shows.places⟩

theorem Shows.join {patience : Nat} (shows : session.Shows point)
    (whole : point.IsWhole place previous) :
    Reaches point [] [] ((session.join patience).1, (session.join patience).2.1) := by
  have turned := shows.turnAll whole
  rw [Session.join]
  dsimp only
  split
  · exact turned.trans whole fun between wholeThen showsThen => showsThen.idle wholeThen
  · exact turned

/-- A step of a session is a course of its trail. -/
theorem Shows.step {step : Step} (shows : session.Shows point)
    (whole : point.IsWhole place previous) :
    Reaches point (session.calledBy step) (session.acceptedBy step) (session.step step) := by
  have nothing {step : Step} (silent : session.calledBy step = []) :
      session.acceptedBy step = [] := by
    rw [acceptedBy, silent, ite_self]
  cases step with
  | move move =>
      cases move with
      | log name entry => exact shows.log whole
      | clone name copy =>
          rw [@nothing (.move (.clone name copy)) rfl]
          exact shows.clone
      | drop name =>
          rw [@nothing (.move (.drop name)) rfl]
          exact shows.dropSink
      | idle milliseconds =>
          rw [@nothing (.move (.idle milliseconds)) rfl]
          exact shows.idle whole
  | abort =>
      rw [@nothing .abort rfl]
      exact shows.abort
  | join patience =>
      rw [@nothing (.join patience) rfl]
      exact shows.join whole

theorem Shows.stepAll {steps : List Step} (shows : session.Shows point)
    (whole : point.IsWhole place previous) :
    Reaches point (session.called steps) (session.accepted steps) (session.stepAll steps) := by
  induction steps generalizing session point with
  | nil => exact shows.reaches
  | cons step steps induction =>
      exact (shows.step whole).trans whole fun between wholeThen showsThen =>
        induction showsThen wholeThen

/-- Once the trail of a session has come to an end its file stays as it is, and every later
log call drops its entry. -/
theorem Shows.stepAll_of_closed {steps : List Step} (shows : session.Shows point)
    (whole : point.IsWhole place previous) (closed : point.trail.isOpen = false) :
    (session.stepAll steps).1.disk = session.disk ∧
      (session.stepAll steps).2 = (session.called steps).map Entry.dropped := by
  obtain ⟨last, ⟨⟨course, runs, calls⟩, noted, _⟩, showsThen⟩ :=
    @Shows.stepAll session point place previous steps shows whole
  obtain ⟨_, disk, events⟩ := Point.run_of_closed closed runs
  rw [noted, calls] at events
  refine ⟨?_, List.append_cancel_left events⟩
  rw [showsThen.disk, disk, shows.disk]

end

/-! ## Started sessions -/

section

variable {disk opened : Disk} {path : Files.Path} {name : String} {writer : Writer}
variable {now : Nat} {session : Session} {events : List Event}

theorem shows_of_start (answer : Writer.openOn disk path = (opened, .ok writer))
    (started : ({ disk, now } : Session).start name path = (session, .ok events)) :
    session.Shows
      { trail := { writer, deadline := now + Trail.pauseLength }, disk := opened } := by
  simp only [start, Trail.start, answer, dropSink, List.lookup_nil] at started
  cases started
  exact ⟨rfl, rfl, rfl, by simp, fun sink member => by rw [List.mem_singleton.mp member]; rfl⟩

theorem isWhole_of_start (answer : Writer.openOn disk path = (opened, .ok writer))
    (regular : ∃ content, opened.root.get? writer.place = some (.file content)) :
    ({ trail := { writer, deadline := now + Trail.pauseLength }, disk := opened } : Point).IsWhole
      writer.place (disk.contentAt writer.place) :=
  ⟨[], [],
    { place := rfl
      holds := Writer.holdsLines_of_openOn answer regular
      flushed := List.prefix_rfl
      taken := List.prefix_rfl
      logged := List.prefix_rfl
      whileOpen := fun _ => ⟨rfl, rfl, fun waits => absurd rfl waits⟩ }⟩

/-- An abort cuts a trail but parts no line.  At every point on every course of a trail the
file is its earlier content with the lines of the first entries that have been taken, among
them all that had been taken before the last flush, and entries are taken in the order in
which they have been logged.  Whatever a session does with its only trail is such a course.
Once an abort has taken effect the file stays as it is, and every log call warns that its
entry is dropped. -/
theorem abort_parts_no_line (answer : Writer.openOn disk path = (opened, .ok writer))
    (regular : ∃ content, opened.root.get? writer.place = some (.file content))
    (started : ({ disk, now } : Session).start name path = (session, .ok events)) :
    let previous := disk.contentAt writer.place
    let first : Point :=
      { trail := { writer, deadline := now + Trail.pauseLength }, disk := opened }
    (∀ course point, first.run course = some point →
        (∃ onFile,
            point.disk.root.get? writer.place = some (.file (previous ++ linesOf onFile)) ∧
              point.flushed <+: onFile ∧ onFile <+: point.taken ∧ point.taken <+: point.logged) ∧
          (point.trail.state = .aborted → ∀ later last, point.run later = some last →
            last.trail.state = .aborted ∧ last.disk = point.disk ∧
              last.events =
                point.events ++ (later.filterMap Happening.entry?).map Entry.dropped)) ∧
      (∀ steps,
        let after := session.stepAll steps
        (∃ course point, first.run course = some point ∧ after.1.trails = [point.trail] ∧
            after.1.disk = point.disk ∧ after.2 = point.events ∧
              session.accepted steps = point.logged) ∧
          (∃ onFile,
            after.1.disk.root.get? writer.place = some (.file (previous ++ linesOf onFile)) ∧
              onFile <+: session.accepted steps) ∧
          (after.1.trails.map Trail.state = [.aborted] → ∀ later,
            (after.1.stepAll later).1.disk = after.1.disk ∧
              (after.1.stepAll later).2 = (after.1.called later).map Entry.dropped)) ∧
      ∀ entry : Entry,
        entry.dropped.level = .warn ∧
          entry.dropped.message = "audit trail closed, entry dropped" ∧
            entry.dropped.fields = [("event_type", .string entry.eventType.title)] := by
  intro previous first
  have shows := shows_of_start answer started
  have whole := @isWhole_of_start _ _ _ _ now answer regular
  have isOpen_of_aborted {trail : Trail} (aborted : trail.state = .aborted) :
      trail.isOpen = false := by
    rw [Trail.isOpen, aborted]
    rfl
  refine ⟨?_, ?_, fun entry => ⟨rfl, rfl, rfl⟩⟩
  · intro course point runs
    have wholeThen := whole.run runs
    refine ⟨wholeThen.file, ?_⟩
    intro aborted later last runsOn
    obtain ⟨state, sameDisk, noted⟩ := Point.run_of_closed (isOpen_of_aborted aborted) runsOn
    exact ⟨state.trans aborted, sameDisk, noted⟩
  · intro steps after
    obtain ⟨point, leads, showsThen⟩ := @Shows.stepAll _ _ _ _ steps shows whole
    obtain ⟨course, runs, _⟩ := leads.course
    have wholeThen := leads.isWhole whole
    have logged : session.accepted steps = point.logged := leads.logged.symm
    refine ⟨⟨course, point, runs, showsThen.trails, showsThen.disk, leads.events.symm, logged⟩,
      ?_, ?_⟩
    · obtain ⟨onFile, file, _, taken, takenLogged⟩ := wholeThen.file
      rw [logged, showsThen.disk]
      exact ⟨onFile, file, taken.trans takenLogged⟩
    · intro aborted later
      rw [showsThen.trails] at aborted
      have closed := isOpen_of_aborted (List.cons.inj aborted).1
      exact @Shows.stepAll_of_closed _ _ _ _ later showsThen wholeThen closed

theorem abort_parts_no_line_after_a_pause :
    let disk : Disk := ⟨.directory [([0x61], .file [0x78, 0x0A])], []⟩
    let writer : Writer := { path := ⟨[0x61]⟩, place := [[0x61]] }
    let first := Usage.plainEntry .processStarted
    let second := Usage.plainEntry .processStopped
    let steps := [.move (.log "a" first), .move (.idle 600), .move (.log "a" second),
      .move (.idle 100), .abort, .join 60000]
    let later := [.move (.clone "a" "b"), .move (.log "b" first), .join 60000]
    Writer.openOn disk ⟨[0x61]⟩ = (disk, .ok writer) ∧
      ∃ session events, ({ disk, now := 7 } : Session).start "a" ⟨[0x61]⟩ = (session, .ok events) ∧
        let after := (session.stepAll steps).1
        after.trails.map Trail.state = [.aborted] ∧
          (∃ onFile, after.disk.root.get? [[0x61]] =
              some (.file ([0x78, 0x0A] ++ linesOf onFile)) ∧ onFile <+: [first, second]) ∧
            (after.stepAll later).2 = [.entryDropped .processStarted] := by
  intro disk writer first second steps later
  have opens : Writer.openOn disk ⟨[0x61]⟩ = (disk, .ok writer) := rfl
  let session : Session := ⟨disk, 7, [{ writer, deadline := 507 }], [("a", 0)]⟩
  have begun : ({ disk, now := 7 } : Session).start "a" ⟨[0x61]⟩ =
      (session, .ok [.trailOpened ⟨[0x61]⟩]) := rfl
  obtain ⟨_, sessions, _⟩ := abort_parts_no_line opens ⟨[0x78, 0x0A], rfl⟩ begun
  obtain ⟨_, file, dropped⟩ := sessions steps
  have aborted : (session.stepAll steps).1.trails.map Trail.state = [.aborted] := by
    decide +kernel
  have isOpen : session.isOpen = true := by decide +kernel
  let rested := ((session.step (.move (.log "a" first))).1.step (.move (.idle 600))).1
  have stillOpen : rested.isOpen = true := by decide +kernel
  have stillHeld : rested.sinks = [("a", 0)] := by decide +kernel
  have accepted : session.accepted steps = [first, second] := by
    simp [Session.accepted, acceptedBy, calledBy, loggedBy, isOpen, stillOpen, stillHeld, steps,
      rested, session]
  obtain ⟨_, noted⟩ := dropped aborted later
  refine ⟨opens, session, _, begun, aborted, ?_, ?_⟩
  · rwa [accepted] at file
  · rw [noted]
    decide +kernel

end

end Session

end LinkVetting.Audit
