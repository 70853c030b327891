import LinkVetting.Audit.Trail

/-!
# Sessions

A session uses trails from one thread on a clock of its own. Recorders get their turns when the
session is idle or waits for a trail to end, and when a log call has to wait for room.
-/

namespace LinkVetting.Audit

open Files (Disk)

structure Session where
  disk : Disk
  now : Nat := 0
  /-- The trails in the order in which they were started. -/
  trails : List Trail := []
  /-- The held sinks by name, with the place of their trail. -/
  sinks : List (String × Nat) := []

namespace Session

def setTrail (session : Session) (index : Nat) (trail : Trail) : Session :=
  { session with trails := session.trails.set index trail }

/-- Gives up the sink of a name, if there is one. -/
def dropSink (session : Session) (name : String) : Session :=
  match session.sinks.lookup name with
  | none => session
  | some index =>
    { session with
      sinks := session.sinks.filter (·.1 != name)
      trails := session.trails.modify index Trail.dropSink }

def start (session : Session) (name : String) (path : Files.Path) :
    Session × Except TrailFault (List Event) :=
  match Trail.start session.disk path session.now with
  | (disk, .error fault) => ({ session with disk }, .error fault)
  | (disk, .ok (trail, event)) =>
    let session := { session with disk, trails := session.trails ++ [trail] }
    let session := session.dropSink name
    ({ session with sinks := (name, session.trails.length - 1) :: session.sinks }, .ok [event])

/-- A further sink of the same trail gets a name. -/
def clone (session : Session) (name copy : String) : Session :=
  match session.sinks.lookup name with
  | none => session
  | some index =>
    let session := { session with trails := session.trails.modify index Trail.addSink }
    let session := session.dropSink copy
    { session with sinks := (copy, index) :: session.sinks }

def turnOf (session : Session) (index : Nat) : Session × List Event :=
  match session.trails[index]? with
  | none => (session, [])
  | some trail =>
    let (trail, disk, events) := trail.turn session.disk session.now
    ({ session.setTrail index trail with disk }, events)

/-- The trails at some places get a turn, one after the other. -/
def turns (session : Session) : List Nat → Session × List Event
  | [] => (session, [])
  | index :: later =>
    let (session, events) := session.turnOf index
    let (session, laterEvents) := turns session later
    (session, events ++ laterEvents)

def turnAll (session : Session) : Session × List Event :=
  session.turns (List.range session.trails.length)

/-- Logs an entry through the sink of a name. If the queue is full, the recorders get a turn. -/
def log (session : Session) (name : String) (entry : Entry) : Session × List Event :=
  match session.sinks.lookup name with
  | none => (session, [])
  | some index =>
    match session.trails[index]? with
    | none => (session, [])
    | some trail =>
      let (trail, events) := trail.log entry
      let session := session.setTrail index trail
      if trail.blocked.isEmpty then (session, events)
      else
        let (session, later) := session.turnAll
        (session, events ++ later)

/-- Logs entries through the sink of a name, one after the other. -/
def logAll (name : String) : List Entry → Session → Session × List Event
  | [], session => (session, [])
  | entry :: later, session =>
    let (session, events) := session.log name entry
    let (session, laterEvents) := logAll name later session
    (session, events ++ laterEvents)

/-- The running trail whose pause is over first, if that is before a point in time. -/
def nextPause? (session : Session) (target : Nat) : Option (Nat × Trail) :=
  session.trails.zipIdx.foldl (fun found (trail, index) =>
    if trail.state = .running && trail.deadline < target then
      match found with
      | some (_, earliest) =>
        if trail.deadline < earliest.deadline then some (index, trail) else found
      | none => some (index, trail)
    else found) none

/-- The pauses that are over before a point in time end, in the order of time; `fuel` bounds their
number. -/
def pauses (target : Nat) : (fuel : Nat) → Session → Session × List Event
  | 0, session => (session, [])
  | fuel + 1, session =>
    match session.nextPause? target with
    | none => (session, [])
    | some (index, trail) =>
      let (trail, disk, events) := trail.pause session.disk
      let (session, later) := pauses target fuel { session.setTrail index trail with disk }
      (session, events ++ later)

def idle (session : Session) (milliseconds : Nat) : Session × List Event :=
  let (session, events) := session.turnAll
  let target := session.now + milliseconds
  let fuel := session.trails.length * (milliseconds / Trail.pauseLength + 2)
  let (session, later) := session.pauses target fuel
  ({ session with now := target }, events ++ later)

/-- Asks the most recently started trail to be aborted. -/
def abort (session : Session) : Session :=
  { session with trails := session.trails.modify (session.trails.length - 1) Trail.abort }

/-- Waits for the most recently started trail to end. Answers its state then.

A trail whose sinks have all been given up ends at once, and so does one that is aborted. A wait
for any other trail would have no end, since nobody is left to give up its sinks; it is broken
off after a number of milliseconds, and the answer is that the trail still runs. -/
def join (session : Session) (patience : Nat := 60000) : Session × List Event × TrailState :=
  let state (session : Session) : TrailState :=
    match session.trails.getLast? with
    | some trail => trail.state
    | none => .finished
  let (session, events) := session.turnAll
  if state session = .running then
    let (session, later) := session.idle patience
    (session, events ++ later, state session)
  else (session, events, state session)

end Session

end LinkVetting.Audit
