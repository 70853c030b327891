import LinkVetting.Audit.Recorder

/-!
# Trails

A trail has sinks, which take entries, a queue of bounded length, and a recorder, which takes
entries from the queue in the background. A log call on a full queue waits for room; waiting calls
get it in the order in which they came. The trail ends after the last sink has been given up and
the queue is empty, or when it is aborted.

Time is counted in milliseconds. The recorder flushes when no entry has come for a pause.
-/

namespace LinkVetting.Audit

open Files (Disk)

inductive TrailState where
  | running
  /-- The trail is to be aborted at the next turn of the recorder. -/
  | aborting
  | finished
  | aborted
  deriving DecidableEq, Repr

structure Trail where
  writer : Writer
  isDirty : Bool := false
  /-- The entries that the recorder has not yet taken, first one first. -/
  queue : List Entry := []
  /-- The entries of log calls that wait for room in the queue, first one first. -/
  blocked : List Entry := []
  /-- The number of sinks. -/
  sinks : Nat := 1
  /-- When the pause after the last entry or the last pause is over. -/
  deadline : Nat
  state : TrailState := .running

namespace Trail

/-- The length of the queue. -/
def capacity : Nat := 1024

/-- The length of a pause in milliseconds. -/
def pauseLength : Nat := 500

def isOpen (trail : Trail) : Bool :=
  trail.state == .running || trail.state == .aborting

def start (disk : Disk) (path : Files.Path) (now : Nat) :
    Disk × Except TrailFault (Trail × Event) :=
  match Writer.openOn disk path with
  | (disk, .ok writer) =>
    (disk, .ok ({ writer, deadline := now + pauseLength }, .trailOpened path))
  | (disk, .error fault) => (disk, .error fault)

/-- A log call. After the end the entry is dropped; on a full queue the call waits. -/
def log (trail : Trail) (entry : Entry) : Trail × List Event :=
  if !trail.isOpen then (trail, [.entryDropped entry.eventType])
  else if trail.queue.length < capacity then
    ({ trail with queue := trail.queue ++ [entry] }, [])
  else ({ trail with blocked := trail.blocked ++ [entry] }, [])

def addSink (trail : Trail) : Trail := { trail with sinks := trail.sinks + 1 }

def dropSink (trail : Trail) : Trail := { trail with sinks := trail.sinks - 1 }

def recorder (trail : Trail) (disk : Disk) : Recorder (Writer × Disk) :=
  ⟨(trail.writer, disk), trail.isDirty⟩

/-- The trail and the disk after its recorder has done something. -/
def withRecorder (trail : Trail) (recorder : Recorder (Writer × Disk)) : Trail × Disk :=
  ({ trail with writer := recorder.state.1, isDirty := recorder.isDirty }, recorder.state.2)

/-- The recorder takes one entry. A waiting log call gets the room. -/
def takeEntry (trail : Trail) (disk : Disk) (now : Nat) : Trail × Disk × List Event :=
  match trail.queue with
  | [] => (trail, disk, [])
  | entry :: queue =>
    let (recorder, events) := (trail.recorder disk).record Writer.medium entry
    let (trail, disk) := trail.withRecorder recorder
    ({ trail with
        queue := queue ++ trail.blocked.take 1
        blocked := trail.blocked.drop 1
        deadline := now + pauseLength }, disk, events)

/-- The recorder takes entries until none is left; `fuel` bounds their number. -/
def takeAll (now : Nat) : (fuel : Nat) → Trail → Disk → Trail × Disk × List Event
  | 0, trail, disk => (trail, disk, [])
  | fuel + 1, trail, disk =>
    if trail.queue.isEmpty then (trail, disk, [])
    else
      let (trail, disk, events) := trail.takeEntry disk now
      let (trail, disk, later) := takeAll now fuel trail disk
      (trail, disk, events ++ later)

def pause (trail : Trail) (disk : Disk) : Trail × Disk × List Event :=
  let (recorder, events) := (trail.recorder disk).pause Writer.medium
  let (trail, disk) := trail.withRecorder recorder
  ({ trail with deadline := trail.deadline + pauseLength }, disk, events)

def finish (trail : Trail) (disk : Disk) : Trail × Disk × List Event :=
  let (recorder, events) := (trail.recorder disk).finish Writer.medium
  let (trail, disk) := trail.withRecorder recorder
  ({ trail with state := .finished }, disk, events)

/-- An abort takes effect: what is queued and held back is lost, and waiting calls drop their
entries. -/
def abortNow (trail : Trail) : Trail × List Event :=
  ({ trail with
      state := .aborted, queue := [], blocked := [],
      writer := { trail.writer with waiting := [] } },
    trail.blocked.map fun entry => .entryDropped entry.eventType)

/-- A turn of the recorder: an abort takes effect, or all entries are taken and the trail ends if it
has no sinks. -/
def turn (trail : Trail) (disk : Disk) (now : Nat) : Trail × Disk × List Event :=
  match trail.state with
  | .finished | .aborted => (trail, disk, [])
  | .aborting =>
    let (trail, events) := trail.abortNow
    (trail, disk, events)
  | .running =>
    let (trail, disk, events) :=
      takeAll now (trail.queue.length + trail.blocked.length) trail disk
    if trail.sinks = 0 then
      let (trail, disk, later) := trail.finish disk
      (trail, disk, events ++ later)
    else (trail, disk, events)

def abort (trail : Trail) : Trail :=
  if trail.state = .running then { trail with state := .aborting } else trail

end Trail

end LinkVetting.Audit
