import LinkVetting.Event

/-!
# Recording entries

A recorder takes one signal after another: an entry, a pause in which no entry came, or the end. It
writes every entry as it comes. After a pause, and at the end, it flushes if something has been
written since the last flush that succeeded. Faults become events and stop nothing.

What is written to is left open; a recorder only needs to write an entry and to flush.
-/

namespace LinkVetting.Audit

structure Medium (σ : Type) where
  write : σ → Entry → σ × Except TrailFault Unit
  flush : σ → σ × Except TrailFault Unit

inductive Signal where
  | entry (entry : Entry)
  | pause
  | ended

structure Recorder (σ : Type) where
  state : σ
  /-- Whether something has been written since the last flush that succeeded. -/
  isDirty : Bool := false

namespace Recorder

variable {σ : Type} (medium : Medium σ)

def record (recorder : Recorder σ) (entry : Entry) : Recorder σ × List Event :=
  match medium.write recorder.state entry with
  | (state, .ok ()) => (⟨state, true⟩, [])
  | (state, .error fault) => (⟨state, recorder.isDirty⟩, [.entryNotWritten fault])

def pause (recorder : Recorder σ) : Recorder σ × List Event :=
  if recorder.isDirty then
    match medium.flush recorder.state with
    | (state, .ok ()) => (⟨state, false⟩, [])
    | (state, .error fault) => (⟨state, true⟩, [.pauseFlushFailed fault])
  else (recorder, [])

def finish (recorder : Recorder σ) : Recorder σ × List Event :=
  if recorder.isDirty then
    match medium.flush recorder.state with
    | (state, .ok ()) => (⟨state, true⟩, [.trailFinished])
    | (state, .error fault) => (⟨state, true⟩, [.finalFlushFailed fault, .trailFinished])
  else (recorder, [.trailFinished])

def react (recorder : Recorder σ) : Signal → Recorder σ × List Event
  | .entry entry => recorder.record medium entry
  | .pause => recorder.pause medium
  | .ended => recorder.finish medium

/-- Reacts to signals in order, up to the end. -/
def run (recorder : Recorder σ) : List Signal → Recorder σ × List Event
  | [] => (recorder, [])
  | .ended :: _ => recorder.react medium .ended
  | signal :: later =>
    let (recorder, events) := recorder.react medium signal
    let (recorder, laterEvents) := run recorder later
    (recorder, events ++ laterEvents)

end Recorder

/-- A writer on a disk as what a recorder writes to. -/
def Writer.medium : Medium (Writer × Files.Disk) where
  write := fun (writer, disk) entry =>
    let (writer, disk, answer) := writer.write disk entry
    ((writer, disk), answer)
  flush := fun (writer, disk) =>
    let (writer, disk, answer) := writer.flush disk
    ((writer, disk), answer)

end LinkVetting.Audit
