import Mathlib.Data.List.Forall2
import LinkVetting.Proofs.Audit.Interleaving
import LinkVetting.Proofs.Audit.Recording

/-!
# What a recorder attempts

A medium with a journal notes every attempt to write or to flush with its
answer.  Whatever the answers are, a recorder attempts to write every entry
once and in order, reports every fault once, and knows from its own state
whether a written entry still has to be flushed.
-/

namespace LinkVetting.Audit

/-- An attempt on a medium with its answer. -/
inductive Attempt where
  | write (entry : Entry) (answer : Except TrailFault Unit)
  | flush (answer : Except TrailFault Unit)

namespace Attempt

def entry? : Attempt → Option Entry
  | .write entry _ => some entry
  | .flush _ => none

def hasFailed : Attempt → Bool
  | .write _ (.error _) | .flush (.error _) => true
  | .write _ (.ok ()) | .flush (.ok ()) => false

/-- The events that report a failed attempt. -/
inductive IsReportedBy : Attempt → Event → Prop where
  | write {entry : Entry} {fault : TrailFault} :
      IsReportedBy (.write entry (.error fault)) (.entryNotWritten fault)
  | pauseFlush {fault : TrailFault} :
      IsReportedBy (.flush (.error fault)) (.pauseFlushFailed fault)
  | finalFlush {fault : TrailFault} :
      IsReportedBy (.flush (.error fault)) (.finalFlushFailed fault)

end Attempt

/-- Every entry that has been written is followed by a flush that succeeded. -/
def IsKept (journal : List Attempt) : Prop :=
  ∀ earlier entry later, journal = earlier ++ .write entry (.ok ()) :: later →
    .flush (.ok ()) ∈ later

section

variable {journal : List Attempt} {attempt : Attempt}

theorem isKept_nil : IsKept [] := by
  intro earlier entry later cut
  simp at cut

/-- The last attempt of a journal either comes behind a cut or is the written
entry itself. -/
theorem isKept_concat
    (behind : ∀ entry, attempt ≠ .write entry (.ok ()))
    (kept : attempt = .flush (.ok ()) ∨ IsKept journal) :
    IsKept (journal ++ [attempt]) := by
  intro earlier entry later cut
  rcases List.eq_nil_or_concat later with rfl | ⟨others, last, rfl⟩
  · have same := List.append_inj_right' cut rfl
    exact absurd (List.cons.inj same).1 (behind entry)
  · rw [List.concat_eq_append] at cut ⊢
    rw [← List.cons_append, ← List.append_assoc] at cut
    obtain ⟨front, back⟩ := List.append_inj' cut rfl
    obtain ⟨rfl, _⟩ := List.cons.inj back
    rcases kept with rfl | kept
    · exact List.mem_append_right others List.mem_cons_self
    · exact List.mem_append_left _ (kept earlier entry others front)

end

variable {σ : Type}

/-- A medium with a journal of the attempts on it, first one first. -/
def Medium.journaled (medium : Medium σ) : Medium (σ × List Attempt) where
  write := fun (state, journal) entry =>
    let (state, answer) := medium.write state entry
    ((state, journal ++ [.write entry answer]), answer)
  flush := fun (state, journal) =>
    let (state, answer) := medium.flush state
    ((state, journal ++ [.flush answer]), answer)

section

variable {medium : Medium σ} {state : σ × List Attempt} {next : σ} {entry : Entry}
variable {answer : Except TrailFault Unit}

theorem Medium.journaled_write (answered : medium.write state.1 entry = (next, answer)) :
    medium.journaled.write state entry =
      ((next, state.2 ++ [.write entry answer]), answer) := by
  simp [journaled, answered]

theorem Medium.journaled_flush (answered : medium.flush state.1 = (next, answer)) :
    medium.journaled.flush state = ((next, state.2 ++ [.flush answer]), answer) := by
  simp [journaled, answered]

end

/-- The entries that come before the end. -/
def Signal.entriesBeforeEnd : List Signal → List Entry
  | [] => []
  | .entry queued :: later => queued :: entriesBeforeEnd later
  | .pause :: later => entriesBeforeEnd later
  | .ended :: _ => []

namespace Recorder

/-- A recorder without its journal. -/
def forget (recorder : Recorder (σ × List Attempt)) : Recorder σ :=
  ⟨recorder.state.1, recorder.isDirty⟩

variable {medium : Medium σ} {recorder : Recorder (σ × List Attempt)}

theorem react_forget {signal : Signal} :
    recorder.forget.react medium signal =
      ((recorder.react medium.journaled signal).1.forget,
        (recorder.react medium.journaled signal).2) := by
  cases signal with
  | entry entry =>
      rw [react, react]
      cases answered : medium.write recorder.forget.state entry with
      | mk next answer =>
          have journaled := Medium.journaled_write answered
          cases answer with
          | ok =>
              rw [record_of_ok answered, record_of_ok journaled]
              rfl
          | error fault =>
              rw [record_of_error answered, record_of_error journaled]
              rfl
  | pause =>
      rw [react, react]
      cases dirty : recorder.isDirty with
      | false =>
          rw [pause_of_clean dirty]
          exact pause_of_clean dirty
      | true =>
          cases answered : medium.flush recorder.forget.state with
          | mk next answer =>
              have journaled := Medium.journaled_flush answered
              cases answer with
              | ok =>
                  rw [pause_of_ok dirty journaled]
                  exact pause_of_ok dirty answered
              | error fault =>
                  rw [pause_of_error dirty journaled]
                  exact pause_of_error dirty answered
  | ended =>
      rw [react, react]
      cases dirty : recorder.isDirty with
      | false =>
          rw [finish_of_clean dirty]
          exact finish_of_clean dirty
      | true =>
          cases answered : medium.flush recorder.forget.state with
          | mk next answer =>
              have journaled := Medium.journaled_flush answered
              cases answer with
              | ok =>
                  rw [finish_of_ok dirty journaled]
                  exact finish_of_ok dirty answered
              | error fault =>
                  rw [finish_of_error dirty journaled]
                  exact finish_of_error dirty answered

theorem run_forget {signals : List Signal} :
    recorder.forget.run medium signals =
      ((recorder.run medium.journaled signals).1.forget,
        (recorder.run medium.journaled signals).2) := by
  induction signals generalizing recorder with
  | nil => rfl
  | cons signal later induction =>
      by_cases ended : signal = .ended
      · rw [ended]
        exact react_forget
      · rw [run_cons ended, run_cons ended, react_forget, induction]

/-- The journal of a recorder and what it has reported account for some entries:
each was attempted once, each fault was reported once, and where the recorder is
clean nothing written is left to be flushed. -/
structure Accounts (entries : List Entry) (events : List Event)
    (recorder : Recorder (σ × List Attempt)) : Prop where
  attempted : recorder.state.2.filterMap Attempt.entry? = entries
  reported : List.Forall₂ Attempt.IsReportedBy (recorder.state.2.filter Attempt.hasFailed)
    (events.filter fun event => event.level = .error)
  kept : recorder.isDirty = false → IsKept recorder.state.2

theorem accounts_nil {state : σ} : Accounts [] [] (⟨(state, []), false⟩) :=
  ⟨rfl, .nil, fun _ => isKept_nil⟩

section

variable {entries : List Entry} {events reports : List Event}

theorem Accounts.concat {next : σ} {isDirty : Bool}
    (accounts : Accounts entries events recorder) (attempt : Attempt)
    (reported : List.Forall₂ Attempt.IsReportedBy ([attempt].filter Attempt.hasFailed)
      (reports.filter fun event => event.level = .error))
    (kept : isDirty = false → IsKept (recorder.state.2 ++ [attempt])) :
    Accounts (entries ++ attempt.entry?.toList) (events ++ reports)
      ⟨(next, recorder.state.2 ++ [attempt]), isDirty⟩ := by
  refine ⟨?_, ?_, kept⟩
  · rw [List.filterMap_append, accounts.attempted]
    cases attempt with
    | write entry answer => rfl
    | flush answer => rfl
  · rw [List.filter_append, List.filter_append]
    exact List.rel_append accounts.reported reported

theorem Accounts.record {entry : Entry} (accounts : Accounts entries events recorder) :
    Accounts (entries ++ [entry]) (events ++ (recorder.record medium.journaled entry).2)
      (recorder.record medium.journaled entry).1 := by
  cases answered : medium.write recorder.state.1 entry with
  | mk next answer =>
      have journaled := Medium.journaled_write answered
      cases answer with
      | ok =>
          rw [record_of_ok journaled]
          refine accounts.concat (.write entry (.ok ())) ?_ ?_
          · exact .nil
          · rintro ⟨⟩
      | error fault =>
          rw [record_of_error journaled]
          refine accounts.concat (.write entry (.error fault)) ?_ fun clean => ?_
          · exact .cons .write .nil
          · refine isKept_concat ?_ (Or.inr (accounts.kept clean))
            rintro other ⟨⟩

theorem Accounts.pause (accounts : Accounts entries events recorder) :
    Accounts entries (events ++ (recorder.pause medium.journaled).2)
      (recorder.pause medium.journaled).1 := by
  cases dirty : recorder.isDirty with
  | false =>
      rw [pause_of_clean dirty, List.append_nil]
      exact accounts
  | true =>
      rw [← List.append_nil entries]
      cases answered : medium.flush recorder.state.1 with
      | mk next answer =>
          have journaled := Medium.journaled_flush answered
          cases answer with
          | ok =>
              rw [pause_of_ok dirty journaled]
              refine accounts.concat (.flush (.ok ())) ?_ fun _ => ?_
              · exact .nil
              · refine isKept_concat ?_ (Or.inl rfl)
                rintro other ⟨⟩
          | error fault =>
              rw [pause_of_error dirty journaled]
              refine accounts.concat (.flush (.error fault)) ?_ ?_
              · exact .cons .pauseFlush .nil
              · rintro ⟨⟩

/-- At the end nothing written is left to be flushed unless a failed flush is
reported. -/
theorem Accounts.finish (accounts : Accounts entries events recorder) :
    Accounts entries (events ++ (recorder.finish medium.journaled).2)
        (recorder.finish medium.journaled).1 ∧
      ((∀ fault, Event.finalFlushFailed fault ∉ (recorder.finish medium.journaled).2) →
        IsKept (recorder.finish medium.journaled).1.state.2) := by
  cases dirty : recorder.isDirty with
  | false =>
      rw [finish_of_clean dirty]
      refine ⟨⟨accounts.attempted, ?_, accounts.kept⟩, fun _ => accounts.kept dirty⟩
      rw [List.filter_append]
      simpa [Event.level] using accounts.reported
  | true =>
      rw [← List.append_nil entries]
      cases answered : medium.flush recorder.state.1 with
      | mk next answer =>
          have journaled := Medium.journaled_flush answered
          cases answer with
          | ok =>
              rw [finish_of_ok dirty journaled]
              refine ⟨accounts.concat (.flush (.ok ())) ?_ ?_, fun _ => ?_⟩
              · exact .nil
              · rintro ⟨⟩
              · refine isKept_concat ?_ (Or.inl rfl)
                rintro other ⟨⟩
          | error fault =>
              rw [finish_of_error dirty journaled]
              refine ⟨accounts.concat (.flush (.error fault)) ?_ ?_, fun unreported => ?_⟩
              · exact .cons .finalFlush .nil
              · rintro ⟨⟩
              · exact absurd List.mem_cons_self (unreported fault)

theorem Accounts.run {signals : List Signal} (accounts : Accounts entries events recorder) :
    Accounts (entries ++ Signal.entriesBeforeEnd signals)
        (events ++ (recorder.run medium.journaled signals).2)
        (recorder.run medium.journaled signals).1 ∧
      (.ended ∈ signals →
        (∀ fault, Event.finalFlushFailed fault ∉
          (recorder.run medium.journaled signals).2) →
          IsKept (recorder.run medium.journaled signals).1.state.2) := by
  induction signals generalizing recorder entries events with
  | nil =>
      refine ⟨?_, fun ends => absurd ends List.not_mem_nil⟩
      rw [Signal.entriesBeforeEnd, Recorder.run, List.append_nil, List.append_nil]
      exact accounts
  | cons signal later induction =>
      cases signal with
      | entry entry =>
          obtain ⟨reached, kept⟩ := induction (@Accounts.record _ medium _ _ _ entry accounts)
          rw [run_cons Signal.noConfusion, Signal.entriesBeforeEnd, ← List.append_assoc,
            List.append_cons]
          refine ⟨reached, fun ends unreported => kept ?_ fun fault reported => ?_⟩
          · exact (List.mem_cons.mp ends).resolve_left Signal.noConfusion
          · exact unreported fault (List.mem_append_right _ reported)
      | pause =>
          obtain ⟨reached, kept⟩ := induction (@Accounts.pause _ medium _ _ _ accounts)
          rw [run_cons Signal.noConfusion, Signal.entriesBeforeEnd, ← List.append_assoc]
          refine ⟨reached, fun ends unreported => kept ?_ fun fault reported => ?_⟩
          · exact (List.mem_cons.mp ends).resolve_left Signal.noConfusion
          · exact unreported fault (List.mem_append_right _ reported)
      | ended =>
          obtain ⟨reached, kept⟩ := @Accounts.finish _ medium _ _ _ accounts
          rw [Signal.entriesBeforeEnd, List.append_nil]
          exact ⟨reached, fun _ => kept⟩

end

end Recorder

/-- Whatever the medium answers, a recorder attempts to write every entry once and
in order, reports each failed attempt as one error, and leaves nothing written
without a later flush where it is clean, nor at the end unless it reports so.  A
call that comes after the end of a trail is reported and does nothing. -/
theorem attempts_of_run (medium : Medium σ) (state : σ) (signals : List Signal) :
    let ran := Recorder.run medium.journaled ⟨(state, []), false⟩ signals
    let journal := ran.1.state.2
    Recorder.run medium ⟨state, false⟩ signals =
        (⟨ran.1.state.1, ran.1.isDirty⟩, ran.2) ∧
      journal.filterMap Attempt.entry? = Signal.entriesBeforeEnd signals ∧
      List.Forall₂ Attempt.IsReportedBy (journal.filter Attempt.hasFailed)
        (ran.2.filter fun event => event.level = .error) ∧
      (ran.1.isDirty = false → IsKept journal) ∧
      (.ended ∈ signals →
        (∀ event ∈ ran.2, event.message ≠ "failed to flush audit trail on shutdown") →
          IsKept journal) ∧
      ∀ (trail : Trail) (entry : Entry), trail.state = .finished ∨ trail.state = .aborted →
        ∃ event, trail.log entry = (trail, [event]) ∧ event.level = .warn ∧
          event.message = "audit trail closed, entry dropped" := by
  intro ran journal
  obtain ⟨⟨attempted, reported, kept⟩, keptAtEnd⟩ :=
    @Recorder.Accounts.run σ medium ⟨(state, []), false⟩ [] [] signals
      Recorder.accounts_nil
  refine ⟨@Recorder.run_forget σ medium ⟨(state, []), false⟩ signals, attempted,
    reported, kept, fun ends unreported => ?_, ?_⟩
  · refine keptAtEnd ends fun fault member => ?_
    exact unreported _ member rfl
  · intro trail entry closed
    have notOpen : trail.isOpen = false := by
      rcases closed with finished | aborted
      · simp [Trail.isOpen, finished]
      · simp [Trail.isOpen, aborted]
    refine ⟨.entryDropped entry.eventType, ?_, rfl, rfl⟩
    simp [Trail.log, notOpen]

/-- A medium that counts the attempts and answers all but the first two of them
with success. -/
def slowToStart : Medium Nat where
  write := fun count _ =>
    (count + 1, if count < 2 then .error (.append .noSpace) else .ok ())
  flush := fun count => (count + 1, if count < 2 then .error (.flush .noSpace) else .ok ())

theorem attempts_of_run_slowToStart :
    let signals := [.entry (Usage.plainEntry .processStarted),
      .entry (Usage.plainEntry .processStarted), .entry (Usage.plainEntry .processStopped),
      .pause, .ended]
    let ran := Recorder.run slowToStart.journaled ⟨(0, []), false⟩ signals
    let trail : Trail := { writer := ⟨⟨[]⟩, [], [], false⟩, deadline := 0, state := .finished }
    Signal.ended ∈ signals ∧ ran.1.isDirty = false ∧
      (∀ event ∈ ran.2, event.message ≠ "failed to flush audit trail on shutdown") ∧
        IsKept ran.1.state.2 ∧
          ∃ event, trail.log (Usage.plainEntry .uriRejected) = (trail, [event]) ∧
            event.level = .warn ∧ event.message = "audit trail closed, entry dropped" := by
  intro signals ran trail
  have ends : Signal.ended ∈ signals := by simp [signals]
  have events : ran.2 = [.entryNotWritten (.append .noSpace),
    .entryNotWritten (.append .noSpace), .trailFinished] := rfl
  have unreported : ∀ event ∈ ran.2,
      event.message ≠ "failed to flush audit trail on shutdown" := by
    rw [events]
    decide
  obtain ⟨_, _, _, _, keptAtEnd, dropped⟩ := attempts_of_run slowToStart 0 signals
  exact ⟨ends, rfl, unreported, keptAtEnd ends unreported,
    dropped trail (Usage.plainEntry .uriRejected) (Or.inl rfl)⟩

end LinkVetting.Audit
