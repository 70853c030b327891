import LinkVetting.Proofs.Program.Checks

/-!
# Checks under way

A check with a trail does one thing after the other, as it leaves them at its outlet,
while a recorder works in the background, whatever this writes to and whatever comes of
it.  The check waits for room in the queue and, at the end, for the recorder.  However
the two take turns, the check comes to an end, and then it has shown and counted what
its report says.
-/

namespace LinkVetting

open Audit (Entry Medium Recorder Stamp Trail)

/-- What a check with a trail does, one thing after the other. -/
inductive Deed where
  /-- Counts a rejected candidate. -/
  | reject
  /-- Puts an entry on the queue of the recorder. -/
  | record (entry : Entry)
  | print (line : List Char)

namespace Deed

def entry? : Deed → Option Entry
  | .record entry => some entry
  | _ => none

def shown : Deed → List Char
  | .print line => line
  | _ => []

def isReject : Deed → Bool
  | .reject => true
  | _ => false

/-- Records the entry that is made with the next stamp. -/
def log (stamps : Nat → Stamp) (deeds : List Deed) (entry : Stamp → Entry) : List Deed :=
  deeds ++ [.record (entry (stamps (deeds.filterMap entry?).length))]

/-- The outlet of a check that lists what the check does. -/
def outlet (stamps : Nat → Stamp) : Check.Outlet (List Deed) Empty where
  tell := fun deeds _ => deeds
  record := fun deeds source rejection =>
    log stamps (deeds ++ [.reject]) fun stamp => .ofRejection stamp source rejection
  print := fun deeds text => (deeds ++ [.print text], .ok ())

end Deed

/-- What a check does from its start to its end. -/
def Check.deeds (stamps : Nat → Stamp) (json : Bool) (set : RuleSet)
    (candidates : List Candidate) : List Deed :=
  let begun := Deed.log stamps [] (startEntry candidates.length)
  match run (Deed.outlet stamps) json set {} begun candidates with
  | (_, .error fault) => nomatch fault.cause
  | (deeds, .ok totals) => Deed.log stamps deeds (stopEntry totals)

namespace Deed

variable {stamps : Nat → Stamp} {deeds : List Deed} {entry : Stamp → Entry} {started : Entry}

theorem entries_log :
    (log stamps deeds entry).filterMap entry? =
      deeds.filterMap entry? ++ [entry (stamps (deeds.filterMap entry?).length)] :=
  List.filterMap_append

theorem shown_log : (log stamps deeds entry).flatMap shown = deeds.flatMap shown := by
  simp [log, shown]

theorem rejects_log : (log stamps deeds entry).countP isReject = deeds.countP isReject := by
  simp [log, isReject]

/-- A check that has been started has done what an account says. -/
structure Follows (stamps : Nat → Stamp) (started : Entry) (account : Account)
    (deeds : List Deed) : Prop where
  entries : deeds.filterMap entry? = started :: Report.recordEntries stamps account.records
  shown : deeds.flatMap shown = account.text
  rejects : deeds.countP isReject = account.records.length

theorem Follows.record {account : Account} {source : Audit.Source} {rejection : Audit.Rejection}
    (follows : Follows stamps started account deeds) :
    Follows stamps started
      { account with records := account.records ++ [(source, rejection)] }
      (log stamps (deeds ++ [.reject]) fun stamp => .ofRejection stamp source rejection) where
  entries := by
    have same : (deeds ++ [reject]).filterMap entry? = deeds.filterMap entry? := by simp [ entry?]
    rw [entries_log, same, follows.entries, Report.recordEntries_concat, List.length_cons,
      Report.length_recordEntries, List.cons_append]
  shown := by
    rw [shown_log]
    simp [follows.shown, Deed.shown]
  rejects := by
    rw [rejects_log]
    simp [follows.rejects, isReject]

theorem keeps_follows : (outlet stamps).Keeps (Follows stamps started) where
  tell := fun follows => ⟨follows.entries, follows.shown, follows.rejects⟩
  record := Follows.record
  print := by
    intro account deeds text next ⟨entries, shown, rejects⟩ printed
    cases printed
    exact
      { entries := by simp [entries, entry?]
        shown := by simp [shown, Deed.shown]
        rejects := by simp [rejects, isReject] }

end Deed

namespace Check

section

variable {stamps : Nat → Stamp} {json : Bool} {set : RuleSet} {candidates : List Candidate}

theorem exists_deeds :
    let report := Report.ofCandidates set candidates
    ∃ done, deeds stamps json set candidates = Deed.log stamps done (stopEntry report.totals) ∧
      Deed.Follows stamps (startEntry candidates.length (stamps 0)) (report.account json) done := by
  have atFirst : Deed.Follows stamps (startEntry candidates.length (stamps 0)) {}
      (Deed.log stamps [] (startEntry candidates.length)) := ⟨rfl, rfl, rfl⟩
  obtain ⟨done, ran, follows⟩ :=
    @Outlet.Keeps.run_of_prints _ _ set json candidates _ _ Deed.keeps_follows atFirst
  refine ⟨done, ?_, follows⟩
  rw [deeds, ran]

theorem entries_deeds :
    (deeds stamps json set candidates).filterMap Deed.entry? =
      (Report.ofCandidates set candidates).entries stamps := by
  obtain ⟨done, same, entries, _, _⟩ := @exists_deeds stamps json set candidates
  rw [same, Deed.entries_log, entries, List.length_cons, Report.length_recordEntries,
    Report.entries, Report.checked_ofCandidates]
  rfl

theorem shown_deeds :
    (deeds stamps json set candidates).flatMap Deed.shown =
      (Report.ofCandidates set candidates).text json := by
  obtain ⟨done, same, _, shown, _⟩ := @exists_deeds stamps json set candidates
  rw [same, Deed.shown_log, shown]
  rfl

theorem rejects_deeds :
    (deeds stamps json set candidates).countP Deed.isReject =
      (Report.ofCandidates set candidates).rejected := by
  obtain ⟨done, same, _, _, rejects⟩ := @exists_deeds stamps json set candidates
  rw [same, Deed.rejects_log, rejects, Report.rejected_eq]
  rfl

end

end Check

/-! ## Turns of a check and its recorder -/

/-- A check and the recorder of its trail, on some medium. -/
structure CheckUnderWay (σ : Type) where
  /-- What the check has still to do. -/
  deeds : List Deed
  shown : List Char := []
  /-- The number of rejected candidates so far. -/
  rejected : Nat := 0
  /-- The entries that the recorder has not taken. -/
  queue : List Entry := []
  recorder : Recorder σ
  events : List Event := []
  /-- Whether the recorder has come to its end. -/
  hasEnded : Bool := false

namespace CheckUnderWay

variable {σ : Type}

/-- Which of the two does something. -/
inductive Turn where
  /-- The check does the next thing. -/
  | proceed
  /-- The recorder takes an entry. -/
  | take
  /-- No entry has come to the recorder for a pause. -/
  | pause
  /-- The recorder comes to its end. -/
  | finish
  deriving DecidableEq

/-- A check of candidates, before it does anything. -/
def ofCandidates (stamps : Nat → Stamp) (json : Bool) (set : RuleSet)
    (candidates : List Candidate) (state : σ) : CheckUnderWay σ :=
  { deeds := Check.deeds stamps json set candidates, recorder := ⟨state, false⟩ }

/-- One turn, if it is possible.  A check waits where the queue is full, and the recorder
ends once the check has done all and the queue is empty. -/
def step (medium : Medium σ) (check : CheckUnderWay σ) : Turn → Option (CheckUnderWay σ)
  | .proceed =>
      match check.deeds with
      | [] => none
      | .reject :: deeds => some { check with deeds, rejected := check.rejected + 1 }
      | .record entry :: deeds =>
          if check.queue.length < Trail.capacity then
            some { check with deeds, queue := check.queue ++ [entry] }
          else none
      | .print line :: deeds => some { check with deeds, shown := check.shown ++ line }
  | .take =>
      match check.queue with
      | [] => none
      | entry :: queue =>
          let (recorder, events) := check.recorder.record medium entry
          some { check with queue, recorder, events := check.events ++ events }
  | .pause =>
      if check.queue = [] ∧ check.hasEnded = false then
        let (recorder, events) := check.recorder.pause medium
        some { check with recorder, events := check.events ++ events }
      else none
  | .finish =>
      match check.deeds, check.queue, check.hasEnded with
      | [], [], false =>
          let (recorder, events) := check.recorder.finish medium
          some { check with recorder, events := check.events ++ events, hasEnded := true }
      | _, _, _ => none

/-- Turns one after the other. -/
def run (medium : Medium σ) (check : CheckUnderWay σ) : List Turn → Option (CheckUnderWay σ)
  | [] => some check
  | turn :: later => (check.step medium turn).bind fun next => next.run medium later

/-- The exit status of a check that has come to its end. -/
def exitStatus (strict : Bool) (check : CheckUnderWay σ) : Nat :=
  if strict && check.rejected > 0 then 1 else 0

/-- How much there is still to do.  An entry is put on the queue and taken from it. -/
def work (check : CheckUnderWay σ) : Nat :=
  2 * check.deeds.length + check.queue.length + (!check.hasEnded).toNat

/-- A check shows a text and counts some rejections, by what it has done and what it has
still to do. -/
structure Makes (text : List Char) (rejected : Nat) (check : CheckUnderWay σ) : Prop where
  shown : check.shown ++ check.deeds.flatMap Deed.shown = text
  counted : check.rejected + check.deeds.countP Deed.isReject = rejected
  ended : check.hasEnded = true → check.deeds = [] ∧ check.queue = []

section

variable {medium : Medium σ} {check next last : CheckUnderWay σ} {turn : Turn}
variable {turns : List Turn} {text : List Char} {rejected : Nat}

theorem makes_ofCandidates {stamps : Nat → Stamp} {json : Bool} {set : RuleSet}
    {candidates : List Candidate} {state : σ} :
    let report := Report.ofCandidates set candidates
    (ofCandidates stamps json set candidates state).Makes (report.text json) report.rejected :=
  ⟨Check.shown_deeds, (Nat.zero_add _).trans Check.rejects_deeds, nofun⟩

/-- What a turn can be. -/
inductive Takes (medium : Medium σ) (check : CheckUnderWay σ) : Turn → CheckUnderWay σ → Prop where
  | reject {deeds : List Deed} (doing : check.deeds = .reject :: deeds) :
      Takes medium check .proceed { check with deeds, rejected := check.rejected + 1 }
  | record {entry : Entry} {deeds : List Deed} (doing : check.deeds = .record entry :: deeds)
      (room : check.queue.length < Trail.capacity) :
      Takes medium check .proceed { check with deeds, queue := check.queue ++ [entry] }
  | print {line : List Char} {deeds : List Deed} (doing : check.deeds = .print line :: deeds) :
      Takes medium check .proceed { check with deeds, shown := check.shown ++ line }
  | take {entry : Entry} {queue : List Entry} (waits : check.queue = entry :: queue) :
      Takes medium check .take
        { check with
          queue
          recorder := (check.recorder.record medium entry).1
          events := check.events ++ (check.recorder.record medium entry).2 }
  | pause (nothing : check.queue = []) (unended : check.hasEnded = false) :
      Takes medium check .pause
        { check with
          recorder := (check.recorder.pause medium).1
          events := check.events ++ (check.recorder.pause medium).2 }
  | finish (done : check.deeds = []) (nothing : check.queue = [])
      (unended : check.hasEnded = false) :
      Takes medium check .finish
        { check with
          recorder := (check.recorder.finish medium).1
          events := check.events ++ (check.recorder.finish medium).2
          hasEnded := true }

theorem step_eq_some_iff : check.step medium turn = some next ↔ Takes medium check turn next := by
  constructor
  · intro stepped
    cases turn with
    | proceed =>
        rw [step] at stepped
        split at stepped
        · cases stepped
        · rename_i doing
          cases stepped
          exact .reject doing
        · rename_i doing
          split at stepped
          · rename_i room
            cases stepped
            exact .record doing room
          · cases stepped
        · rename_i doing
          cases stepped
          exact .print doing
    | take =>
        rw [step] at stepped
        split at stepped
        · cases stepped
        · rename_i waits
          cases stepped
          exact .take waits
    | pause =>
        rw [step] at stepped
        split at stepped
        · rename_i possible
          cases stepped
          exact .pause possible.1 possible.2
        · cases stepped
    | finish =>
        rw [step] at stepped
        split at stepped
        · rename_i done nothing unended
          cases stepped
          exact .finish done nothing unended
        · cases stepped
  · intro takes
    cases takes with
    | reject doing => simp [step, doing]
    | record doing room => simp [step, doing, room]
    | print doing => simp [step, doing]
    | take waits => simp [step, waits]
    | pause nothing unended => simp [step, nothing, unended]
    | finish done nothing unended => simp [step, done, nothing, unended]

theorem Makes.step (makes : check.Makes text rejected)
    (stepped : check.step medium turn = some next) : next.Makes text rejected := by
  obtain ⟨shown, counted, ended⟩ := makes
  cases step_eq_some_iff.mp stepped with
  | reject doing =>
      rw [doing] at shown counted ended
      refine ⟨shown, ?_, fun hasEnded => nomatch (ended hasEnded).1⟩
      rw [List.countP_cons_of_pos rfl, ← Nat.add_assoc, Nat.add_right_comm] at counted
      exact counted
  | record doing room =>
      rw [doing] at shown counted ended
      exact ⟨shown, counted, fun hasEnded => nomatch (ended hasEnded).1⟩
  | print doing =>
      rw [doing] at shown counted ended
      refine ⟨?_, counted, fun hasEnded => nomatch (ended hasEnded).1⟩
      rw [List.append_assoc]
      exact shown
  | take waits =>
      refine ⟨shown, counted, fun hasEnded => ?_⟩
      rw [waits] at ended
      exact nomatch (ended hasEnded).2
  | pause nothing unended => exact ⟨shown, counted, ended⟩
  | finish done nothing unended => exact ⟨shown, counted, fun _ => ⟨done, nothing⟩⟩

/-- Whatever turns are taken, a check shows and counts the same in the end. -/
theorem Makes.run (makes : check.Makes text rejected) (ran : check.run medium turns = some last) :
    last.Makes text rejected := by
  induction turns generalizing check with
  | nil =>
      cases ran
      exact makes
  | cons turn turns induction =>
      obtain ⟨next, stepped, later⟩ := Option.bind_eq_some_iff.mp ran
      exact induction (makes.step stepped) later

/-- Every turn but a pause does some of the work. -/
theorem work_step (stepped : check.step medium turn = some next) :
    next.work < check.work ∨ turn = .pause ∧ next.work = check.work := by
  cases step_eq_some_iff.mp stepped with
  | reject doing =>
      simp only [work, doing, List.length_cons]
      omega
  | record doing room =>
      simp only [work, doing, List.length_cons, List.length_append, List.length_nil]
      omega
  | print doing =>
      simp only [work, doing, List.length_cons]
      omega
  | take waits =>
      simp only [work, waits, List.length_cons]
      omega
  | pause nothing unended => exact Or.inr ⟨rfl, rfl⟩
  | finish done nothing unended => simp [work, done, nothing, unended]

theorem work_run (ran : check.run medium turns = some last) :
    last.work + turns.countP (· ≠ .pause) ≤ check.work := by
  induction turns generalizing check with
  | nil =>
      cases ran
      exact Nat.le_refl _
  | cons turn turns induction =>
      obtain ⟨next, stepped, later⟩ := Option.bind_eq_some_iff.mp ran
      have others := induction later
      rcases work_step stepped with less | ⟨rfl, same⟩
      · have one : (turn :: turns).countP (· ≠ .pause) ≤ turns.countP (· ≠ .pause) + 1 := by
          rw [List.countP_cons]
          split <;> omega
        omega
      · rw [List.countP_cons_of_neg (by simp), ← same]
        exact others

/-- Up to the end a turn is possible that does some of the work: a check only waits while
its recorder has something to take or to end. -/
theorem exists_step (unended : check.hasEnded = false) :
    ∃ turn, turn ≠ .pause ∧ (check.step medium turn).isSome = true := by
  cases waits : check.queue with
  | cons entry queue => exact ⟨.take, by decide, by simp [step, waits]⟩
  | nil =>
      cases doing : check.deeds with
      | nil => exact ⟨.finish, by decide, by simp [step, doing, waits, unended]⟩
      | cons deed deeds =>
          refine ⟨.proceed, by decide, ?_⟩
          cases deed <;> simp [step, doing, waits, Trail.capacity]

/-- A check whose recorder takes every entry at once comes to its end, and then the recorder
has reacted to all entries and to the end. -/
theorem exists_run (nothing : check.queue = []) (unended : check.hasEnded = false) :
    ∃ turns last, check.run medium turns = some last ∧ last.hasEnded = true ∧
      last.recorder =
        (check.recorder.run medium
          ((check.deeds.filterMap Deed.entry?).map .entry ++ [.ended])).1 := by
  induction doing : check.deeds generalizing check with
  | nil =>
      have finished := step_eq_some_iff.mpr (@Takes.finish σ medium check doing nothing unended)
      exact ⟨[.finish], _, by rw [run, finished]; rfl, rfl, rfl⟩
  | cons deed deeds induction =>
      cases deed with
      | reject =>
          have stepped := step_eq_some_iff.mpr (@Takes.reject σ medium check _ doing)
          obtain ⟨turns, last, ran, ended, recorder⟩ :=
            @induction { check with deeds, rejected := check.rejected + 1 } nothing unended rfl
          exact ⟨.proceed :: turns, last, by rw [run, stepped]; exact ran, ended, recorder⟩
      | print line =>
          have stepped := step_eq_some_iff.mpr (@Takes.print σ medium check _ _ doing)
          obtain ⟨turns, last, ran, ended, recorder⟩ :=
            @induction { check with deeds, shown := check.shown ++ line } nothing unended rfl
          exact ⟨.proceed :: turns, last, by rw [run, stepped]; exact ran, ended, recorder⟩
      | record entry =>
          have room : check.queue.length < Trail.capacity := by simp [nothing, Trail.capacity]
          have queued := step_eq_some_iff.mpr (@Takes.record σ medium check _ _ doing room)
          rw [nothing, List.nil_append] at queued
          have taken := step_eq_some_iff.mpr
            (@Takes.take σ medium { check with deeds, queue := [entry] } entry [] rfl)
          obtain ⟨turns, last, ran, ended, recorder⟩ :=
            @induction
              { check with
                deeds
                queue := []
                recorder := (check.recorder.record medium entry).1
                events := check.events ++ (check.recorder.record medium entry).2 } rfl unended rfl
          refine ⟨.proceed :: .take :: turns, last, ?_, ended, recorder⟩
          rw [run, queued, Option.bind_some, run, taken]
          exact ran

end

end CheckUnderWay

end LinkVetting
