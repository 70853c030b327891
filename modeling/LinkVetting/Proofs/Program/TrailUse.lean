import LinkVetting.Proofs.Program.CheckUnderWay

/-!
# A check as a use of its trail

A check whose recorder writes to a trail uses this trail as any sinks may use it: it
logs its entries through the only sink, and gives the sink up when it has done all.
Every turn of the check and its recorder is matched by actions on the trail, so what
holds of every use of a trail holds of a check, whatever turns the two take.
-/

namespace LinkVetting

open Audit (Entry Recorder Stamp Trail Usage Writer)
open Files (Disk)

/-! ## What the recorder of a trail does -/

namespace Audit.Trail

variable {trail : Trail} {disk : Disk} {now : Nat} {entry : Entry} {queue : List Entry}
variable {recorder : Recorder (Writer × Disk)} {events : List Event}

theorem takeEntry_of_record (waits : trail.queue = entry :: queue)
    (recorded : (trail.recorder disk).record Writer.medium entry = (recorder, events)) :
    trail.takeEntry disk now =
      ({ (trail.withRecorder recorder).1 with
          queue := queue ++ trail.blocked.take 1
          blocked := trail.blocked.drop 1
          deadline := now + pauseLength }, recorder.state.2, events) := by
  simp only [takeEntry, waits, recorded, withRecorder]

theorem pause_of_recorder
    (paused : (trail.recorder disk).pause Writer.medium = (recorder, events)) :
    trail.pause disk =
      ({ (trail.withRecorder recorder).1 with deadline := trail.deadline + pauseLength },
        recorder.state.2, events) := by
  simp only [pause, paused, withRecorder]

theorem turn_of_nothing (running : trail.state = .running) (noSinks : trail.sinks = 0)
    (nothing : trail.queue = []) (nobodyWaits : trail.blocked = [])
    (finished : (trail.recorder disk).finish Writer.medium = (recorder, events)) :
    trail.turn disk now =
      ({ (trail.withRecorder recorder).1 with state := .finished }, recorder.state.2, events) := by
  simp only [turn, running, noSinks, nothing, nobodyWaits, List.length_nil, takeAll, if_true,
    finish, finished, withRecorder, List.nil_append]

end Audit.Trail

namespace CheckUnderWay

/-! ## Turns as actions on the trail -/

/-- A check under way and a use of its trail have come equally far. -/
structure Matches (check : CheckUnderWay (Writer × Disk)) (usage : Usage) : Prop where
  queue : usage.trail.queue = check.queue
  nobodyWaits : usage.trail.blocked = []
  recorder : usage.trail.recorder usage.disk = check.recorder
  running : check.hasEnded = false →
    usage.trail.state = .running ∧ usage.trail.sinks = 1 ∧ usage.held = [0]
  ended : check.hasEnded = true →
    usage.trail.state = .finished ∧ check.deeds = [] ∧ check.queue = []

section

variable {check next last : CheckUnderWay (Writer × Disk)} {usage : Usage} {turn : Turn}
variable {turns : List Turn}

theorem Matches.unended (alike : check.Matches usage)
    (busy : check.deeds ≠ [] ∨ check.queue ≠ []) : check.hasEnded = false := by
  cases ended : check.hasEnded with
  | false => rfl
  | true =>
      obtain ⟨_, done, nothing⟩ := alike.ended ended
      rcases busy with doing | waits
      · exact absurd done doing
      · exact absurd nothing waits

theorem Matches.of_unended (unended : check.hasEnded = false)
    (queue : usage.trail.queue = check.queue) (nobodyWaits : usage.trail.blocked = [])
    (recorder : usage.trail.recorder usage.disk = check.recorder)
    (atWork : usage.trail.state = .running) (sinks : usage.trail.sinks = 1)
    (held : usage.held = [0]) : check.Matches usage where
  queue := queue
  nobodyWaits := nobodyWaits
  recorder := recorder
  running := fun _ => ⟨atWork, sinks, held⟩
  ended := fun ended => absurd (unended.symm.trans ended) Bool.false_ne_true

/-- What a check shows and counts does not concern its trail. -/
theorem Matches.proceed {deed : Deed} {deeds : List Deed} (alike : check.Matches usage)
    (doing : check.deeds = deed :: deeds) (shown : List Char) (rejected : Nat) :
    { check with deeds, shown, rejected }.Matches usage := by
  have unended := alike.unended (Or.inl (doing ▸ List.cons_ne_nil _ _))
  obtain ⟨atWork, sinks, held⟩ := alike.running unended
  exact .of_unended unended alike.queue alike.nobodyWaits alike.recorder atWork sinks held

theorem Matches.record {entry : Entry} {deeds : List Deed} (alike : check.Matches usage)
    (doing : check.deeds = .record entry :: deeds)
    (room : check.queue.length < Trail.capacity) :
    ∃ after, usage.run [.log 0 entry] = some after ∧
      { check with deeds, queue := check.queue ++ [entry] }.Matches after := by
  have unended := alike.unended (Or.inl (doing ▸ List.cons_ne_nil _ _))
  obtain ⟨queue, nobodyWaits, recorder, running, _⟩ := alike
  obtain ⟨atWork, sinks, held⟩ := running unended
  rw [← queue] at room
  have logged : (usage.trail.log entry).1 =
      { usage.trail with queue := usage.trail.queue ++ [entry] } := by
    simp [Trail.log, Trail.isOpen, atWork, room]
  refine ⟨{ usage with trail := (usage.trail.log entry).1 }, ?_, ?_⟩
  · simp [Usage.run, Usage.step, held]
  · rw [logged]
    exact .of_unended unended (congrArg (· ++ [entry]) queue) nobodyWaits recorder atWork sinks
      held

theorem Matches.take {entry : Entry} {queue : List Entry} (alike : check.Matches usage)
    (waits : check.queue = entry :: queue) :
    ∃ after, usage.run [.take] = some after ∧
      { check with
        queue
        recorder := (check.recorder.record Writer.medium entry).1
        events := check.events ++ (check.recorder.record Writer.medium entry).2 }.Matches
          after := by
  have unended := alike.unended (Or.inr (waits ▸ List.cons_ne_nil _ _))
  obtain ⟨sameQueue, nobodyWaits, sameRecorder, running, _⟩ := alike
  obtain ⟨atWork, sinks, held⟩ := running unended
  rw [← sameRecorder]
  cases recorded : (usage.trail.recorder usage.disk).record Writer.medium entry with
  | mk recorder events =>
      have taken := @Trail.takeEntry_of_record _ _ usage.now _ _ _ _
        (sameQueue.trans waits) recorded
      rw [nobodyWaits, List.take_nil, List.drop_nil, List.append_nil] at taken
      refine ⟨_, by rw [Usage.run, Usage.step, if_pos atWork, taken]; rfl, ?_⟩
      exact .of_unended unended rfl rfl rfl atWork sinks held

/-- A pause is one for which the trail has been waited long enough. -/
theorem Matches.pause (alike : check.Matches usage) (unended : check.hasEnded = false) :
    ∃ after, usage.run [.wait usage.trail.deadline, .pause] = some after ∧
      { check with
        recorder := (check.recorder.pause Writer.medium).1
        events := check.events ++ (check.recorder.pause Writer.medium).2 }.Matches after := by
  obtain ⟨queue, nobodyWaits, sameRecorder, running, _⟩ := alike
  obtain ⟨atWork, sinks, held⟩ := running unended
  rw [← sameRecorder]
  cases answer : (usage.trail.recorder usage.disk).pause Writer.medium with
  | mk recorder events =>
      have paused := Trail.pause_of_recorder answer
      have isDue : usage.trail.deadline ≤ usage.now + usage.trail.deadline := Nat.le_add_left ..
      refine ⟨{ usage with
        trail :=
          { (usage.trail.withRecorder recorder).1 with
            deadline := usage.trail.deadline + Trail.pauseLength }
        disk := recorder.state.2
        now := usage.now + usage.trail.deadline }, ?_, ?_⟩
      · rw [Usage.run, Usage.step, Option.bind_some, Usage.run, Usage.step,
          if_pos ⟨atWork, isDue⟩, paused]
        rfl
      · exact .of_unended unended queue nobodyWaits rfl atWork sinks held

/-- The end of a check is that its sink is given up and the recorder gets a turn. -/
theorem Matches.finish (alike : check.Matches usage) (done : check.deeds = [])
    (nothing : check.queue = []) (unended : check.hasEnded = false) :
    ∃ after, usage.run [.drop 0, .turn] = some after ∧
      { check with
        recorder := (check.recorder.finish Writer.medium).1
        events := check.events ++ (check.recorder.finish Writer.medium).2
        hasEnded := true }.Matches after := by
  obtain ⟨queue, nobodyWaits, sameRecorder, running, _⟩ := alike
  obtain ⟨atWork, sinks, held⟩ := running unended
  have noSinks : usage.trail.dropSink.sinks = 0 := by rw [Trail.dropSink, sinks]
  have member : 0 ∈ usage.held := by simp [held]
  rw [← sameRecorder]
  cases answer : (usage.trail.recorder usage.disk).finish Writer.medium with
  | mk recorder events =>
      have turned := @Trail.turn_of_nothing usage.trail.dropSink usage.disk usage.now _ _
        atWork noSinks (queue.trans nothing) nobodyWaits answer
      refine ⟨{ usage with
        trail :=
          { (usage.trail.dropSink.withRecorder recorder).1 with state := .finished }
        disk := recorder.state.2
        held := [] }, ?_, ?_⟩
      · rw [Usage.run, Usage.step, if_pos member, Option.bind_some, Usage.run, Usage.step, turned]
        simp [held, Usage.run]
      · exact
          { queue
            nobodyWaits
            recorder := rfl
            running := fun unended => absurd unended.symm Bool.false_ne_true
            ended := fun _ => ⟨rfl, done, nothing⟩ }

/-- Every turn is matched by actions that log the entries of what is done in it. -/
theorem Matches.step (alike : check.Matches usage)
    (stepped : check.step Writer.medium turn = some next) :
    ∃ actions after, usage.run actions = some after ∧ next.Matches after ∧
      Usage.logged actions ++ next.deeds.filterMap Deed.entry? =
        check.deeds.filterMap Deed.entry? := by
  cases step_eq_some_iff.mp stepped with
  | reject doing =>
      refine ⟨[], usage, rfl, alike.proceed doing .., ?_⟩
      rw [doing]
      rfl
  | print doing =>
      refine ⟨[], usage, rfl, alike.proceed doing .., ?_⟩
      rw [doing]
      rfl
  | record doing room =>
      obtain ⟨after, ran, alikeAfter⟩ := alike.record doing room
      refine ⟨_, after, ran, alikeAfter, ?_⟩
      rw [doing]
      rfl
  | take waits =>
      obtain ⟨after, ran, alikeAfter⟩ := alike.take waits
      exact ⟨_, after, ran, alikeAfter, rfl⟩
  | pause nothing unended =>
      obtain ⟨after, ran, alikeAfter⟩ := alike.pause unended
      exact ⟨_, after, ran, alikeAfter, rfl⟩
  | finish done nothing unended =>
      obtain ⟨after, ran, alikeAfter⟩ := alike.finish done nothing unended
      exact ⟨_, after, ran, alikeAfter, rfl⟩

theorem Matches.run (alike : check.Matches usage)
    (ran : check.run Writer.medium turns = some last) :
    ∃ actions after, usage.run actions = some after ∧ last.Matches after ∧
      Usage.logged actions ++ last.deeds.filterMap Deed.entry? =
        check.deeds.filterMap Deed.entry? := by
  induction turns generalizing check usage with
  | nil =>
      cases ran
      exact ⟨[], usage, rfl, alike, rfl⟩
  | cons turn turns induction =>
      obtain ⟨next, stepped, ranOn⟩ := Option.bind_eq_some_iff.mp ran
      obtain ⟨actions, middle, used, alikeThen, logged⟩ := alike.step stepped
      obtain ⟨others, after, usedOn, alikeAfter, loggedOn⟩ := induction alikeThen ranOn
      refine ⟨actions ++ others, after, ?_, alikeAfter, ?_⟩
      · rw [Usage.run_append, used]
        exact usedOn
      · rw [← logged, ← loggedOn, Usage.logged, List.filterMap_append, List.append_assoc]
        rfl

end

/-! ## The file of a check -/

section

variable {stamps : Nat → Stamp} {json : Bool} {set : RuleSet} {candidates : List Candidate}
variable {disk opened : Disk} {path : Files.Path} {writer : Writer} {turns : List Turn}
variable {last : CheckUnderWay (Writer × Disk)}

/-- A check on a trail that has been opened is a use of the trail that logs the entries of the
report, as far as the check has come. -/
theorem exists_usage (answer : Writer.openOn disk path = (opened, .ok writer))
    (ran : (ofCandidates stamps json set candidates (writer, opened)).run Writer.medium turns =
      some last) :
    ∃ trail actions usage,
      Trail.start disk path 0 = (opened, .ok (trail, .trailOpened path)) ∧
        trail.writer = writer ∧
        (Usage.ofStart opened trail 0).run actions = some usage ∧ last.Matches usage ∧
          Usage.logged actions ++ last.deeds.filterMap Deed.entry? =
            (Report.ofCandidates set candidates).entries stamps := by
  let trail : Trail := { writer, deadline := Trail.pauseLength }
  have started : Trail.start disk path 0 = (opened, .ok (trail, .trailOpened path)) := by
    rw [Trail.start, answer, Nat.zero_add]
  have atFirst : (ofCandidates stamps json set candidates (writer, opened)).Matches
      (Usage.ofStart opened trail 0) := .of_unended rfl rfl rfl rfl rfl rfl rfl
  obtain ⟨actions, usage, used, alike, logged⟩ := atFirst.run ran
  exact ⟨trail, actions, usage, started, rfl, used, alike, logged.trans Check.entries_deeds⟩

/-- A check that has come to its end leaves its entries on the file, behind what this held
before, whatever turns the check and its recorder have taken. -/
theorem file_of_ended (answer : Writer.openOn disk path = (opened, .ok writer))
    (regular : ∃ content, opened.root.get? writer.place = some (.file content))
    (ran : (ofCandidates stamps json set candidates (writer, opened)).run Writer.medium turns =
      some last)
    (ended : last.hasEnded = true) :
    last.recorder.state.2.root.get? writer.place =
      some (.file (disk.contentAt writer.place ++
        ((Report.ofCandidates set candidates).entries stamps).flatMap Entry.bytes)) := by
  obtain ⟨trail, actions, usage, started, rfl, used, alike, logged⟩ := exists_usage answer ran
  obtain ⟨finished, done, _⟩ := alike.ended ended
  rw [done, List.filterMap_nil, List.append_nil] at logged
  obtain ⟨_, file⟩ := ((Usage.holds_ofStart started regular).run used).file finished
  rw [List.nil_append, logged] at file
  rw [← alike.recorder]
  exact file

end

end CheckUnderWay

end LinkVetting
