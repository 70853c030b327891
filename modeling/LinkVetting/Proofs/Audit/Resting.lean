import LinkVetting.Proofs.Audit.LiveSink
import LinkVetting.Proofs.Audit.TrailSteps
import LinkVetting.Proofs.Audit.WriterCalls

/-!
# A trail at rest

While nothing is logged the recorder of a trail first takes what is pending, and
then only pauses: a pause that is over leaves nothing held back, and the next one
begins.  So a rest can be cut at any point in time.
-/

namespace LinkVetting.Audit

open Files (Disk)

namespace Trail

/-! ## Taking what is pending -/

section

variable {trail : Trail} {disk : Disk} {now fuel : Nat} {entry : Entry}
variable {queue : List Entry}

theorem takeEntry_of_room (waits : trail.queue = entry :: queue)
    (room : trail.writer.waiting.length + entry.bytes.length < Writer.capacity) :
    trail.takeEntry disk now =
      ({ trail with
          writer := { trail.writer with waiting := trail.writer.waiting ++ entry.bytes }
          isDirty := true
          queue := queue ++ trail.blocked.take 1
          blocked := trail.blocked.drop 1
          deadline := now + pauseLength }, disk, []) :=
  takeEntry_of_write waits (Writer.write_of_room room)

theorem deadline_takeEntry (someQueue : trail.queue ≠ []) :
    (trail.takeEntry disk now).1.deadline = now + pauseLength := by
  obtain ⟨entry, queue, waits⟩ := List.exists_cons_of_ne_nil someQueue
  rw [takeEntry, waits]

/-- The pause begins anew with the last entry that is taken. -/
theorem deadline_takeAll
    (pauses : trail.deadline = now + pauseLength ∨ trail.queue ≠ [] ∧ 0 < fuel) :
    (takeAll now fuel trail disk).1.deadline = now + pauseLength := by
  induction fuel generalizing trail disk with
  | zero =>
      rcases pauses with begun | ⟨_, impossible⟩
      · exact begun
      · exact absurd impossible (Nat.lt_irrefl 0)
  | succ fuel induction =>
      rw [takeAll]
      by_cases noQueue : trail.queue = []
      · rcases pauses with begun | ⟨someQueue, _⟩
        · simpa [noQueue] using begun
        · exact absurd noQueue someQueue
      · rw [if_neg (by simpa using noQueue)]
        exact induction (Or.inl (deadline_takeEntry noQueue))

/-- Where few bytes wait, all that is pending is held back with them. -/
theorem waiting_takeAll_of_room (fair : trail.IsFair) (enough : trail.pending.length ≤ fuel)
    (room : (trail.writer.waiting ++ linesOf trail.pending).length < Writer.capacity) :
    (takeAll now fuel trail disk).1.writer.waiting =
      trail.writer.waiting ++ linesOf trail.pending := by
  induction fuel generalizing trail disk with
  | zero =>
      have nothing : trail.pending = [] := List.length_eq_zero_iff.mp (Nat.le_zero.mp enough)
      simp [takeAll, nothing]
  | succ fuel induction =>
      rw [takeAll]
      cases waits : trail.queue with
      | nil =>
          have nobodyWaits := fair.nobodyWaits (by simp [waits, capacity])
          simp [pending, waits, nobodyWaits]
      | cons entry queue =>
          have pendingCut : trail.pending = entry :: (queue ++ trail.blocked) := by
            simp [pending, waits]
          rw [pendingCut, linesOf_cons] at room
          simp only [List.length_append] at room
          have taken := @takeEntry_of_room trail disk now entry queue waits (by omega)
          obtain ⟨next, later, events, answer, advances, stillFair, fewer⟩ :=
            @advances_takeEntry trail disk now fair (by simp [waits])
          cases taken.symm.trans answer
          have nextPending : queue ++ trail.blocked.take 1 ++ trail.blocked.drop 1 =
              queue ++ trail.blocked := by
            rw [List.append_assoc, List.take_append_drop]
          have inner := @induction _ disk stillFair (by omega)
            (by simp only [pending, nextPending, List.length_append]; omega)
          simp only [List.isEmpty_cons, Bool.false_eq_true, if_false, answer]
          rw [inner, pendingCut, linesOf_cons]
          simp only [pending, nextPending, List.append_assoc]

end

/-! ## Pauses -/

/-- A trail only pauses until a point in time: each pause that is over before
leads to the next one. -/
inductive RestsUntil (target : Nat) : Trail → Disk → Trail → Disk → List Event → Prop where
  | reached {trail : Trail} {disk : Disk} (early : target ≤ trail.deadline) :
      RestsUntil target trail disk trail disk []
  | pause {trail middle next : Trail} {disk middleDisk later : Disk}
      {events reports : List Event} (elapsed : trail.deadline < target)
      (paused : trail.pause disk = (middle, middleDisk, events))
      (rests : RestsUntil target middle middleDisk next later reports) :
      RestsUntil target trail disk next later (events ++ reports)

section

variable {place : List Files.Name} {previous : List UInt8} {logged : List Entry}
variable {trail middle next : Trail} {disk middleDisk later : Disk}
variable {events reports : List Event} {entry : Entry} {now cut target : Nat}

theorem pause_frame (paused : trail.pause disk = (next, later, events)) :
    next.state = trail.state ∧ next.sinks = trail.sinks ∧ next.pending = trail.pending ∧
      next.deadline = trail.deadline + pauseLength := by
  cases paused
  exact ⟨rfl, rfl, rfl, rfl⟩

theorem exists_restsUntil :
    ∃ next later events, trail.RestsUntil target disk next later events := by
  induction gap : target - trail.deadline using Nat.strongRecOn generalizing trail disk with
  | ind gap induction =>
      by_cases elapsed : trail.deadline < target
      · cases paused : trail.pause disk with
        | mk middle rest =>
            obtain ⟨middleDisk, events⟩ := rest
            obtain ⟨_, _, _, deadline⟩ := pause_frame paused
            obtain ⟨next, later, reports, rests⟩ :=
              induction (target - middle.deadline)
                (by rw [deadline, pauseLength]; omega) rfl
            exact ⟨next, later, events ++ reports, .pause elapsed paused rests⟩
      · exact ⟨trail, disk, [], .reached (Nat.le_of_not_lt elapsed)⟩

theorem RestsUntil.trans (first : trail.RestsUntil cut disk middle middleDisk events)
    (second : middle.RestsUntil target middleDisk next later reports)
    (ordered : cut ≤ target) :
    trail.RestsUntil target disk next later (events ++ reports) := by
  induction first with
  | reached => exact second
  | pause elapsed paused _ induction =>
      rw [List.append_assoc]
      exact .pause (Nat.lt_of_lt_of_le elapsed ordered) paused (induction second)

theorem RestsUntil.frame (rests : trail.RestsUntil target disk next later events) :
    next.state = trail.state ∧ next.sinks = trail.sinks ∧ next.pending = trail.pending := by
  induction rests with
  | reached => exact ⟨rfl, rfl, rfl⟩
  | pause _ paused _ induction =>
      obtain ⟨state, sinks, pending, _⟩ := pause_frame paused
      obtain ⟨nextState, nextSinks, nextPending⟩ := induction
      exact ⟨nextState.trans state, nextSinks.trans sinks, nextPending.trans pending⟩

/-- After a rest the next pause is not over, and it is over soon. -/
theorem RestsUntil.deadline (rests : trail.RestsUntil target disk next later events)
    (near : trail.deadline ≤ target + pauseLength) :
    target ≤ next.deadline ∧ next.deadline ≤ target + pauseLength := by
  induction rests with
  | reached early => exact ⟨early, near⟩
  | pause elapsed paused _ induction =>
      obtain ⟨_, _, _, deadline⟩ := pause_frame paused
      exact induction (by omega)

theorem RestsUntil.of_le (rests : trail.RestsUntil target disk next later events)
    (early : target ≤ trail.deadline) : next = trail ∧ later = disk ∧ events = [] := by
  cases rests with
  | reached => exact ⟨rfl, rfl, rfl⟩
  | pause elapsed => omega

theorem Keeps.rest (keeps : Keeps place previous logged trail disk)
    (rests : trail.RestsUntil target disk next later events) :
    Keeps place previous logged next later ∧
      (trail.deadline < target ∨ trail.writer.waiting = [] → next.writer.waiting = []) := by
  induction rests with
  | reached early =>
      refine ⟨keeps, fun flushed => ?_⟩
      rcases flushed with elapsed | nothingWaits
      · omega
      · exact nothingWaits
  | pause elapsed paused _ induction =>
      obtain ⟨middle, middleDisk, answer, middleKeeps, _, _, nothingWaits⟩ := keeps.pause
      cases answer.symm.trans paused
      obtain ⟨nextKeeps, flushed⟩ := induction middleKeeps
      exact ⟨nextKeeps, fun _ => flushed (Or.inr nothingWaits)⟩

theorem Keeps.log_pending (keeps : Keeps place previous logged trail disk)
    (running : trail.state = .running) :
    (trail.log entry).1.writer = trail.writer ∧
      (trail.log entry).1.deadline = trail.deadline ∧
        (trail.log entry).1.pending = trail.pending ++ [entry] := by
  have isOpen : trail.isOpen = true := by simp [Trail.isOpen, running]
  by_cases room : trail.queue.length < capacity
  · simp [Trail.log, isOpen, room, pending, keeps.nobodyWaits room]
  · simp [Trail.log, isOpen, room, pending]

/-- A turn of a trail with a sink takes all that is pending.  With something taken a
pause of full length begins. -/
theorem Keeps.turn_of_sink (keeps : Keeps place previous logged trail disk)
    (running : trail.state = .running) (shared : trail.sinks ≠ 0) :
    ∃ next later, trail.turn disk now = (next, later, []) ∧
      Keeps place previous logged next later ∧
        next.state = trail.state ∧ next.sinks = trail.sinks ∧ next.pending = [] ∧
          (trail.pending = [] → next = trail ∧ later = disk) ∧
          (trail.pending ≠ [] → next.deadline = now + pauseLength) ∧
            ((trail.writer.waiting ++ linesOf trail.pending).length < Writer.capacity →
              next.writer.waiting = trail.writer.waiting ++ linesOf trail.pending) := by
  have fair : trail.IsFair := fun waits => Nat.le_of_eq (keeps.full waits).symm
  have enough : trail.pending.length ≤ trail.queue.length + trail.blocked.length :=
    Nat.le_of_eq List.length_append
  obtain ⟨next, later, taken, nextKeeps, sameState, sameSinks, noQueue, nobodyWaits⟩ :=
    @Keeps.takeAll place previous logged trail disk now
      (trail.queue.length + trail.blocked.length) keeps (Nat.le_refl _)
  refine ⟨next, later, ?_, nextKeeps, sameState, sameSinks, ?_, ?_, ?_, ?_⟩
  · simp [Trail.turn, running, taken, sameSinks, shared]
  · rw [pending, noQueue, nobodyWaits, List.append_nil]
  · intro nothing
    obtain ⟨queue, blocked⟩ := List.append_eq_nil_iff.mp nothing
    rw [queue, blocked] at taken
    cases taken
    exact ⟨rfl, rfl⟩
  · intro something
    have someQueue : trail.queue ≠ [] := by
      intro queue
      have blocked := keeps.nobodyWaits (by simp [queue, capacity])
      exact something (by simp [pending, queue, blocked])
    have positive := List.length_pos_iff.mpr someQueue
    have begun := @deadline_takeAll trail disk now
      (trail.queue.length + trail.blocked.length) (Or.inr ⟨someQueue, by omega⟩)
    rwa [taken] at begun
  · intro room
    have held := @waiting_takeAll_of_room trail disk now _ fair enough room
    rwa [taken] at held

end

/-! ## Entries that are held back -/

/-- What becomes of the bytes that a trail holds back while some entries are taken
at one point in time and the clock goes on to a later one.  No flush comes before
the pause after the last entry is over. -/
inductive Passes (now later : Nat) (taken : List Entry) (trail next : Trail) : Prop where
  | held
      (together : (trail.writer.waiting ++ linesOf taken).length < Writer.capacity →
        next.writer.waiting = trail.writer.waiting ++ linesOf taken)
      (sooner : trail.deadline ≤ next.deadline)
      (anew : taken ≠ [] → now + pauseLength ≤ next.deadline)
  | flushed (nothingWaits : next.writer.waiting = [])
      (elapsed : trail.deadline ≤ later)
      (elapsedAnew : taken ≠ [] → now + pauseLength ≤ later)

/-- Entries that were taken less than a pause ago are held back, and what is held
back has been taken a pause before the next flush. -/
def HoldsYoung (takings : List (Nat × Entry)) (now : Nat) (trail : Trail) : Prop :=
  ∃ kept waiting, takings = kept ++ waiting ∧
    linesOf (waiting.map Prod.snd) <:+ trail.writer.waiting ∧
      (∀ taken ∈ kept, taken.1 + pauseLength ≤ now) ∧
        ∀ taken ∈ waiting, taken.1 + pauseLength ≤ trail.deadline

section

variable {trail next : Trail} {now later : Nat} {taken : List Entry}
variable {takings : List (Nat × Entry)}

theorem Passes.of_same (writer : next.writer = trail.writer)
    (deadline : next.deadline = trail.deadline) : trail.Passes now later [] next := by
  refine .held (fun _ => ?_) (Nat.le_of_eq deadline.symm) (fun some => absurd rfl some)
  rw [writer, linesOf_nil, List.append_nil]

theorem Passes.of_frame {logged : Trail} (passes : logged.Passes now later taken next)
    (writer : logged.writer = trail.writer) (deadline : logged.deadline = trail.deadline) :
    trail.Passes now later taken next := by
  cases passes with
  | held together sooner anew =>
      rw [writer] at together
      exact .held together (deadline ▸ sooner) anew
  | flushed nothingWaits elapsed elapsedAnew =>
      exact .flushed nothingWaits (deadline ▸ elapsed) elapsedAnew

theorem Passes.trans {middle : Nat} {between : Trail}
    (first : trail.Passes now middle taken between) (second : between.Passes middle later [] next)
    (ordered : middle ≤ later) :
    trail.Passes now later taken next := by
  cases first with
  | held together sooner anew =>
      cases second with
      | held stillTogether stillSooner _ =>
          refine .held (fun room => ?_) (Nat.le_trans sooner stillSooner)
            fun something => Nat.le_trans (anew something) stillSooner
          have before := together room
          rw [stillTogether (by rwa [linesOf_nil, List.append_nil, before]), before, linesOf_nil,
            List.append_nil]
      | flushed nothingWaits elapsed _ =>
          exact .flushed nothingWaits (Nat.le_trans sooner elapsed)
            fun something => Nat.le_trans (anew something) elapsed
  | flushed nothingWaits elapsed elapsedAnew =>
      refine .flushed ?_ (Nat.le_trans elapsed ordered)
        fun something => Nat.le_trans (elapsedAnew something) ordered
      cases second with
      | held stillTogether _ _ =>
          rw [nothingWaits] at stillTogether
          exact stillTogether (by decide)
      | flushed stillNothing _ _ => exact stillNothing

/-- In a rest nothing is taken. -/
theorem Keeps.passes_rest {place : List Files.Name} {previous : List UInt8}
    {logged : List Entry} {disk laterDisk : Disk} {events : List Event}
    (keeps : Keeps place previous logged trail disk)
    (rests : trail.RestsUntil later disk next laterDisk events) :
    trail.Passes now later [] next := by
  by_cases early : later ≤ trail.deadline
  · obtain ⟨rfl, _, _⟩ := rests.of_le early
    exact .of_same rfl rfl
  · obtain ⟨_, flushed⟩ := keeps.rest rests
    exact .flushed (flushed (Or.inl (by omega))) (by omega) fun some => absurd rfl some

theorem HoldsYoung.passes (holds : trail.HoldsYoung takings now)
    (passes : trail.Passes now later taken next) (ordered : now ≤ later)
    (room : (trail.writer.waiting ++ linesOf taken).length < Writer.capacity) :
    next.HoldsYoung (takings ++ taken.map (now, ·)) later := by
  obtain ⟨kept, waiting, rfl, lines, old, young⟩ := holds
  have entries : (taken.map (now, ·)).map Prod.snd = taken := by
    rw [List.map_map]
    exact List.map_id taken
  cases passes with
  | held together sooner anew =>
      refine ⟨kept, waiting ++ taken.map (now, ·), by simp, ?_, ?_, ?_⟩
      · obtain ⟨older, cut⟩ := lines
        rw [together room, List.map_append, entries, linesOf_append, ← cut, List.append_assoc]
        exact List.suffix_append older _
      · exact fun taking member => Nat.le_trans (old taking member) ordered
      · intro taking member
        rcases List.mem_append.mp member with before | new
        · exact Nat.le_trans (young taking before) sooner
        · obtain ⟨entry, entryMember, rfl⟩ := List.mem_map.mp new
          exact anew (List.ne_nil_of_mem entryMember)
  | flushed nothingWaits elapsed elapsedAnew =>
      refine ⟨kept ++ waiting ++ taken.map (now, ·), [], by simp, ?_, ?_, ?_⟩
      · rw [nothingWaits]
        exact List.suffix_rfl
      · intro taking member
        rcases List.mem_append.mp member with before | new
        · rcases List.mem_append.mp before with keptBefore | waitingBefore
          · exact Nat.le_trans (old taking keptBefore) ordered
          · exact Nat.le_trans (young taking waitingBefore) elapsed
        · obtain ⟨entry, entryMember, rfl⟩ := List.mem_map.mp new
          exact elapsedAnew (List.ne_nil_of_mem entryMember)
      · exact fun taking member => absurd member List.not_mem_nil

end

end Trail

end LinkVetting.Audit
