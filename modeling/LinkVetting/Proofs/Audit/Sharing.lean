import Mathlib.Data.List.DropRight
import LinkVetting.Proofs.Audit.WriterCalls

/-!
# Writers that share a file

Any number of writers are opened on one path, at any time, and are told to write
and to flush in any order.  What a writer has written since its last flush is its
batch.  As long as batches are small, the file grows by whole batches, in the
order of the flushes.
-/

namespace LinkVetting.Audit

open Files (Disk)

namespace Writer

def Call.isFlush : Call → Bool
  | .write _ => false
  | .flush => true

/-- The entries that calls write behind the last flush among them. -/
def writtenSinceFlush (calls : List Call) : List Entry :=
  written (calls.rtakeWhile fun call => !call.isFlush)

theorem writtenSinceFlush_write {calls : List Call} {entry : Entry} :
    writtenSinceFlush (calls ++ [.write entry]) = writtenSinceFlush calls ++ [entry] := by
  rw [writtenSinceFlush, List.rtakeWhile_concat, if_pos (by rfl), written_append]
  rfl

theorem writtenSinceFlush_flush {calls : List Call} :
    writtenSinceFlush (calls ++ [.flush]) = [] := by
  rw [writtenSinceFlush, List.rtakeWhile_concat, if_neg (by simp [Call.isFlush])]
  rfl

section

variable {writer : Writer} {disk : Disk}

theorem workingDirectory_send {bytes : List UInt8} :
    (writer.send disk bytes).2.1.workingDirectory = disk.workingDirectory := by
  rw [send]
  split
  · rfl
  · split
    · rfl
    · rfl
  · rfl

theorem workingDirectory_drain :
    (writer.drain disk).2.1.workingDirectory = disk.workingDirectory := by
  rw [drain]
  split
  · rfl
  · have sent := @workingDirectory_send writer disk writer.waiting
    split
    · rename_i answer
      rwa [answer] at sent
    · exact sent

theorem workingDirectory_flush :
    (writer.flush disk).2.1.workingDirectory = disk.workingDirectory := by
  have drained := @workingDirectory_drain writer disk
  rw [flush]
  split
  · rename_i answer
    rwa [answer] at drained
  · rename_i answer
    rwa [answer] at drained

end

end Writer

/-- Writers on one path, in the order in which they have been opened, with their
disk. -/
structure Sharing where
  disk : Disk
  writers : List Writer

namespace Sharing

/-- What can happen to writers that share a path. -/
inductive Action where
  | opening
  /-- A writer, by its number, is told something. -/
  | tell (number : Nat) (call : Writer.Call)

/-- What an action tells a writer. -/
def Action.callTo? (number : Nat) : Action → Option Writer.Call
  | .opening => none
  | .tell other call => if other = number then some call else none

/-- One action, if it is possible and succeeds. -/
def step (path : Files.Path) (sharing : Sharing) : Action → Option Sharing
  | .opening =>
      match Writer.openOn sharing.disk path with
      | (disk, .ok writer) => some ⟨disk, sharing.writers ++ [writer]⟩
      | (_, .error _) => none
  | .tell number call =>
      match sharing.writers[number]? with
      | none => none
      | some writer =>
          match writer.perform sharing.disk call with
          | (writer, disk, .ok ()) => some ⟨disk, sharing.writers.set number writer⟩
          | (_, _, .error _) => none

/-- Actions one after the other. -/
def run (path : Files.Path) (sharing : Sharing) : List Action → Option Sharing
  | [] => some sharing
  | action :: later => (sharing.step path action).bind fun next => next.run path later

/-- What a writer is told by actions, in order. -/
def callsTo (number : Nat) (actions : List Action) : List Writer.Call :=
  actions.filterMap (Action.callTo? number)

/-- The entries that a writer has been told to write since its last flush. -/
def batch (number : Nat) (actions : List Action) : List Entry :=
  Writer.writtenSinceFlush (callsTo number actions)

/-- The batches that actions flush, in order, each with the number of its writer;
`earlier` are the actions before them. -/
def batchesFrom (earlier : List Action) : List Action → List (Nat × List Entry)
  | [] => []
  | .tell number .flush :: later =>
      (number, batch number earlier) :: batchesFrom (earlier ++ [.tell number .flush]) later
  | action :: later => batchesFrom (earlier ++ [action]) later

def batches (actions : List Action) : List (Nat × List Entry) := batchesFrom [] actions

/-- The lines of batches, one after the other. -/
def linesOfBatches (batches : List (Nat × List Entry)) : List UInt8 :=
  batches.flatMap fun (_, entries) => linesOf entries

/-! ## Batches -/

section

variable {number other : Nat} {earlier later actions : List Action} {call : Writer.Call}
variable {entry : Entry}

theorem batch_opening : batch number (earlier ++ [.opening]) = batch number earlier := by
  simp [batch, callsTo, List.filterMap_cons, Action.callTo?]

theorem callsTo_self :
    callsTo number (earlier ++ [.tell number call]) = callsTo number earlier ++ [call] := by
  simp [callsTo, Action.callTo?]

theorem batch_other (different : other ≠ number) :
    batch number (earlier ++ [.tell other call]) = batch number earlier := by
  simp [batch, callsTo, Action.callTo?, different]

theorem batch_write :
    batch number (earlier ++ [.tell number (.write entry)]) = batch number earlier ++ [entry] := by
  rw [batch, callsTo_self, Writer.writtenSinceFlush_write, batch]

theorem batch_flush : batch number (earlier ++ [.tell number .flush]) = [] := by
  rw [batch, callsTo_self, Writer.writtenSinceFlush_flush]

theorem batchesFrom_append :
    batchesFrom earlier (actions ++ later) =
      batchesFrom earlier actions ++ batchesFrom (earlier ++ actions) later := by
  induction actions generalizing earlier with
  | nil => simp [batchesFrom]
  | cons action actions induction =>
      cases action with
      | opening => simp [batchesFrom, induction]
      | tell number call =>
          cases call with
          | write entry => simp [batchesFrom, induction]
          | flush => simp [batchesFrom, induction]

/-- The batches of a writer and what it has written since make up all that it has
been told to write, in order. -/
theorem batches_of_writer :
    ((batchesFrom earlier later).filter fun flushed => flushed.1 = number).flatMap Prod.snd ++
        batch number (earlier ++ later) =
      batch number earlier ++ Writer.written (callsTo number later) := by
  induction later generalizing earlier with
  | nil => simp [batchesFrom, callsTo, Writer.written]
  | cons action later induction =>
      have rest := @induction (earlier ++ [action])
      rw [List.append_assoc, List.singleton_append] at rest
      cases action with
      | opening =>
          rw [batch_opening] at rest
          simpa [batchesFrom, callsTo, List.filterMap_cons, Action.callTo?] using rest
      | tell other call =>
          by_cases same : other = number
          · subst same
            have calls : callsTo other (.tell other call :: later) =
                call :: callsTo other later := by simp [callsTo, Action.callTo?]
            rw [calls, Writer.written_cons]
            cases call with
            | write entry =>
                rw [batch_write, List.append_assoc] at rest
                simpa [batchesFrom, Writer.Call.entry?] using rest
            | flush =>
                rw [batch_flush, List.nil_append] at rest
                simp [batchesFrom, Writer.Call.entry?, rest]
          · rw [batch_other same] at rest
            have calls : callsTo number (.tell other call :: later) =
                callsTo number later := by simp [callsTo, Action.callTo?, same]
            rw [calls, ← rest]
            cases call with
            | write entry => simp [batchesFrom]
            | flush => simp [batchesFrom, same]

theorem length_batch_le :
    (linesOf (batch number earlier)).length ≤
      (linesOf (Writer.written (callsTo number (earlier ++ later)))).length := by
  have together := @batches_of_writer number [] earlier
  have nothing : batch number [] = [] := rfl
  rw [List.nil_append, nothing, List.nil_append] at together
  have calls : callsTo number (earlier ++ later) = callsTo number earlier ++ callsTo number later :=
    List.filterMap_append
  rw [calls, Writer.written_append, ← together]
  simp only [linesOf_append, List.length_append]
  omega

theorem linesOfBatches_eq {batches : List (Nat × List Entry)} :
    linesOfBatches batches = linesOf (batches.flatMap Prod.snd) := by
  rw [linesOfBatches, linesOf, List.flatMap_assoc]
  rfl

end

/-! ## Opening a path again -/

section

variable {disk opened : Disk} {path : Files.Path} {writer : Writer}

/-- A path that is opened once more leads to the same file, and leaves it as it is. -/
theorem reopened {current again : Disk} {next : Writer} {content : List UInt8}
    (opens : Writer.openOn disk path = (opened, .ok writer))
    (reopens : Writer.openOn current path = (again, .ok next))
    (sameStart : current.workingDirectory = disk.workingDirectory)
    (file : current.root.get? writer.place = some (.file content)) :
    next = writer ∧ again.root.get? writer.place = some (.file content) := by
  obtain ⟨middle, _, start, answered, fresh⟩ := Writer.openAppend_of_openOn opens
  obtain ⟨other, same, restart, reanswered, nextFresh⟩ := Writer.openAppend_of_openOn reopens
  have samePlace : writer.place = next.place :=
    Disk.place_of_openAppend answered reanswered
      (restart.trans (sameStart.trans start.symm))
  refine ⟨by rw [fresh, nextFresh, samePlace], ?_⟩
  have stillFile := (same writer.place (.file content) rfl).mpr file
  obtain ⟨_, rfl | ⟨absent, _⟩⟩ := Disk.openAppend_cases reanswered
  · exact stillFile
  · rw [← samePlace, stillFile] at absent
    cases absent

end

/-! ## What actions preserve -/

/-- The file holds the flushed batches behind its earlier content, and each writer
holds back its batch. -/
structure Holds (first : Writer) (start : List Files.Name) (previous : List UInt8)
    (actions : List Action) (sharing : Sharing) : Prop where
  start : sharing.disk.workingDirectory = start
  file : sharing.disk.root.get? first.place =
    some (.file (previous ++ linesOfBatches (batches actions)))
  opened : ∀ number writer, sharing.writers[number]? = some writer →
    writer = { first with waiting := linesOf (batch number actions) }
  unopened : ∀ number, sharing.writers.length ≤ number → batch number actions = []

section

variable {path : Files.Path} {disk opened : Disk} {first : Writer}
variable {previous : List UInt8} {start : List Files.Name}
variable {actions : List Action} {sharing next : Sharing}

theorem Holds.hasWritten {number : Nat} {writer : Writer} (fresh : first.wasRefused = false)
    (holds : Holds first start previous actions sharing)
    (found : sharing.writers[number]? = some writer) :
    writer.HasWritten sharing.disk
      (previous ++ linesOfBatches (batches actions) ++ linesOf (batch number actions)) := by
  obtain rfl := holds.opened number writer found
  exact ⟨⟨_, holds.file, rfl⟩, fresh⟩

theorem batches_concat {action : Action} :
    batches (actions ++ [action]) = batches actions ++ batchesFrom actions [action] := by
  rw [batches, batchesFrom_append, List.nil_append, batches]

theorem batchesFrom_opening : batchesFrom actions [.opening] = [] := by
  simp [batchesFrom]

theorem batchesFrom_write {number : Nat} {entry : Entry} :
    batchesFrom actions [.tell number (.write entry)] = [] := by
  simp [batchesFrom]

theorem batchesFrom_flush {number : Nat} :
    batchesFrom actions [.tell number .flush] = [(number, batch number actions)] := by
  simp [batchesFrom]

theorem Holds.opening (fresh : first.waiting = [])
    (opens : Writer.openOn disk path = (opened, .ok first))
    (holds : Holds first disk.workingDirectory previous actions sharing)
    (stepped : sharing.step path .opening = some next) :
    Holds first disk.workingDirectory previous (actions ++ [.opening]) next := by
  rw [step] at stepped
  split at stepped
  · rename_i again writer reopens
    cases stepped
    obtain ⟨rfl, file⟩ := reopened opens reopens holds.start holds.file
    refine ⟨(Writer.workingDirectory_of_openOn reopens).trans holds.start, ?_, ?_, ?_⟩
    · rw [batches_concat, batchesFrom_opening, List.append_nil]
      exact file
    · intro number other found
      rw [batch_opening]
      rcases Nat.lt_or_ge number sharing.writers.length with within | beyond
      · rw [List.getElem?_append_left within] at found
        exact holds.opened number other found
      · -- only the new writer stands behind the others
        rw [List.getElem?_append_right beyond, List.getElem?_singleton] at found
        split at found
        · cases found
          rw [holds.unopened number beyond, linesOf_nil, ← fresh]
        · cases found
    · intro number beyond
      rw [List.length_append] at beyond
      rw [batch_opening]
      exact holds.unopened number (by omega)
  · cases stepped

/-- What a writer does when it is told something: its batch is held back or comes to
the file as a whole. -/
theorem Holds.perform {number : Nat} {call : Writer.Call} {writer : Writer}
    (fresh : first.wasRefused = false)
    (holds : Holds first start previous actions sharing)
    (few : (linesOf (batch number (actions ++ [.tell number call]))).length < Writer.capacity)
    (found : sharing.writers[number]? = some writer) :
    ∃ later, writer.perform sharing.disk call =
        ({ first with waiting := linesOf (batch number (actions ++ [.tell number call])) },
          later, .ok ()) ∧
      later.workingDirectory = start ∧
        later.root.get? first.place = some (.file
          (previous ++ linesOfBatches (batches (actions ++ [.tell number call])))) := by
  have written := holds.hasWritten fresh found
  obtain rfl := holds.opened number writer found
  cases call with
  | write entry =>
      rw [batch_write, linesOf_append, List.length_append] at few
      have held := @Writer.write_of_room
        { first with waiting := linesOf (batch number actions) } sharing.disk entry
        (by simpa using few)
      refine ⟨sharing.disk, ?_, holds.start, ?_⟩
      · rw [Writer.perform, held, batch_write]
        simp
      · rw [batches_concat, batchesFrom_write, List.append_nil]
        exact holds.file
  | flush =>
      obtain ⟨later, answer, flushed⟩ := Writer.flush_of_hasWritten written
      have kept := @Writer.workingDirectory_flush
        { first with waiting := linesOf (batch number actions) } sharing.disk
      rw [answer] at kept
      refine ⟨later, ?_, kept.trans holds.start, ?_⟩
      · rw [Writer.perform, answer, batch_flush]
        rfl
      · rw [batches_concat, batchesFrom_flush]
        simpa [linesOfBatches] using Writer.file_of_hasWritten flushed rfl

/-- An open writer can be told anything, and its answer is never a fault. -/
theorem Holds.tell {number : Nat} {call : Writer.Call} {writer : Writer}
    (fresh : first.wasRefused = false)
    (holds : Holds first start previous actions sharing)
    (few : (linesOf (batch number (actions ++ [.tell number call]))).length < Writer.capacity)
    (found : sharing.writers[number]? = some writer) :
    ∃ next, sharing.step path (.tell number call) = some next ∧
      Holds first start previous (actions ++ [.tell number call]) next := by
  obtain ⟨later, answer, startAfter, file⟩ := holds.perform fresh few found
  have stepped : sharing.step path (.tell number call) = some ⟨later,
      sharing.writers.set number
        { first with waiting := linesOf (batch number (actions ++ [.tell number call])) }⟩ := by
    rw [step, found]
    simp only [answer]
  refine ⟨_, stepped, startAfter, file, ?_, ?_⟩
  · intro other writer foundAfter
    by_cases told : number = other
    · subst told
      rw [List.getElem?_set_self'] at foundAfter
      obtain ⟨_, _, rfl⟩ := Option.map_eq_some_iff.mp foundAfter
      rfl
    · rw [List.getElem?_set_ne told] at foundAfter
      rw [batch_other told]
      exact holds.opened other writer foundAfter
  · intro other beyond
    rw [List.length_set] at beyond
    obtain ⟨within, _⟩ := List.getElem?_eq_some_iff.mp found
    rw [batch_other (by omega)]
    exact holds.unopened other beyond

/-- The induction is on the actions; `actions` are those before them. -/
theorem Holds.run {later : List Action} {last : Sharing} (fresh : first.waiting = [])
    (notRefused : first.wasRefused = false)
    (opens : Writer.openOn disk path = (opened, .ok first))
    (holds : Holds first disk.workingDirectory previous actions sharing)
    (few : ∀ before after, actions ++ later = before ++ after →
      ∀ number, (linesOf (batch number before)).length < Writer.capacity)
    (ran : sharing.run path later = some last) :
    Holds first disk.workingDirectory previous (actions ++ later) last := by
  induction later generalizing actions sharing with
  | nil =>
      cases ran
      rwa [List.append_nil]
  | cons action later induction =>
      rw [Sharing.run] at ran
      obtain ⟨middle, stepped, rest⟩ := Option.bind_eq_some_iff.mp ran
      rw [List.append_cons] at few ⊢
      refine induction ?_ few rest
      cases action with
      | opening => exact holds.opening fresh opens stepped
      | tell number call =>
          cases found : sharing.writers[number]? with
          | none => simp [step, found] at stepped
          | some writer =>
              obtain ⟨next, answered, holdsAfter⟩ :=
                @Holds.tell path _ _ _ _ _ _ call _ notRefused holds (few _ later rfl number) found
              rw [answered] at stepped
              cases stepped
              exact holdsAfter

end

/-- A writer that has just been opened, alone on its path. -/
def ofOpening (disk : Disk) (writer : Writer) : Sharing := ⟨disk, [writer]⟩

theorem holds_ofOpening {disk opened : Disk} {path : Files.Path} {first : Writer}
    (opens : Writer.openOn disk path = (opened, .ok first))
    (regular : ∃ content, opened.root.get? first.place = some (.file content)) :
    Holds first disk.workingDirectory (disk.contentAt first.place) []
      (ofOpening opened first) := by
  obtain ⟨written, nothingWaits⟩ := Writer.hasWritten_of_openOn opens regular
  refine ⟨Writer.workingDirectory_of_openOn opens, ?_, ?_, fun number _ => rfl⟩
  · simpa [batches, batchesFrom, linesOfBatches, ofOpening] using
      Writer.file_of_hasWritten written nothingWaits
  · intro number writer found
    rw [ofOpening, List.getElem?_singleton] at found
    split at found
    · cases found
      change first = { first with waiting := [] }
      rw [← nothingWaits]
    · cases found

/-- However many writers are opened on a path and however their calls are mixed: as
long as each has less than its buffer to write between two flushes, the file is the
content at the first opening with the flushed batches behind it, in the order of the
flushes.  Its new lines are the flushed entries, each one whole and once; the batches
of each writer and what it has not flushed are all that it has written, in order; and
every open writer can go on. -/
theorem file_of_shared_run {disk opened : Disk} {path : Files.Path} {first : Writer}
    {actions : List Action} {last : Sharing}
    (opens : Writer.openOn disk path = (opened, .ok first))
    (regular : ∃ content, opened.root.get? first.place = some (.file content))
    (few : ∀ earlier later, actions = earlier ++ later →
      ∀ number, (linesOf (batch number earlier)).length < 8192)
    (ran : (ofOpening opened first).run path actions = some last) :
    last.disk.root.get? first.place =
        some (.file (disk.contentAt first.place ++
          (batches actions).flatMap fun (_, entries) => linesOf entries)) ∧
      ((batches actions).flatMap fun (_, entries) => linesOf entries).splitOn 0x0A =
        ((batches actions).flatMap fun (_, entries) => entries).map Entry.lineBytes ++ [[]] ∧
      (∀ number,
        (((batches actions).filter fun flushed => flushed.1 = number).flatMap
            fun (_, entries) => entries) ++ batch number actions =
          Writer.written (callsTo number actions)) ∧
      ∀ number call, number < last.writers.length →
        (last.step path (.tell number call)).isSome := by
  obtain ⟨⟨_, notRefused⟩, nothingWaits⟩ := Writer.hasWritten_of_openOn opens regular
  have holds : Holds first disk.workingDirectory (disk.contentAt first.place) actions last :=
    (holds_ofOpening opens regular).run nothingWaits notRefused opens few ran
  refine ⟨holds.file, ?_, fun number => ?_, ?_⟩
  · rw [← linesOfBatches, linesOfBatches_eq, splitOn_linesOf]
  · exact @batches_of_writer number [] actions
  · intro number call within
    have found := List.getElem?_eq_getElem within
    obtain ⟨next, later, answer, _⟩ :=
      @Writer.perform_of_hasWritten _ _ _ call (holds.hasWritten notRefused found)
    simp [step, found, answer]

theorem file_of_shared_run_two_writers :
    let disk : Disk := ⟨.directory [([0x61], .file [0x78, 0x0A])], []⟩
    let first : Writer := { path := ⟨[0x61]⟩, place := [[0x61]] }
    let started := Usage.plainEntry .processStarted
    let stopped := Usage.plainEntry .processStopped
    let actions := [.tell 0 (.write started), .opening, .tell 1 (.write stopped),
      .tell 1 .flush, .tell 0 (.write stopped), .tell 0 .flush, .tell 1 (.write started)]
    Writer.openOn disk ⟨[0x61]⟩ = (disk, .ok first) ∧
      (∀ earlier later, actions = earlier ++ later →
        ∀ number, (linesOf (batch number earlier)).length < 8192) ∧
      ∃ last, (ofOpening disk first).run ⟨[0x61]⟩ actions = some last ∧
        last.disk.root.get? [[0x61]] =
          some (.file ([0x78, 0x0A] ++ linesOf [stopped, started, stopped])) := by
  intro disk first started stopped actions
  have opens : Writer.openOn disk ⟨[0x61]⟩ = (disk, .ok first) := rfl
  have few : ∀ earlier later, actions = earlier ++ later →
      ∀ number, (linesOf (batch number earlier)).length < 8192 := by
    intro earlier later cut number
    have bound := @length_batch_le number earlier later
    rw [← cut] at bound
    refine Nat.lt_of_le_of_lt bound ?_
    match number with
    | 0 => decide +kernel
    | 1 => decide +kernel
    | other + 2 =>
        have noCalls : callsTo (other + 2) actions = [] := rfl
        rw [noCalls]
        decide
  have succeeds : ((ofOpening disk first).run ⟨[0x61]⟩ actions).isSome = true := by
    decide +kernel
  obtain ⟨last, ran⟩ := Option.isSome_iff_exists.mp succeeds
  have flushed : batches actions = [(1, [stopped]), (0, [started, stopped])] := rfl
  obtain ⟨file, _⟩ := file_of_shared_run opens ⟨[0x78, 0x0A], rfl⟩ few ran
  have previous : disk.contentAt first.place = [0x78, 0x0A] := rfl
  rw [previous, ← linesOfBatches, linesOfBatches_eq, flushed] at file
  exact ⟨opens, few, last, ran, file⟩

end Sharing

end LinkVetting.Audit
