import LinkVetting.Proofs.Audit.EntryLines
import LinkVetting.Proofs.Audit.Interleaving

/-!
# Calls on a writer

A writer on a regular file is told to write entries and to flush, in any order.
The file and the bytes that are held back make up the lines of all entries
written so far.  While few bytes have been written since the last flush all of
them are held back, so the file stays as that flush has left it.
-/

namespace LinkVetting.Audit

open Files (Disk)

namespace Writer

/-- What a writer can be told. -/
inductive Call where
  | write (entry : Entry)
  | flush

/-- The entry that a call writes. -/
def Call.entry? : Call → Option Entry
  | .write entry => some entry
  | .flush => none

/-- The entries that calls write, in order. -/
def written (calls : List Call) : List Entry := calls.filterMap Call.entry?

def perform (writer : Writer) (disk : Disk) : Call → Writer × Disk × Except TrailFault Unit
  | .write entry => writer.write disk entry
  | .flush => writer.flush disk

/-- A writer and its disk after some calls, with the answers to the calls. -/
structure Used where
  writer : Writer
  disk : Disk
  answers : List (Except TrailFault Unit)

/-- Calls one after the other. -/
def performAll (writer : Writer) (disk : Disk) : List Call → Used
  | [] => ⟨writer, disk, []⟩
  | call :: later =>
      let (writer, disk, answer) := writer.perform disk call
      let used := performAll writer disk later
      { used with answers := answer :: used.answers }

section

variable {earlier since : List Call} {call : Call}

theorem written_append : written (earlier ++ since) = written earlier ++ written since :=
  List.filterMap_append

theorem written_cons : written (call :: since) = call.entry?.toList ++ written since := by
  cases call with
  | write entry => rfl
  | flush => rfl

end

section

variable {writer : Writer} {disk : Disk} {total : List UInt8}
variable {calls earlier since : List Call} {call : Call} {entry : Entry}
variable {entries : List Entry}

theorem performAll_append :
    writer.performAll disk (earlier ++ since) =
      let used := writer.performAll disk earlier
      let last := used.writer.performAll used.disk since
      { last with answers := used.answers ++ last.answers } := by
  induction earlier generalizing writer disk with
  | nil => rfl
  | cons call earlier induction =>
      simp only [List.cons_append, performAll, induction]

/-! ## Calls on a regular file -/

/-- Nothing that has been written is missing on the file where nothing is held
back. -/
theorem file_of_hasWritten (written : writer.HasWritten disk total)
    (nothingWaits : writer.waiting = []) :
    disk.root.get? writer.place = some (.file total) := by
  obtain ⟨⟨content, file, together⟩, _⟩ := written
  rw [nothingWaits, List.append_nil] at together
  rwa [← together]

theorem perform_of_hasWritten (written : writer.HasWritten disk total) :
    ∃ next later, writer.perform disk call = (next, later, .ok ()) ∧
      next.place = writer.place ∧
        next.HasWritten later (total ++ linesOf call.entry?.toList) ∧
          (call = .flush → next.waiting = []) := by
  cases call with
  | write entry =>
      obtain ⟨next, later, answer, samePlace, nextWritten⟩ :=
        @write_of_hasWritten writer disk total entry written
      refine ⟨next, later, answer, samePlace, ?_, fun flushes => by cases flushes⟩
      simpa [Call.entry?] using nextWritten
  | flush =>
      obtain ⟨later, answer, nextWritten⟩ := flush_of_hasWritten written
      refine ⟨_, later, answer, rfl, ?_, fun _ => rfl⟩
      simpa [Call.entry?] using nextWritten

/-- All calls succeed, and what they write comes behind what has been written. -/
theorem performAll_of_hasWritten (earlier : writer.HasWritten disk total) :
    let used := writer.performAll disk calls
    used.answers = (calls.map fun _ => .ok ()) ∧ used.writer.place = writer.place ∧
      used.writer.HasWritten used.disk (total ++ linesOf (written calls)) := by
  induction calls generalizing writer disk total with
  | nil => simpa [performAll, written] using earlier
  | cons call calls induction =>
      obtain ⟨next, later, answer, samePlace, nextWritten, _⟩ :=
        @perform_of_hasWritten writer disk total call earlier
      obtain ⟨succeed, laterPlace, laterWritten⟩ := induction nextWritten
      simp only [performAll, answer]
      refine ⟨?_, laterPlace.trans samePlace, ?_⟩
      · rw [List.map_cons, succeed]
      · rwa [written_cons, linesOf_append, ← List.append_assoc]

theorem waiting_of_flushed (before : writer.HasWritten disk total)
    (flushed : calls.getLast? = some .flush) :
    (writer.performAll disk calls).writer.waiting = [] := by
  obtain ⟨others, rfl⟩ := List.getLast?_eq_some_iff.mp flushed
  obtain ⟨_, _, middleWritten⟩ := @performAll_of_hasWritten writer disk total others before
  obtain ⟨next, later, answer, _, _, empty⟩ := @perform_of_hasWritten _ _ _ .flush middleWritten
  simp only [performAll_append, performAll, answer]
  exact empty rfl

/-! ## Calls that are held back -/

/-- An entry is held back, whatever the disk is like, if few bytes wait with it. -/
theorem write_of_room (room : writer.waiting.length + entry.bytes.length < capacity) :
    writer.write disk entry =
      ({ writer with waiting := writer.waiting ++ entry.bytes }, disk, .ok ()) := by
  have fits : (writer.waiting.length + entry.bytes.length ≤ capacity &&
      entry.bytes.length < capacity) = true := by
    simp only [Bool.and_eq_true, decide_eq_true_eq]
    omega
  rw [write, accept, if_pos fits]
  rfl

theorem performAll_of_room
    (room : writer.waiting.length + (linesOf entries).length < capacity) :
    ∃ answers, writer.performAll disk (entries.map .write) =
      ⟨{ writer with waiting := writer.waiting ++ linesOf entries }, disk, answers⟩ := by
  induction entries generalizing writer with
  | nil => exact ⟨[], by simp [performAll]⟩
  | cons entry entries induction =>
      rw [linesOf_cons, List.length_append] at room
      have held := @write_of_room writer disk entry (by omega)
      obtain ⟨answers, rest⟩ :=
        @induction { writer with waiting := writer.waiting ++ entry.bytes } (by
          rw [List.length_append]
          omega)
      exact ⟨.ok () :: answers, by simp [performAll, perform, held, rest]⟩

end

/-- Whatever is on a file before and whatever a writer on it is told, all calls
succeed, and the file with what is held back is the earlier content with the line
of each entry written so far, in order.  A flush leaves nothing held back.  While
few bytes have been written since the last flush, or since the opening, the disk
is as it was then: giving the writer up loses the entries written since, and
leaves whole lines of all others. -/
theorem file_of_calls {disk opened : Disk} {path : Files.Path} {writer : Writer}
    (opens : openOn disk path = (opened, .ok writer))
    (regular : ∃ content, opened.root.get? writer.place = some (.file content))
    (calls : List Call) :
    let previous := disk.contentAt writer.place
    let used := writer.performAll opened calls
    used.answers = (calls.map fun _ => .ok ()) ∧
      (∃ content, used.disk.root.get? writer.place = some (.file content) ∧
        content ++ used.writer.waiting = previous ++ linesOf (written calls)) ∧
      (calls.getLast? = some .flush → used.writer.waiting = []) ∧
      ∀ (earlier : List Call) (since : List Entry), calls = earlier ++ since.map .write →
        earlier = [] ∨ earlier.getLast? = some .flush →
          (linesOf since).length < 8192 →
            used.disk = (writer.performAll opened earlier).disk ∧
              used.disk.root.get? writer.place =
                some (.file (previous ++ linesOf (written earlier))) ∧
              (linesOf (written earlier)).splitOn 0x0A =
                (written earlier).map Entry.lineBytes ++ [[]] ∧
              used.writer.waiting = linesOf since := by
  intro previous used
  obtain ⟨atFirst, nothingWaits⟩ := hasWritten_of_openOn opens regular
  obtain ⟨succeed, samePlace, ⟨content, file, together⟩, _⟩ :=
    @performAll_of_hasWritten writer opened previous calls atFirst
  rw [samePlace] at file
  refine ⟨succeed, ⟨content, file, together⟩, waiting_of_flushed atFirst, ?_⟩
  rintro earlier since rfl begins few
  obtain ⟨_, earlierPlace, earlierWritten⟩ :=
    @performAll_of_hasWritten writer opened previous earlier atFirst
  have allOnFile : (writer.performAll opened earlier).writer.waiting = [] := by
    rcases begins with rfl | flushed
    · exact nothingWaits
    · exact waiting_of_flushed atFirst flushed
  obtain ⟨answers, heldBack⟩ := @performAll_of_room (writer.performAll opened earlier).writer
    (writer.performAll opened earlier).disk since (by simpa [allOnFile, capacity] using few)
  have onFile := file_of_hasWritten earlierWritten allOnFile
  rw [earlierPlace] at onFile
  simp only [used, performAll_append, heldBack]
  refine ⟨trivial, onFile, splitOn_linesOf, ?_⟩
  rw [allOnFile, List.nil_append]

theorem file_of_calls_held_back :
    let disk : Disk := ⟨.directory [([0x61], .file [0x78, 0x0A])], []⟩
    let writer : Writer := { path := ⟨[0x61]⟩, place := [[0x61]] }
    let first := Usage.plainEntry .processStarted
    let last := Usage.plainEntry .processStopped
    let calls := [.write first, .flush, .write last]
    openOn disk ⟨[0x61]⟩ = (disk, .ok writer) ∧
      (linesOf [last]).length < 8192 ∧
      (writer.performAll disk calls).disk.root.get? [[0x61]] =
        some (.file ([0x78, 0x0A] ++ linesOf [first])) ∧
      (writer.performAll disk calls).writer.waiting = linesOf [last] := by
  intro disk writer first last calls
  have opens : openOn disk ⟨[0x61]⟩ = (disk, .ok writer) := rfl
  have few : (linesOf [last]).length < 8192 := by decide +kernel
  obtain ⟨_, _, _, heldBack⟩ := file_of_calls opens ⟨[0x78, 0x0A], rfl⟩ calls
  obtain ⟨_, file, _, waiting⟩ :=
    heldBack [.write first, .flush] [last] rfl (Or.inr rfl) few
  exact ⟨opens, few, file, waiting⟩

end Writer

end LinkVetting.Audit
