import LinkVetting.Proofs.Audit.Recording
import LinkVetting.Proofs.Files.Opening

/-!
# Writers on a regular file

On a regular file every write and every flush succeeds.  The content of the file
followed by what the writer holds back is the content before the opening
followed by the entries written so far; a flush moves what is held back to the
file.
-/

namespace LinkVetting.Audit

open Files (Disk)

/-- The file of a writer and the bytes it holds back make up what has been
written in total. -/
structure Writer.HasWritten (writer : Writer) (disk : Disk) (total : List UInt8) :
    Prop where
  file : ∃ content, disk.root.get? writer.place = some (.file content) ∧
    content ++ writer.waiting = total
  notRefused : writer.wasRefused = false

namespace Writer

section

variable {writer : Writer} {disk : Disk} {total : List UInt8}

theorem send_of_hasWritten {bytes : List UInt8} (written : writer.HasWritten disk total)
    (nothingWaits : writer.waiting = []) :
    ∃ later, writer.send disk bytes = (writer, later, .ok ()) ∧
      writer.HasWritten later (total ++ bytes) := by
  obtain ⟨⟨content, file, together⟩, notRefused⟩ := written
  rw [nothingWaits, List.append_nil] at together
  subst together
  refine ⟨disk.put writer.place (.file (content ++ bytes)), by rw [send, file], ?_⟩
  exact
    { file := ⟨content ++ bytes, Files.Node.get?_put_self file, by simp [nothingWaits]⟩
      notRefused := notRefused }

theorem drain_of_hasWritten (written : writer.HasWritten disk total) :
    ∃ later, writer.drain disk = ({ writer with waiting := [] }, later, .ok ()) ∧
      { writer with waiting := [] : Writer }.HasWritten later total := by
  obtain ⟨⟨content, file, together⟩, notRefused⟩ := written
  rw [drain]
  by_cases empty : writer.waiting = []
  · have unchanged : { writer with waiting := [] : Writer } = writer := by
      rw [← empty]
    rw [unchanged]
    exact ⟨disk, by simp [empty], ⟨content, file, together⟩, notRefused⟩
  · have some_waits : writer.waiting.isEmpty = false := by simpa using empty
    rw [some_waits]
    refine ⟨disk.put writer.place (.file (content ++ writer.waiting)), ?_, ?_⟩
    · simp only [send, file, Bool.false_eq_true, if_false]
    · exact
        { file := ⟨content ++ writer.waiting, Files.Node.get?_put_self file, by
            simp [together]⟩
          notRefused := notRefused }

theorem accept_of_hasWritten {bytes : List UInt8}
    (written : writer.HasWritten disk total) :
    ∃ next later, writer.accept disk bytes = (next, later, .ok ()) ∧
      next.place = writer.place ∧ next.HasWritten later (total ++ bytes) := by
  rw [accept]
  by_cases fits : (writer.waiting.length + bytes.length ≤ capacity &&
      bytes.length < capacity) = true
  · rw [if_pos fits]
    refine ⟨_, _, rfl, rfl, ?_⟩
    obtain ⟨⟨content, file, rfl⟩, notRefused⟩ := written
    exact ⟨⟨content, file, by simp⟩, notRefused⟩
  · rw [if_neg fits]
    obtain ⟨drained, answer, drainedWritten⟩ := drain_of_hasWritten written
    simp only [answer]
    by_cases long : bytes.length ≥ capacity
    · rw [if_pos long]
      obtain ⟨later, sent, laterWritten⟩ := send_of_hasWritten drainedWritten rfl
      exact ⟨_, later, sent, rfl, laterWritten⟩
    · rw [if_neg long]
      refine ⟨_, _, rfl, rfl, ?_⟩
      obtain ⟨⟨content, file, together⟩, notRefused⟩ := drainedWritten
      rw [List.append_nil] at together
      subst together
      exact ⟨⟨content, file, rfl⟩, notRefused⟩

theorem write_of_hasWritten {entry : Entry} (written : writer.HasWritten disk total) :
    ∃ next later, writer.write disk entry = (next, later, .ok ()) ∧
      next.place = writer.place ∧ next.HasWritten later (total ++ entry.bytes) := by
  obtain ⟨next, later, answer, samePlace, nextWritten⟩ :=
    @accept_of_hasWritten writer disk total entry.bytes written
  exact ⟨next, later, by rw [write, answer]; rfl, samePlace, nextWritten⟩

theorem flush_of_hasWritten (written : writer.HasWritten disk total) :
    ∃ later, writer.flush disk = ({ writer with waiting := [] }, later, .ok ()) ∧
      { writer with waiting := [] : Writer }.HasWritten later total := by
  obtain ⟨later, drained, laterWritten⟩ := drain_of_hasWritten written
  refine ⟨later, ?_, laterWritten⟩
  obtain ⟨⟨content, file, _⟩, notRefused⟩ := laterWritten
  have synced : { writer with waiting := [] : Writer }.sync later =
      ({ writer with waiting := [] }, .ok ()) := by
    rw [sync, notRefused, if_neg Bool.false_ne_true, file]
  rw [flush, drained]
  simp only [synced]
  rfl

end

section

variable {disk opened : Disk} {path : Files.Path} {writer : Writer}

theorem openAppend_of_openOn (opens : openOn disk path = (opened, .ok writer)) :
    ∃ middle, disk.SameFiles middle ∧ middle.workingDirectory = disk.workingDirectory ∧
      middle.openAppend path = .ok (opened, writer.place) ∧
        writer = { path, place := writer.place } := by
  rw [openOn] at opens
  split at opens
  · cases opens
  · rename_i middle made
    have same := Disk.sameFiles_of_makeDirectories made
    have start := Disk.workingDirectory_of_makeDirectories made
    split at opens
    · rename_i later place answered
      cases opens
      exact ⟨middle, same, start, answered, rfl⟩
    · cases opens

theorem workingDirectory_of_openOn (opens : openOn disk path = (opened, .ok writer)) :
    opened.workingDirectory = disk.workingDirectory := by
  obtain ⟨middle, _, start, answered, _⟩ := openAppend_of_openOn opens
  exact (Disk.workingDirectory_of_openAppend answered).trans start

theorem hasWritten_of_openOn (opens : openOn disk path = (opened, .ok writer))
    (regular : ∃ content, opened.root.get? writer.place = some (.file content)) :
    writer.HasWritten opened (disk.contentAt writer.place) ∧ writer.waiting = [] := by
  obtain ⟨content, file⟩ := regular
  obtain ⟨middle, same, _, answered, fresh⟩ := openAppend_of_openOn opens
  have previous := Disk.content_of_openAppend same answered file
  rw [fresh]
  exact ⟨⟨⟨content, file, by simp [previous]⟩, rfl⟩, rfl⟩

end

end Writer

namespace Recorder

/-- A recorder on a regular file: what has been written, and nothing is held back
unless the recorder knows so. -/
structure HasRecorded (place : List Files.Name) (total : List UInt8)
    (recorder : Recorder (Writer × Disk)) : Prop where
  place : recorder.state.1.place = place
  written : recorder.state.1.HasWritten recorder.state.2 total
  clean : recorder.isDirty = false → recorder.state.1.waiting = []

section

variable {place : List Files.Name} {total : List UInt8} {recorder : Recorder (Writer × Disk)}

theorem HasRecorded.record {entry : Entry} (recorded : HasRecorded place total recorder) :
    HasRecorded place (total ++ entry.bytes) (recorder.record Writer.medium entry).1 := by
  obtain ⟨next, later, answer, samePlace, nextWritten⟩ :=
    @Writer.write_of_hasWritten _ _ _ entry recorded.written
  have answered : Writer.medium.write recorder.state entry = ((next, later), .ok ()) := by
    simp [Writer.medium, answer]
  rw [record_of_ok answered]
  refine ⟨samePlace.trans recorded.place, nextWritten, ?_⟩
  rintro ⟨⟩

/-- The end leaves nothing held back: all that has been written is on the file. -/
theorem HasRecorded.finish (recorded : HasRecorded place total recorder) :
    (recorder.finish Writer.medium).1.state.2.root.get? place = some (.file total) := by
  obtain ⟨rfl, written, clean⟩ := recorded
  cases dirty : recorder.isDirty with
  | true =>
      obtain ⟨later, answer, ⟨content, file, together⟩, _⟩ :=
        Writer.flush_of_hasWritten written
      have answered : Writer.medium.flush recorder.state =
          (({ recorder.state.1 with waiting := [] }, later), .ok ()) := by
        simp [Writer.medium, answer]
      rw [List.append_nil] at together
      rw [finish_of_ok dirty answered, ← together]
      exact file
  | false =>
      obtain ⟨⟨content, file, together⟩, _⟩ := written
      rw [clean dirty, List.append_nil] at together
      rw [finish_of_clean dirty, ← together]
      exact file

theorem HasRecorded.run {entries : List Entry} (recorded : HasRecorded place total recorder) :
    (recorder.run Writer.medium (entries.map .entry ++ [.ended])).1.state.2.root.get? place =
      some (.file (total ++ entries.flatMap Entry.bytes)) := by
  induction entries generalizing recorder total with
  | nil =>
      rw [List.flatMap_nil, List.append_nil]
      exact recorded.finish
  | cons entry later induction =>
      rw [List.map_cons, List.cons_append, fst_run_entry, List.flatMap_cons,
        ← List.append_assoc]
      exact induction recorded.record

end

end Recorder

end LinkVetting.Audit
