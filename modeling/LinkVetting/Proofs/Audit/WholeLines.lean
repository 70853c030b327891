import LinkVetting.Proofs.Audit.EntryLines
import LinkVetting.Proofs.Audit.RegularFile

/-!
# Whole lines

A writer on a regular file never parts a line: behind the content from before the file
holds whole lines of entries, and so do the bytes that the writer holds back.  A write
may move held lines to the file, and a flush moves all of them.
-/

namespace LinkVetting.Audit

open Files (Disk)

/-- Behind some previous content the file of a writer holds the lines of some entries, and
the writer holds back the lines of others. -/
structure Writer.HoldsLines (previous : List UInt8) (onFile held : List Entry) (writer : Writer)
    (disk : Disk) : Prop where
  file : disk.root.get? writer.place = some (.file (previous ++ linesOf onFile))
  waiting : writer.waiting = linesOf held
  notRefused : writer.wasRefused = false

namespace Writer

section

variable {previous : List UInt8} {onFile held : List Entry} {writer : Writer} {disk : Disk}

theorem HoldsLines.send {entries : List Entry} (holds : writer.HoldsLines previous onFile [] disk) :
    ∃ later, writer.send disk (linesOf entries) = (writer, later, .ok ()) ∧
      writer.HoldsLines previous (onFile ++ entries) [] later := by
  obtain ⟨file, waiting, notRefused⟩ := holds
  refine ⟨_, by rw [Writer.send, file], ?_⟩
  exact
    { file := by
        rw [Disk.put, Files.Node.get?_put_self file, linesOf_append, List.append_assoc]
      waiting := waiting
      notRefused := notRefused }

theorem HoldsLines.drain (holds : writer.HoldsLines previous onFile held disk) :
    ∃ later, writer.drain disk = ({ writer with waiting := [] }, later, .ok ()) ∧
      { writer with waiting := [] : Writer }.HoldsLines previous (onFile ++ held) [] later := by
  obtain ⟨file, waiting, notRefused⟩ := holds
  rw [Writer.drain]
  by_cases empty : writer.waiting = []
  · have unchanged : { writer with waiting := [] : Writer } = writer := by rw [← empty]
    have nothing : linesOf (onFile ++ held) = linesOf onFile := by
      rw [linesOf_append, ← waiting, empty, List.append_nil]
    rw [unchanged]
    exact ⟨disk, by simp [empty], by rw [nothing]; exact file, empty, notRefused⟩
  · have someWaits : writer.waiting.isEmpty = false := by simpa using empty
    rw [someWaits, waiting]
    refine ⟨disk.put writer.place (.file (previous ++ linesOf onFile ++ linesOf held)), ?_, ?_⟩
    · simp only [Writer.send, file, Bool.false_eq_true, if_false]
    · exact
        { file := by
            rw [linesOf_append, ← List.append_assoc]
            exact Files.Node.get?_put_self file
          waiting := rfl
          notRefused := notRefused }

theorem HoldsLines.write {entry : Entry} (holds : writer.HoldsLines previous onFile held disk) :
    ∃ next later onFileThen heldThen, writer.write disk entry = (next, later, .ok ()) ∧
      next.place = writer.place ∧ next.HoldsLines previous onFileThen heldThen later ∧
        onFile <+: onFileThen ∧ onFileThen ++ heldThen = onFile ++ held ++ [entry] := by
  rw [Writer.write, accept]
  by_cases fits : (writer.waiting.length + entry.bytes.length ≤ capacity &&
      entry.bytes.length < capacity) = true
  · rw [if_pos fits]
    obtain ⟨file, waiting, notRefused⟩ := holds
    refine ⟨_, _, onFile, held ++ [entry], rfl, rfl, ⟨file, ?_, notRefused⟩, List.prefix_rfl, ?_⟩
    · simp [waiting]
    · rw [List.append_assoc]
  · rw [if_neg fits]
    obtain ⟨drained, answer, drainedHolds⟩ := holds.drain
    simp only [answer]
    have grows : onFile <+: onFile ++ held := List.prefix_append onFile held
    by_cases long : entry.bytes.length ≥ capacity
    · rw [if_pos long]
      obtain ⟨later, sent, laterHolds⟩ := @HoldsLines.send _ _ _ _ [entry] drainedHolds
      rw [linesOf_cons, linesOf_nil, List.append_nil] at sent
      refine ⟨{ writer with waiting := [] }, later, onFile ++ held ++ [entry], [], ?_, rfl,
        laterHolds, grows.trans (List.prefix_append _ _), List.append_nil _⟩
      rw [sent]
      rfl
    · rw [if_neg long]
      obtain ⟨file, _, notRefused⟩ := drainedHolds
      refine ⟨_, _, onFile ++ held, [entry], rfl, rfl, ⟨file, ?_, notRefused⟩, grows, rfl⟩
      rw [linesOf_cons, linesOf_nil, List.append_nil]

theorem HoldsLines.flush (holds : writer.HoldsLines previous onFile held disk) :
    ∃ later, writer.flush disk = ({ writer with waiting := [] }, later, .ok ()) ∧
      { writer with waiting := [] : Writer }.HoldsLines previous (onFile ++ held) [] later := by
  obtain ⟨later, drained, laterHolds⟩ := holds.drain
  refine ⟨later, ?_, laterHolds⟩
  have synced : { writer with waiting := [] : Writer }.sync later =
      ({ writer with waiting := [] }, .ok ()) := by
    rw [sync, laterHolds.notRefused, if_neg Bool.false_ne_true, laterHolds.file]
  rw [Writer.flush, drained]
  simp only [synced]
  rfl

/-- What is held back is lost with the writer, and what is on the file stays there. -/
theorem HoldsLines.giveUp (holds : writer.HoldsLines previous onFile held disk) :
    { writer with waiting := [] : Writer }.HoldsLines previous onFile [] disk :=
  ⟨holds.file, rfl, holds.notRefused⟩

end

theorem holdsLines_of_openOn {disk opened : Disk} {path : Files.Path} {writer : Writer}
    (answer : openOn disk path = (opened, .ok writer))
    (regular : ∃ content, opened.root.get? writer.place = some (.file content)) :
    writer.HoldsLines (disk.contentAt writer.place) [] [] opened := by
  obtain ⟨⟨⟨content, file, together⟩, notRefused⟩, nothingWaits⟩ :=
    hasWritten_of_openOn answer regular
  rw [nothingWaits, List.append_nil] at together
  refine ⟨?_, nothingWaits, notRefused⟩
  rw [linesOf_nil, List.append_nil, ← together]
  exact file

end Writer

end LinkVetting.Audit
