import LinkVetting.Proofs.Audit.RegularFile
import LinkVetting.Proofs.Files.Creation

/-!
# What a trail leaves alone

Opening a trail at an ordinary path touches the disk only at the place of the path,
and not at all if it fails.  Whatever a recorder does on it then touches only the file
of its writer.
-/

namespace LinkVetting.Audit

open Files (Disk)

namespace Writer

/-! ## Opening -/

section

variable {disk opened : Disk} {path : Files.Path} {writer : Writer} {fault : TrailFault}

private theorem touchesOnly_above (ordinary : path.IsOrdinary) {fuel : Nat}
    {answer : Except Files.Fault Unit}
    (made : disk.makeDirectories
      (match path.parent? with | some parent => parent | none => ⟨[]⟩) fuel = (opened, answer)) :
    Disk.TouchesOnly (some (disk.placeOf path)) disk opened := by
  have first : opened = (disk.makeDirectories
      (match path.parent? with | some parent => parent | none => ⟨[]⟩) fuel).1 := by rw [made]
  rw [first]
  by_cases empty : path.bytes = []
  · obtain rfl : path = ⟨[]⟩ := by rw [← empty]
    have unmade : (disk.makeDirectories ⟨[]⟩ fuel).1 = disk := Disk.makeDirectories_empty rfl
    change Disk.TouchesOnly _ disk (disk.makeDirectories ⟨[]⟩ fuel).1
    rw [unmade]
    exact .refl
  · obtain ⟨parent, last, above, ordinaryParent, _, names⟩ := ordinary.exists_parent empty
    rw [above]
    exact Disk.touchesOnly_makeDirectories ordinaryParent (Disk.above_of_names names)

/-- Opening a trail touches the disk only at its place, also if it fails, and a writer that
it answers is at this place. -/
theorem touchesOnly_openOn (ordinary : path.IsOrdinary) :
    Disk.TouchesOnly (some (disk.placeOf path)) disk (openOn disk path).1 ∧
      ∀ writer, (openOn disk path).2 = .ok writer → writer.place = disk.placeOf path := by
  rw [openOn]
  split
  · rename_i middle cause made
    have only := touchesOnly_above ordinary made
    exact ⟨only, fun writer answer => by cases answer⟩
  · rename_i middle made
    have only := touchesOnly_above ordinary made
    have sameStart := Disk.workingDirectory_of_makeDirectories made
    split
    · rename_i later place answer
      obtain ⟨there, touched⟩ := Disk.touchesOnly_openAppend ordinary answer
      rw [Disk.placeOf_congr sameStart] at there
      subst there
      refine ⟨only.trans touched, ?_⟩
      intro writer opens
      cases opens
      rfl
    · exact ⟨only, fun writer answer => by cases answer⟩

/-- A trail at a path that a disk can hold leaves the disk as it is if it cannot be opened. -/
theorem disk_of_openOn_error (ordinary : path.IsOrdinary) (holdable : path.IsHoldable)
    (answer : openOn disk path = (opened, .error fault)) : opened = disk := by
  by_cases empty : path.bytes = []
  · obtain rfl : path = ⟨[]⟩ := by rw [← empty]
    cases answer
    rfl
  · obtain ⟨parent, last, above, ordinaryParent, first, names⟩ := ordinary.exists_parent empty
    have only := @Disk.touchesOnly_makeDirectories disk parent _ (parent.bytes.length + 1)
      ordinaryParent List.prefix_rfl
    have sameStart := @Disk.workingDirectory_makeDirectories disk parent (parent.bytes.length + 1)
    have unmade := @Disk.makeDirectories_empty disk parent (parent.bytes.length + 1)
    have makes := @Disk.makesAt_makeDirectories disk parent (parent.bytes.length + 1)
      ordinaryParent (holdable.parent first names)
    rw [openOn, above] at answer
    dsimp only at answer
    cases made : disk.makeDirectories parent (parent.bytes.length + 1) with
    | mk middle done =>
        rw [made] at only sameStart unmade makes answer
        dsimp only at sameStart
        have notMade : middle = disk → opened = disk := by
          rintro rfl
          cases done with
          | error cause =>
              cases answer
              rfl
          | ok done =>
              dsimp only at answer
              split at answer
              · cases answer
              · cases answer
                rfl
        by_cases emptyParent : parent.bytes = []
        · exact notMade (unmade emptyParent)
        · cases makes emptyParent with
          | fails cause => exact notMade rfl
          | present there => exact notMade rfl
          | made absent inside =>
              -- once directories have been made the file can be made as well
              have absentFile : disk.root.get? (disk.placeOf path) = none := by
                rw [Disk.placeOf_eq names]
                exact Disk.get?_append_of_none absent
              have absentStill := (Disk.get?_of_touchesOnly names only).trans absentFile
              rw [← Disk.placeOf_congr sameStart] at inside absentStill
              have opens := Disk.openAppend_of_hasDirectory ordinary holdable empty names inside
              rw [absentStill] at opens
              simp only [opens] at answer
              cases answer

end

/-! ## Writing -/

/-- A call leaves a writer at its place and touches only the file there. -/
def StaysAt {ε : Type} (writer : Writer) (disk : Disk)
    (answer : Writer × Disk × Except ε Unit) : Prop :=
  answer.1.place = writer.place ∧ Disk.TouchesOnly (some writer.place) disk answer.2.1

section

variable {writer : Writer} {disk : Disk} {bytes : List UInt8}

theorem staysAt_send : writer.StaysAt disk (writer.send disk bytes) := by
  rw [send]
  split
  · rename_i content file
    refine ⟨rfl, Disk.touchesOnly_put_file (Or.inr file) ?_⟩
    rw [Disk.contentAt_of_file file]
    exact List.prefix_append content bytes
  · split
    · exact ⟨rfl, .refl⟩
    · exact ⟨rfl, .refl⟩
  · exact ⟨rfl, .refl⟩

theorem staysAt_drain : writer.StaysAt disk (writer.drain disk) := by
  rw [drain]
  split
  · exact ⟨rfl, .refl⟩
  · have sent := @staysAt_send writer disk writer.waiting
    split
    · rename_i answer
      rwa [answer] at sent
    · exact sent

theorem staysAt_accept : writer.StaysAt disk (writer.accept disk bytes) := by
  rw [accept]
  split
  · exact ⟨rfl, .refl⟩
  · have drained := @staysAt_drain writer disk
    split
    · rename_i next later answer
      rw [answer] at drained
      split
      · have sent := @staysAt_send next later bytes
        obtain ⟨samePlace, only⟩ := drained
        dsimp only at samePlace only
        rw [StaysAt, samePlace] at sent
        exact ⟨sent.1, only.trans sent.2⟩
      · exact drained
    · exact drained

theorem staysAt_write {entry : Entry} : writer.StaysAt disk (writer.write disk entry) := by
  have accepted := @staysAt_accept writer disk entry.bytes
  rw [write]
  cases answer : writer.accept disk entry.bytes with
  | mk next rest =>
      rw [answer] at accepted
      exact accepted

theorem place_sync : (writer.sync disk).1.place = writer.place := by
  rw [sync]
  split
  · rfl
  · split
    · rfl
    · rfl

theorem staysAt_flush : writer.StaysAt disk (writer.flush disk) := by
  have drained := @staysAt_drain writer disk
  rw [flush]
  split
  · rename_i answer
    rw [answer] at drained
    exact ⟨place_sync.trans drained.1, drained.2⟩
  · rename_i answer
    rwa [answer] at drained

theorem fst_medium_write {entry : Entry} : (medium.write (writer, disk) entry).1 =
    ((writer.write disk entry).1, (writer.write disk entry).2.1) := by
  simp only [medium]

theorem fst_medium_flush : (medium.flush (writer, disk)).1 =
    ((writer.flush disk).1, (writer.flush disk).2.1) := by
  simp only [medium]

end

/-- A writer at a place has touched a disk only at this place. -/
def TouchedOnly (place : List Files.Name) (before : Disk) (state : Writer × Disk) : Prop :=
  state.1.place = place ∧ Disk.TouchesOnly (some place) before state.2

theorem StaysAt.touchedOnly {ε : Type} {place : List Files.Name} {before : Disk}
    {state : Writer × Disk} {answer : Writer × Disk × Except ε Unit}
    (stays : state.1.StaysAt state.2 answer) (touched : TouchedOnly place before state) :
    TouchedOnly place before (answer.1, answer.2.1) := by
  obtain ⟨rfl, earlier⟩ := touched
  exact ⟨stays.1, earlier.trans stays.2⟩

end Writer

theorem Recorder.touchesOnly_run {place : List Files.Name} {before : Disk}
    {recorder : Recorder (Writer × Disk)} {signals : List Signal}
    (touched : Writer.TouchedOnly place before recorder.state) :
    Disk.TouchesOnly (some place) before
      (recorder.run Writer.medium signals).1.state.2 := by
  have write (state : Writer × Disk) (entry : Entry)
      (touched : Writer.TouchedOnly place before state) :
      Writer.TouchedOnly place before (Writer.medium.write state entry).1 := by
    rw [Writer.fst_medium_write]
    exact Writer.staysAt_write.touchedOnly touched
  have flush (state : Writer × Disk) (touched : Writer.TouchedOnly place before state) :
      Writer.TouchedOnly place before (Writer.medium.flush state).1 := by
    rw [Writer.fst_medium_flush]
    exact Writer.staysAt_flush.touchedOnly touched
  exact (run_keeps write flush touched).2

end LinkVetting.Audit
