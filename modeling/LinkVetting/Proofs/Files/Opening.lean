import LinkVetting.Proofs.Files.Tree

/-!
# Files and the opening of a path

Directories that are made on the way to a file leave all files and devices as
they are.  A file that is opened for appending keeps its content, and a file
that had been missing is empty.
-/

namespace LinkVetting.Files

namespace Disk

/-- The content of the file at a place; a missing file has none. -/
def contentAt (disk : Disk) (place : List Name) : List UInt8 :=
  match disk.root.get? place with
  | some (.file content) => content
  | _ => []

/-- Two disks have the same files and devices at the same places. -/
def SameFiles (disk later : Disk) : Prop :=
  ∀ place node, node.isDirectory = false →
    (later.root.get? place = some node ↔ disk.root.get? place = some node)

section

variable {disk middle later : Disk} {path : Path}

theorem SameFiles.refl : SameFiles disk disk := fun _ _ _ => Iff.rfl

theorem SameFiles.trans (first : SameFiles disk middle) (second : SameFiles middle later) :
    SameFiles disk later :=
  fun place node plain => (second place node plain).trans (first place node plain)

theorem sameFiles_of_makeDirectory (made : disk.makeDirectory path = .ok later) :
    SameFiles disk later := by
  rw [makeDirectory] at made
  cases located : disk.locate path with
  | error fault =>
      rw [located] at made
      cases made
  | ok place =>
      rw [located] at made
      cases present : disk.root.get? place with
      | some node => simp [bind, Except.bind, present] at made
      | none =>
          have same : disk.put place (.directory []) = later := by
            simpa [bind, Except.bind, present, pure, Except.pure] using made
          subst same
          exact fun other node plain => Node.get?_put_emptyDirectory present plain

section

variable {Related : Disk → Disk → Prop}

private theorem related_settle (refl : ∀ disk, Related disk disk)
    (made : ∀ {disk later path}, disk.makeDirectory path = .ok later → Related disk later) :
    Related disk
      (match disk.makeDirectory path with
        | .ok made => (made, Except.ok ())
        | .error fault =>
            (disk, if disk.isDirectory path then .ok () else .error fault)).1 := by
  cases answer : disk.makeDirectory path with
  | ok later => exact made answer
  | error fault => exact refl disk

/-- What holds between disks whenever one directory is made, and passes on from one
to the next, holds whenever missing directories are made. -/
theorem related_makeDirectories {fuel : Nat} (refl : ∀ disk, Related disk disk)
    (trans : ∀ {disk middle later}, Related disk middle → Related middle later →
      Related disk later)
    (made : ∀ {disk later path}, disk.makeDirectory path = .ok later → Related disk later) :
    Related disk (disk.makeDirectories path fuel).1 := by
  induction fuel generalizing disk path with
  | zero => exact refl disk
  | succ fuel induction =>
      rw [makeDirectories]
      split
      · exact refl disk
      · dsimp only
        split
        · rename_i parent _ _
          have above := @induction disk parent
          split
          · rename_i middle answer
            rw [answer] at above
            exact trans above (related_settle refl made)
          · rename_i middle fault answer
            rw [answer] at above
            exact above
        · exact related_settle refl made

end

theorem sameFiles_makeDirectories {fuel : Nat} :
    SameFiles disk (disk.makeDirectories path fuel).1 :=
  related_makeDirectories (fun _ => .refl) .trans sameFiles_of_makeDirectory

theorem workingDirectory_of_makeDirectory (made : disk.makeDirectory path = .ok later) :
    later.workingDirectory = disk.workingDirectory := by
  rw [makeDirectory] at made
  cases located : disk.locate path with
  | error fault =>
      rw [located] at made
      cases made
  | ok place =>
      simp only [located, bind, Except.bind, pure, Except.pure] at made
      split at made
      · cases made
      · cases made
        rfl

theorem workingDirectory_makeDirectories {fuel : Nat} :
    (disk.makeDirectories path fuel).1.workingDirectory = disk.workingDirectory :=
  @related_makeDirectories _ _ (fun disk later => later.workingDirectory = disk.workingDirectory)
    _ (fun _ => rfl) (fun first second => second.trans first) workingDirectory_of_makeDirectory

theorem workingDirectory_of_makeDirectories {fuel : Nat} {answer : Except Fault Unit}
    (made : disk.makeDirectories path fuel = (later, answer)) :
    later.workingDirectory = disk.workingDirectory := by
  have same := @workingDirectory_makeDirectories disk path fuel
  rw [made] at same
  exact same

theorem sameFiles_of_makeDirectories {fuel : Nat} {answer : Except Fault Unit}
    (made : disk.makeDirectories path fuel = (later, answer)) :
    SameFiles disk later := by
  have same := @sameFiles_makeDirectories disk path fuel
  rw [made] at same
  exact same

/-- Two walks from a place along the same components end at the same place,
wherever the components lead to. -/
theorem place_of_walk {other : Disk} {place found again : List Name}
    {components : List Component} (first : disk.walk place components = .ok found)
    (second : other.walk place components = .ok again) : found = again := by
  induction components generalizing place with
  | nil =>
      cases first
      cases second
      rfl
  | cons component components induction =>
      simp only [walk] at first second
      split at first
      · cases first
      · split at first
        · cases first
        · split at second
          · cases second
          · split at second
            · cases second
            · cases component with
              | here => exact induction first second
              | up => exact induction first second
              | name name =>
                  dsimp only at first second
                  split at first
                  · cases first
                  · rename_i short
                    rw [if_neg short] at second
                    exact induction first second

theorem follow_eq_walk {components : List Component} (nonempty : path.bytes ≠ [])
    (zeroFree : 0 ∉ path.bytes) (short : path.bytes.length ≤ longestPath) :
    disk.follow path components =
      disk.walk (if path.isAbsolute then [] else disk.workingDirectory) components := by
  have notEmpty : ¬ path.bytes.isEmpty = true := by simpa using nonempty
  have noZero : ¬ path.bytes.contains 0 = true := by simpa using zeroFree
  rw [follow, if_neg notEmpty, if_neg noZero, if_neg (Nat.not_lt.mpr short)]

theorem follow_ok {components : List Component} {place : List Name}
    (followed : disk.follow path components = .ok place) :
    path.bytes ≠ [] ∧ 0 ∉ path.bytes ∧ path.bytes.length ≤ longestPath ∧
      disk.walk (if path.isAbsolute then [] else disk.workingDirectory) components =
        .ok place := by
  rw [follow] at followed
  split at followed
  · cases followed
  · rename_i notEmpty
    split at followed
    · cases followed
    · rename_i noZero
      split at followed
      · cases followed
      · rename_i short
        exact ⟨by simpa using notEmpty, by simpa using noZero, Nat.le_of_not_lt short, followed⟩

theorem openAppend_cases {place : List Name}
    (opened : disk.openAppend path = .ok (later, place)) :
    disk.locate path = .ok place ∧
      (later = disk ∨
        disk.root.get? place = none ∧ later = disk.put place (.file [])) := by
  rw [openAppend] at opened
  cases located : disk.locate path with
  | error fault =>
      rw [located] at opened
      cases opened
  | ok found =>
      simp only [located, bind, Except.bind, pure, Except.pure] at opened
      split at opened
      · cases opened
      · split at opened
        · cases opened
        · cases opened
          exact ⟨rfl, Or.inl rfl⟩
      · rename_i absent
        split at opened
        · cases opened
        · cases opened
          exact ⟨rfl, Or.inr ⟨absent, rfl⟩⟩

theorem workingDirectory_of_openAppend {place : List Name}
    (opened : disk.openAppend path = .ok (later, place)) :
    later.workingDirectory = disk.workingDirectory := by
  obtain ⟨_, rfl | ⟨_, rfl⟩⟩ := openAppend_cases opened
  · rfl
  · rfl

/-- A path leads to the same place on all disks with the same working directory, as
far as it leads anywhere. -/
theorem place_of_openAppend {other again : Disk} {place found : List Name}
    (first : disk.openAppend path = .ok (later, place))
    (second : other.openAppend path = .ok (again, found))
    (sameStart : other.workingDirectory = disk.workingDirectory) : place = found := by
  obtain ⟨nonempty, zeroFree, short, located⟩ := follow_ok (openAppend_cases first).1
  have relocated := (openAppend_cases second).1
  rw [locate, follow_eq_walk nonempty zeroFree short, sameStart] at relocated
  exact place_of_walk located relocated

end

theorem contentAt_of_file {disk : Disk} {place : List Name} {content : List UInt8}
    (file : disk.root.get? place = some (.file content)) :
    disk.contentAt place = content := by
  rw [contentAt, file]

theorem contentAt_of_no_file {disk : Disk} {place : List Name}
    (noFile : ∀ content, disk.root.get? place ≠ some (.file content)) :
    disk.contentAt place = [] := by
  rw [contentAt]
  split
  · rename_i content file
    exact absurd file (noFile content)
  · rfl

/-- A file that has just been opened for appending has the content from before
the missing directories above it were made. -/
theorem content_of_openAppend {disk middle opened : Disk} {path : Path}
    {place : List Name} {content : List UInt8} (same : SameFiles disk middle)
    (answer : middle.openAppend path = .ok (opened, place))
    (file : opened.root.get? place = some (.file content)) :
    content = disk.contentAt place := by
  obtain ⟨_, rfl | ⟨absent, rfl⟩⟩ := openAppend_cases answer
  · exact (contentAt_of_file ((same place _ rfl).mp file)).symm
  · have empty : Node.file content = .file [] := Node.eq_of_get?_put_self file
    cases empty
    refine (contentAt_of_no_file fun earlier before => ?_).symm
    rw [(same place _ rfl).mpr before] at absent
    cases absent

end Disk

end LinkVetting.Files
