import LinkVetting.Proofs.Files.Frame
import LinkVetting.Proofs.Files.OrdinaryPath

/-!
# What is made on the way to a file

An ordinary path leads to the place of its names below the working directory.  Making
missing directories along it either leaves the disk as it is or makes the directory at
this place, with all directories above it, and nothing else.
-/

namespace LinkVetting.Files

namespace Disk

/-- A directory is at a place. -/
def HasDirectory (disk : Disk) (place : List Name) : Prop :=
  ∃ entries, disk.root.get? place = some (.directory entries)

/-- The place of the names on a path below the working directory. -/
def placeOf (disk : Disk) (path : Path) : List Name := disk.workingDirectory ++ path.names

/-! ## Walking down -/

section

variable {disk : Disk} {place found names : List Name} {first second : List Component}

theorem hasDirectory_of_get?_append {name : Name} {node : Node}
    (present : disk.root.get? (place ++ name :: names) = some node) : disk.HasDirectory place := by
  rw [Node.get?_append, Option.bind_eq_some_iff] at present
  obtain ⟨outer, atPlace, below⟩ := present
  obtain ⟨entries, rfl⟩ := Node.exists_directory_of_get?_cons below
  exact ⟨entries, atPlace⟩

theorem get?_append_of_none (absent : disk.root.get? place = none) :
    disk.root.get? (place ++ names) = none := by
  rw [Node.get?_append, absent, Option.bind_none]

theorem walk_append : disk.walk place (first ++ second) =
    (disk.walk place first).bind fun middle => disk.walk middle second := by
  induction first generalizing place with
  | nil => rfl
  | cons component first induction =>
      simp only [List.cons_append, walk]
      split
      · rfl
      · split
        · rfl
        · cases component with
          | here => exact induction
          | up => exact induction
          | name name =>
              dsimp only
              split
              · rfl
              · exact induction

theorem walk_name {name : Name} (fits : name.length ≤ longestName)
    (inside : disk.HasDirectory place) :
    disk.walk place (.name name :: first) = disk.walk (place ++ [name]) first := by
  obtain ⟨entries, present⟩ := inside
  rw [walk, present]
  simp [Node.isDirectory, Nat.not_lt.mpr fits]

theorem hasDirectory_of_walk {component : Component}
    (walked : disk.walk place (component :: first) = .ok found) : disk.HasDirectory place := by
  simp only [walk] at walked
  split at walked
  · cases walked
  · rename_i node present
    cases node with
    | file content => cases walked
    | device isFull => cases walked
    | directory entries => exact ⟨entries, present⟩

theorem eq_of_walk_names (walked : disk.walk place (names.map .name) = .ok found) :
    found = place ++ names := by
  induction names generalizing place with
  | nil =>
      cases walked
      rw [List.append_nil]
  | cons name names induction =>
      have inside := hasDirectory_of_walk walked
      obtain ⟨entries, present⟩ := inside
      rw [List.map_cons, walk, present] at walked
      simp only [Node.isDirectory, Bool.not_true, Bool.false_eq_true, if_false] at walked
      split at walked
      · cases walked
      · rw [induction walked, List.append_assoc, List.singleton_append]

theorem walk_names_of_hasDirectory (fits : ∀ name ∈ names, name.length ≤ longestName)
    (there : disk.HasDirectory (place ++ names)) :
    disk.walk place (names.map .name) = .ok (place ++ names) := by
  induction names generalizing place with
  | nil => rw [List.map_nil, walk, List.append_nil]
  | cons name names induction =>
      have fitsFirst := fits name List.mem_cons_self
      have fitsLater : ∀ later ∈ names, later.length ≤ longestName := fun later member =>
        fits later (List.mem_cons_of_mem name member)
      obtain ⟨entries, present⟩ := there
      have inside := hasDirectory_of_get?_append present
      have again : place ++ name :: names = place ++ [name] ++ names := by simp
      rw [again] at present ⊢
      rw [List.map_cons, walk_name fitsFirst inside]
      exact induction fitsLater ⟨entries, present⟩

theorem get?_of_walk_notFound (lost : disk.walk place (names.map .name) = .error .notFound) :
    disk.root.get? (place ++ names) = none := by
  induction names generalizing place with
  | nil => cases lost
  | cons name names induction =>
      rw [List.map_cons, walk] at lost
      split at lost
      · rename_i absent
        exact get?_append_of_none absent
      · split at lost
        · cases lost
        · split at lost
          · cases lost
          · have absent := induction lost
            rwa [List.append_assoc, List.singleton_append] at absent

end

/-! ## Places of paths -/

section

variable {disk middle : Disk} {path parent : Path} {last : Name}

theorem placeOf_eq (names : path.names = parent.names ++ [last]) :
    disk.placeOf path = disk.placeOf parent ++ [last] := by
  rw [placeOf, names, placeOf, List.append_assoc]

theorem above_of_names (names : path.names = parent.names ++ [last]) :
    disk.placeOf parent <+: disk.placeOf path := by
  rw [placeOf_eq names]
  exact List.prefix_append _ _

theorem not_above_of_names (names : path.names = parent.names ++ [last]) :
    ¬ disk.placeOf path <+: disk.placeOf parent := by
  intro onWay
  have shorter := onWay.length_le
  rw [placeOf_eq names, List.length_append, List.length_singleton] at shorter
  omega

theorem placeOf_congr (sameStart : middle.workingDirectory = disk.workingDirectory) :
    middle.placeOf path = disk.placeOf path := by
  rw [placeOf, sameStart, placeOf]

end

/-! ## Ordinary paths -/

section

variable {disk middle later : Disk} {path parent : Path} {last : Name} {place touched : List Name}

theorem walk_of_locate (ordinary : path.IsOrdinary) (located : disk.locate path = .ok place) :
    disk.walk disk.workingDirectory (path.names.map .name) = .ok place := by
  obtain ⟨_, _, _, walked⟩ := follow_ok located
  rwa [ordinary.relative, if_neg Bool.false_ne_true, ordinary.components_eq] at walked

theorem locate_eq_walk (ordinary : path.IsOrdinary) (holdable : path.IsHoldable)
    (nonempty : path.bytes ≠ []) :
    disk.locate path = disk.walk disk.workingDirectory (path.names.map .name) := by
  rw [locate, follow_eq_walk nonempty holdable.zeroFree holdable.short, ordinary.relative,
    if_neg Bool.false_ne_true, ordinary.components_eq]

theorem place_of_locate (ordinary : path.IsOrdinary) (located : disk.locate path = .ok place) :
    place = disk.placeOf path :=
  eq_of_walk_names (walk_of_locate ordinary located)

theorem makeDirectory_ok (ordinary : path.IsOrdinary)
    (made : disk.makeDirectory path = .ok later) :
    disk.root.get? (disk.placeOf path) = none ∧
      later = disk.put (disk.placeOf path) (.directory []) := by
  rw [makeDirectory] at made
  cases located : disk.locate path with
  | error fault =>
      rw [located] at made
      cases made
  | ok place =>
      obtain rfl := place_of_locate ordinary located
      rw [located] at made
      cases present : disk.root.get? (disk.placeOf path) with
      | some node => simp [bind, Except.bind, present] at made
      | none =>
          simp only [bind, Except.bind, present, pure, Except.pure] at made
          cases made
          exact ⟨rfl, rfl⟩

private theorem touchesOnly_settle (ordinary : path.IsOrdinary)
    (onWay : disk.placeOf path <+: touched) :
    TouchesOnly (some touched) disk
      (match disk.makeDirectory path with
        | .ok made => (made, Except.ok ())
        | .error fault =>
            (disk, if disk.isDirectory path then .ok () else .error fault)).1 := by
  cases answer : disk.makeDirectory path with
  | ok later =>
      obtain ⟨absent, rfl⟩ := makeDirectory_ok ordinary answer
      exact touchesOnly_put_directory absent onWay
  | error fault => exact .refl

/-- Making directories touches the disk only on the way to the path, also if it fails. -/
theorem touchesOnly_makeDirectories {fuel : Nat} (ordinary : path.IsOrdinary)
    (onWay : disk.placeOf path <+: touched) :
    TouchesOnly (some touched) disk (disk.makeDirectories path fuel).1 := by
  induction fuel generalizing path with
  | zero => exact .refl
  | succ fuel induction =>
      rw [makeDirectories]
      split
      · exact .refl
      · rename_i nonempty
        obtain ⟨parent, last, above, ordinaryParent, _, names⟩ :=
          ordinary.exists_parent (by simpa using nonempty)
        have earlier := induction ordinaryParent ((above_of_names names).trans onWay)
        have sameStart := @workingDirectory_makeDirectories disk parent fuel
        rw [above]
        dsimp only
        split
        · rename_i same
          obtain rfl := Option.some.inj same
          split
          · rename_i middle made
            rw [made] at earlier sameStart
            rw [← placeOf_congr sameStart] at onWay
            exact earlier.trans (touchesOnly_settle ordinary onWay)
          · rename_i made
            rwa [made] at earlier
        · exact touchesOnly_settle ordinary onWay

theorem touchesOnly_of_makeDirectories {fuel : Nat} {answer : Except Fault Unit}
    (ordinary : path.IsOrdinary) (made : disk.makeDirectories path fuel = (later, answer)) :
    TouchesOnly (some (disk.placeOf path)) disk later := by
  have only := @touchesOnly_makeDirectories disk path _ fuel ordinary List.prefix_rfl
  rw [made] at only
  exact only

theorem makeDirectories_empty {fuel : Nat} (empty : path.bytes = []) :
    (disk.makeDirectories path fuel).1 = disk := by
  cases fuel with
  | zero => rfl
  | succ fuel =>
      rw [makeDirectories, empty]
      rfl

theorem get?_of_makeDirectory_notFound (ordinary : path.IsOrdinary) (nonempty : path.bytes ≠ [])
    (lost : disk.makeDirectory path = .error .notFound) :
    disk.root.get? (disk.placeOf path) = none := by
  have notEmpty : ¬ path.bytes.isEmpty = true := by simpa using nonempty
  rw [makeDirectory, locate, follow, if_neg notEmpty, ordinary.relative,
    ordinary.components_eq] at lost
  -- a zero byte and a path that is too long make other faults
  split at lost
  · cases lost
  · split at lost
    · cases lost
    · cases walked : disk.walk disk.workingDirectory (path.names.map .name) with
      | error fault =>
          simp only [Bool.false_eq_true, if_false, walked] at lost
          cases lost
          exact get?_of_walk_notFound walked
      | ok place =>
          simp only [Bool.false_eq_true, if_false, walked, bind, Except.bind] at lost
          split at lost
          · cases lost
          · cases lost

theorem hasDirectory_of_isDirectory (ordinary : path.IsOrdinary)
    (there : disk.isDirectory path = true) : disk.HasDirectory (disk.placeOf path) := by
  rw [isDirectory, find, ordinary.fullComponents_eq] at there
  cases followed : disk.follow path path.components with
  | error fault => simp [followed, bind, Except.bind] at there
  | ok place =>
      obtain rfl := place_of_locate ordinary followed
      cases present : disk.root.get? (disk.placeOf path) with
      | none => simp [followed, present, bind, Except.bind] at there
      | some node =>
          simp only [followed, present, bind, Except.bind, pure, Except.pure] at there
          cases node with
          | file content => cases there
          | device isFull => cases there
          | directory entries => exact ⟨entries, present⟩

/-! ## Paths that a disk can hold -/

/-- A path that a disk can hold leads to its place as soon as its parent is a directory. -/
theorem locate_of_hasDirectory (ordinary : path.IsOrdinary) (holdable : path.IsHoldable)
    (nonempty : path.bytes ≠ []) (names : path.names = parent.names ++ [last])
    (inside : disk.HasDirectory (disk.placeOf parent)) :
    disk.locate path = .ok (disk.placeOf path) := by
  have fits := holdable.fits
  rw [names] at fits
  have fitsAbove : ∀ name ∈ parent.names, name.length ≤ longestName := fun name member =>
    fits name (List.mem_append_left _ member)
  rw [locate_eq_walk ordinary holdable nonempty, names, List.map_append, walk_append,
    walk_names_of_hasDirectory fitsAbove inside, placeOf_eq names]
  exact walk_name (fits last (by simp)) inside

theorem hasDirectory_of_locate (ordinary : path.IsOrdinary)
    (names : path.names = parent.names ++ [last]) (located : disk.locate path = .ok place) :
    disk.HasDirectory (disk.placeOf parent) := by
  have walked := walk_of_locate ordinary located
  rw [names, List.map_append, walk_append] at walked
  cases above : disk.walk disk.workingDirectory (parent.names.map .name) with
  | error fault =>
      rw [above] at walked
      cases walked
  | ok middle =>
      rw [above, eq_of_walk_names above] at walked
      exact @hasDirectory_of_walk disk _ _ [] (.name last) walked

theorem makeDirectory_of_hasDirectory (ordinary : path.IsOrdinary) (holdable : path.IsHoldable)
    (nonempty : path.bytes ≠ []) (names : path.names = parent.names ++ [last])
    (inside : disk.HasDirectory (disk.placeOf parent))
    (absent : disk.root.get? (disk.placeOf path) = none) :
    disk.makeDirectory path = .ok (disk.put (disk.placeOf path) (.directory [])) := by
  rw [makeDirectory, locate_of_hasDirectory ordinary holdable nonempty names inside]
  simp only [bind, Except.bind, absent, pure, Except.pure]

theorem hasDirectory_of_makeDirectory (ordinary : path.IsOrdinary)
    (names : path.names = parent.names ++ [last])
    (made : disk.makeDirectory path = .ok later) : later.HasDirectory (disk.placeOf path) := by
  obtain ⟨_, rfl⟩ := makeDirectory_ok ordinary made
  rw [makeDirectory] at made
  cases located : disk.locate path with
  | error fault =>
      rw [located] at made
      cases made
  | ok place =>
      obtain ⟨entries, present⟩ := hasDirectory_of_locate ordinary names located
      refine ⟨[], ?_⟩
      rw [placeOf_eq names]
      exact Node.get?_put_child present

/-- What making missing directories does to a disk: nothing, or it makes the directory at a
place. -/
inductive MakesAt (place : List Name) (disk : Disk) : Disk × Except Fault Unit → Prop where
  | fails (fault : Fault) : MakesAt place disk (disk, .error fault)
  | present (there : disk.HasDirectory place) : MakesAt place disk (disk, .ok ())
  | made {later : Disk} (absent : disk.root.get? place = none) (there : later.HasDirectory place) :
      MakesAt place disk (later, .ok ())

/-- The last directory on a path is made, is there already or cannot be made. -/
private theorem makesAt_settle (ordinary : path.IsOrdinary)
    (names : path.names = parent.names ++ [last]) :
    MakesAt (disk.placeOf path) disk
      (match disk.makeDirectory path with
        | .ok made => (made, .ok ())
        | .error fault => (disk, if disk.isDirectory path then .ok () else .error fault)) := by
  cases answer : disk.makeDirectory path with
  | ok later =>
      exact .made (makeDirectory_ok ordinary answer).1
        (hasDirectory_of_makeDirectory ordinary names answer)
  | error fault =>
      dsimp only
      split
      · rename_i there
        exact .present (hasDirectory_of_isDirectory ordinary there)
      · exact .fails fault

/-- What has been made down to the place of the parent leaves the place below as it is. -/
theorem get?_of_touchesOnly (names : path.names = parent.names ++ [last])
    (only : TouchesOnly (some (disk.placeOf parent)) disk middle) :
    middle.root.get? (disk.placeOf path) = disk.root.get? (disk.placeOf path) := by
  apply only.elsewhere
  intro touched same
  obtain rfl := Option.some.inj same
  exact not_above_of_names names

theorem exists_makeDirectory (ordinary : path.IsOrdinary) (holdable : path.IsHoldable)
    (nonempty : path.bytes ≠ []) (names : path.names = parent.names ++ [last])
    (only : TouchesOnly (some (disk.placeOf parent)) disk middle)
    (sameStart : middle.workingDirectory = disk.workingDirectory)
    (inside : middle.HasDirectory (disk.placeOf parent))
    (absent : disk.root.get? (disk.placeOf path) = none) :
    ∃ later, middle.makeDirectory path = .ok later ∧ later.HasDirectory (disk.placeOf path) := by
  have absentStill := (get?_of_touchesOnly names only).trans absent
  rw [← placeOf_congr sameStart] at inside absentStill
  have answer := makeDirectory_of_hasDirectory ordinary holdable nonempty names inside absentStill
  have there := hasDirectory_of_makeDirectory ordinary names answer
  rw [placeOf_congr sameStart] at answer there
  exact ⟨_, answer, there⟩

/-- Missing directories are made down to the place of the path or not at all. -/
theorem makesAt_makeDirectories {fuel : Nat} (ordinary : path.IsOrdinary)
    (holdable : path.IsHoldable) (nonempty : path.bytes ≠ []) :
    MakesAt (disk.placeOf path) disk (disk.makeDirectories path fuel) := by
  induction fuel generalizing path with
  | zero => exact .fails _
  | succ fuel induction =>
      obtain ⟨parent, last, above, ordinaryParent, first, names⟩ :=
        ordinary.exists_parent nonempty
      have alone := @makesAt_settle disk path parent last ordinary names
      have notEmpty : ¬ path.bytes.isEmpty = true := by simpa using nonempty
      rw [makeDirectories, if_neg notEmpty, above]
      dsimp only
      split
      · rename_i found lost same
        obtain rfl := Option.some.inj same
        have only := @touchesOnly_makeDirectories disk parent _ fuel ordinaryParent
          List.prefix_rfl
        have sameStart := @workingDirectory_makeDirectories disk parent fuel
        have unmade := @makeDirectories_empty disk parent fuel
        have makes := @induction parent ordinaryParent (holdable.parent first names)
        cases made : disk.makeDirectories parent fuel with
        | mk middle answer =>
            rw [made] at only sameStart unmade makes
            by_cases emptyParent : parent.bytes = []
            · obtain rfl : middle = disk := unmade emptyParent
              cases answer with
              | ok done => exact alone
              | error fault => exact .fails fault
            · cases makes emptyParent with
              | fails fault => exact .fails fault
              | present there => exact alone
              | made _ inside =>
                  -- nothing was there, and now its directory is
                  have absent := get?_of_makeDirectory_notFound ordinary nonempty lost
                  obtain ⟨later, answer, there⟩ := exists_makeDirectory ordinary holdable
                    nonempty names only sameStart inside absent
                  simp only [answer]
                  exact .made absent there
      · exact alone

theorem openAppend_of_hasDirectory (ordinary : path.IsOrdinary) (holdable : path.IsHoldable)
    (nonempty : path.bytes ≠ []) (names : path.names = parent.names ++ [last])
    (inside : disk.HasDirectory (disk.placeOf parent)) :
    disk.openAppend path =
      match disk.root.get? (disk.placeOf path) with
      | some (.directory _) => .error .isDirectory
      | some _ => .ok (disk, disk.placeOf path)
      | none => .ok (disk.put (disk.placeOf path) (.file []), disk.placeOf path) := by
  rw [openAppend, locate_of_hasDirectory ordinary holdable nonempty names inside]
  simp only [bind, Except.bind, ordinary.unslashed, Bool.false_eq_true, if_false]
  rfl

theorem touchesOnly_openAppend (ordinary : path.IsOrdinary)
    (opened : disk.openAppend path = .ok (later, place)) :
    place = disk.placeOf path ∧ TouchesOnly (some place) disk later := by
  obtain ⟨located, made⟩ := openAppend_cases opened
  refine ⟨place_of_locate ordinary located, ?_⟩
  rcases made with rfl | ⟨absent, rfl⟩
  · exact .refl
  · have noFile (content : List UInt8) : disk.root.get? place ≠ some (.file content) := by
      rw [absent]
      exact Option.some_ne_none _ ∘ Eq.symm
    have grows : disk.contentAt place <+: [] := contentAt_of_no_file noFile ▸ List.prefix_rfl
    exact @touchesOnly_put_file _ disk [] _ (Or.inl absent) grows

end

end Disk

end LinkVetting.Files
