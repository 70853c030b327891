import LinkVetting.Proofs.Files.Creation

/-!
# What stands on the way to a place

Missing directories can be made along an ordinary path that a disk can hold unless
something stands on the way that is no directory.  Such an obstacle stands at or below the
last directory that is there, so where it stops the way nothing has been made yet.
-/

namespace LinkVetting.Files

namespace Disk

/-- Everything on the way to a place, and at the place, is a directory or missing. -/
def IsClear (disk : Disk) (place : List Name) : Prop :=
  ∀ above node, above <+: place → disk.root.get? above = some node → node.isDirectory = true

/-- Something above a place is there and is no directory. -/
def IsBlocked (disk : Disk) (place : List Name) : Prop :=
  ∃ above node, above <+: place ∧ above ≠ place ∧ disk.root.get? above = some node ∧
    node.isDirectory = false

/-! ## The way to a place -/

section

variable {disk middle : Disk} {place names : List Name} {last : Name} {node : Node}
variable {component : Component}

theorem exists_entries (isDirectory : node.isDirectory = true) :
    ∃ entries, node = .directory entries := by
  cases node with
  | file content => cases isDirectory
  | device isFull => cases isDirectory
  | directory entries => exact ⟨entries, rfl⟩

theorem HasDirectory.above (there : disk.HasDirectory (place ++ names)) :
    disk.HasDirectory place := by
  cases names with
  | nil => rwa [List.append_nil] at there
  | cons name names =>
      obtain ⟨entries, present⟩ := there
      exact hasDirectory_of_get?_append present

theorem IsClear.above (clear : disk.IsClear (place ++ names)) : disk.IsClear place :=
  fun above node onWay present =>
    clear above node (onWay.trans (List.prefix_append _ _)) present

theorem IsClear.absent (clear : disk.IsClear place) (none : ¬ disk.HasDirectory place) :
    disk.root.get? place = .none := by
  cases present : disk.root.get? place with
  | none => rfl
  | some node =>
      obtain ⟨entries, rfl⟩ := exists_entries (clear place node List.prefix_rfl present)
      exact absurd ⟨entries, present⟩ none

theorem isBlocked_concat_iff :
    disk.IsBlocked (place ++ [last]) ↔ ¬ disk.IsClear place := by
  constructor
  · intro blocked clear
    obtain ⟨above, node, onWay, proper, present, plain⟩ := blocked
    have shorter := (List.prefix_concat_iff.mp onWay).resolve_left proper
    rw [clear above node shorter present] at plain
    cases plain
  · intro notClear
    simp only [IsClear, not_forall, Bool.not_eq_true] at notClear
    obtain ⟨above, node, onWay, present, plain⟩ := notClear
    refine ⟨above, node, onWay.trans (List.prefix_append _ _), ?_, present, plain⟩
    intro same
    have longer := onWay.length_le
    rw [same, List.length_append, List.length_singleton] at longer
    omega

theorem walk_of_missing (fits : ∀ name ∈ names, name.length ≤ longestName)
    (inside : disk.HasDirectory place) (clear : disk.IsClear (place ++ names))
    (absent : disk.root.get? (place ++ names) = none) :
    disk.walk place (names.map .name ++ [component]) = .error .notFound := by
  induction names generalizing place with
  | nil =>
      obtain ⟨entries, present⟩ := inside
      rw [List.append_nil, present] at absent
      cases absent
  | cons name names induction =>
      have fitsFirst := fits name List.mem_cons_self
      have fitsLater : ∀ later ∈ names, later.length ≤ longestName := fun later member =>
        fits later (List.mem_cons_of_mem name member)
      have again : place ++ name :: names = place ++ [name] ++ names := by simp
      rw [again] at clear absent
      rw [List.map_cons, List.cons_append, walk_name fitsFirst inside]
      by_cases insideNext : disk.HasDirectory (place ++ [name])
      · exact induction fitsLater insideNext clear absent
      · have missing := clear.above.absent insideNext
        obtain ⟨next, others, more⟩ : ∃ next others,
            names.map Component.name ++ [component] = next :: others := by
          apply List.exists_cons_of_ne_nil
          simp
        rw [more]
        simp only [walk, missing]

end

/-! ## Making directories -/

section

variable {disk middle : Disk} {path parent : Path} {last : Name} {place : List Name} {fuel : Nat}

theorem placeOf_nil : disk.placeOf ⟨[]⟩ = disk.workingDirectory := List.append_nil _

theorem length_parent_lt (first : parent.bytes <+: path.bytes)
    (names : path.names = parent.names ++ [last]) : parent.bytes.length < path.bytes.length := by
  apply Nat.lt_of_le_of_ne first.length_le
  intro sameLength
  have same : parent = path := congrArg Path.mk (first.eq_of_length sameLength)
  have longer := congrArg List.length names
  rw [same, List.length_append, List.length_singleton] at longer
  omega

theorem isDirectory_of_hasDirectory (ordinary : path.IsOrdinary) (holdable : path.IsHoldable)
    (nonempty : path.bytes ≠ []) (names : path.names = parent.names ++ [last])
    (there : disk.HasDirectory (disk.placeOf path)) : disk.isDirectory path = true := by
  have above := there
  rw [placeOf_eq names] at above
  have located := locate_of_hasDirectory ordinary holdable nonempty names above.above
  obtain ⟨entries, present⟩ := there
  rw [locate] at located
  rw [isDirectory, find, ordinary.fullComponents_eq, located]
  simp [bind, Except.bind, present, pure, Except.pure, Node.isDirectory]

theorem makeDirectory_of_present (ordinary : path.IsOrdinary) (holdable : path.IsHoldable)
    (nonempty : path.bytes ≠ []) (names : path.names = parent.names ++ [last])
    (there : disk.HasDirectory (disk.placeOf path)) :
    disk.makeDirectory path = .error .alreadyThere := by
  have above := there
  rw [placeOf_eq names] at above
  obtain ⟨entries, present⟩ := there
  rw [makeDirectory, locate_of_hasDirectory ordinary holdable nonempty names above.above]
  simp only [bind, Except.bind, present]

theorem makeDirectory_of_missing (ordinary : path.IsOrdinary) (holdable : path.IsHoldable)
    (nonempty : path.bytes ≠ []) (names : path.names = parent.names ++ [last])
    (start : disk.HasDirectory disk.workingDirectory) (clear : disk.IsClear (disk.placeOf parent))
    (absent : disk.root.get? (disk.placeOf parent) = none) :
    disk.makeDirectory path = .error .notFound := by
  have fits : ∀ name ∈ parent.names, name.length ≤ longestName := by
    intro name member
    apply holdable.fits
    rw [names]
    exact List.mem_append_left _ member
  have lost := @walk_of_missing disk _ _ (.name last) fits start clear absent
  rw [makeDirectory, locate_eq_walk ordinary holdable nonempty, names, List.map_append,
    List.map_singleton, lost]
  rfl

theorem makeDirectories_of_parent (ordinary : path.IsOrdinary) (holdable : path.IsHoldable)
    (nonempty : path.bytes ≠ []) (above : path.parent? = some parent)
    (names : path.names = parent.names ++ [last])
    (inside : disk.HasDirectory (disk.placeOf parent)) (clear : disk.IsClear (disk.placeOf path)) :
    ∃ later, disk.makeDirectories path (fuel + 1) = (later, .ok ()) ∧
      later.HasDirectory (disk.placeOf path) := by
  have notEmpty : ¬ path.bytes.isEmpty = true := by simpa using nonempty
  rw [makeDirectories, if_neg notEmpty, above]
  by_cases there : disk.HasDirectory (disk.placeOf path)
  · have answer := makeDirectory_of_present ordinary holdable nonempty names there
    have isDirectory := isDirectory_of_hasDirectory ordinary holdable nonempty names there
    refine ⟨disk, ?_, there⟩
    simp only [answer, isDirectory, if_true]
  · have answer := makeDirectory_of_hasDirectory ordinary holdable nonempty names inside
      (clear.absent there)
    refine ⟨_, ?_, hasDirectory_of_makeDirectory ordinary names answer⟩
    simp only [answer]

/-- Where the parent is missing, the directories above are made first. -/
theorem makeDirectories_of_missing (ordinary : path.IsOrdinary) (holdable : path.IsHoldable)
    (nonempty : path.bytes ≠ []) (above : path.parent? = some parent)
    (ordinaryParent : parent.IsOrdinary) (names : path.names = parent.names ++ [last])
    (lost : disk.makeDirectory path = .error .notFound)
    (made : disk.makeDirectories parent fuel = (middle, .ok ()))
    (inside : middle.HasDirectory (disk.placeOf parent)) :
    ∃ later, disk.makeDirectories path (fuel + 1) = (later, .ok ()) ∧
      later.HasDirectory (disk.placeOf path) := by
  have notEmpty : ¬ path.bytes.isEmpty = true := by simpa using nonempty
  have absent := get?_of_makeDirectory_notFound ordinary nonempty lost
  have only := touchesOnly_of_makeDirectories ordinaryParent made
  have sameStart := workingDirectory_of_makeDirectories made
  obtain ⟨later, answer, there⟩ := exists_makeDirectory ordinary holdable nonempty names only
    sameStart inside absent
  refine ⟨later, ?_, there⟩
  rw [makeDirectories, if_neg notEmpty, above]
  simp only [lost, made, answer]

/-- Missing directories are made along a clear way; the induction goes up the path. -/
theorem makeDirectories_of_clear (ordinary : path.IsOrdinary) (holdable : path.IsHoldable)
    (start : disk.HasDirectory disk.workingDirectory) (clear : disk.IsClear (disk.placeOf path))
    (enough : path.bytes.length < fuel) :
    ∃ later, disk.makeDirectories path fuel = (later, .ok ()) ∧
      later.HasDirectory (disk.placeOf path) := by
  induction fuel generalizing path with
  | zero => exact absurd enough (Nat.not_lt_zero _)
  | succ fuel induction =>
      by_cases empty : path.bytes = []
      · obtain rfl : path = ⟨[]⟩ := by rw [← empty]
        refine ⟨disk, rfl, ?_⟩
        rwa [placeOf_nil]
      · obtain ⟨parent, last, above, ordinaryParent, first, names⟩ :=
          ordinary.exists_parent empty
        have clearParent : disk.IsClear (disk.placeOf parent) := by
          rw [placeOf_eq names] at clear
          exact clear.above
        by_cases inside : disk.HasDirectory (disk.placeOf parent)
        · exact makeDirectories_of_parent ordinary holdable empty above names inside clear
        · have shorter := length_parent_lt first names
          have lost := makeDirectory_of_missing ordinary holdable empty names start clearParent
            (clearParent.absent inside)
          obtain ⟨middle, made, insideMiddle⟩ := induction ordinaryParent
            (holdable.parent first names) clearParent (by omega)
          exact makeDirectories_of_missing ordinary holdable empty above ordinaryParent names
            lost made insideMiddle

end

end Disk

end LinkVetting.Files
