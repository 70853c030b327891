import LinkVetting.Proofs.Audit.TrailFrame
import LinkVetting.Proofs.Files.Obstacles

/-!
# Opening a trail, or nothing at all

A trail at an ordinary path is opened unless a file or device stands above its place, a
directory stands at it, or a disk cannot hold the path.  In the first two cases the disk
stays as it is, since what is in the way is met before anything has been made.  In the
last case the directories above the trail may have been made.  An opened trail has its
directories and its file, with what the file held before, and nothing else has changed.
-/

namespace LinkVetting.Audit

open Files (Disk)

namespace Writer

section

variable {disk later : Disk} {path : Files.Path} {writer : Writer}

/-- Where the path is too long but that of its parent is not, the directories above the trail are
made before its opening fails. -/
theorem openOn_of_long_path {parent : Files.Path} (ordinary : path.IsOrdinary)
    (above : path.parent? = some parent) (holdable : parent.IsHoldable)
    (zeroFree : 0 ∉ path.bytes) (long : Disk.longestPath < path.bytes.length)
    (start : disk.HasDirectory disk.workingDirectory)
    (notBlocked : ¬ disk.IsBlocked (disk.placeOf path)) :
    ∃ later, openOn disk path = (later, .error (.openFile path .nameTooLong)) ∧
      later.HasDirectory (disk.placeOf parent) := by
  have nonempty : path.bytes ≠ [] := List.ne_nil_of_length_pos (Nat.zero_lt_of_lt long)
  obtain ⟨other, last, aboveOther, ordinaryParent, first, names⟩ := ordinary.exists_parent nonempty
  rw [above] at aboveOther
  obtain rfl := Option.some.inj aboveOther
  rw [Disk.placeOf_eq names, Disk.isBlocked_concat_iff, not_not] at notBlocked
  obtain ⟨later, made, inside⟩ := @Disk.makeDirectories_of_clear disk parent
    (parent.bytes.length + 1) ordinaryParent holdable start notBlocked (Nat.lt_succ_self _)
  have tooLong : later.openAppend path = .error .nameTooLong := by
    have notEmpty : ¬ path.bytes.isEmpty = true := by simpa using nonempty
    have noZero : ¬ path.bytes.contains 0 = true := by simpa using zeroFree
    rw [Disk.openAppend, Disk.locate, Disk.follow, if_neg notEmpty, if_neg noZero, if_pos long]
    rfl
  refine ⟨later, ?_, inside⟩
  simp only [openOn, above, made, tooLong]

end

end Writer

end LinkVetting.Audit
