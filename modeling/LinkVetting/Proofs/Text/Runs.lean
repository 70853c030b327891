import Mathlib.Data.List.TakeWhile

/-!
# Runs

A greedy reader takes the units of one kind that a text starts with.  It takes just a
given run of them where no unit of that kind is behind the run.
-/

namespace LinkVetting.Text

section

variable {α : Type} {ofKind : α → Bool} {run rest : List α}

theorem takeWhile_append_of_ends (inKind : ∀ unit ∈ run, ofKind unit = true)
    (ends : ∀ unit ∈ rest.head?, ofKind unit = false) :
    (run ++ rest).takeWhile ofKind = run := by
  rw [List.takeWhile_append_of_pos inKind]
  cases rest with
  | nil => rw [List.takeWhile_nil, List.append_nil]
  | cons unit later => simp [ends unit rfl]

theorem dropWhile_append_of_ends (inKind : ∀ unit ∈ run, ofKind unit = true)
    (ends : ∀ unit ∈ rest.head?, ofKind unit = false) :
    (run ++ rest).dropWhile ofKind = rest := by
  rw [List.dropWhile_append_of_pos inKind]
  cases rest with
  | nil => rfl
  | cons unit later => simp [ends unit rfl]

end

end LinkVetting.Text
