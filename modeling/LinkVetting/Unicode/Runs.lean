/-!
# Runs of code points

A character property is stored as a sorted list of runs `(first, last, step)`. A run holds every
`step`-th code point from `first` to `last`.
-/

namespace LinkVetting.Unicode

/-- A set of code points as disjoint runs `(first, last, step)` in ascending order. -/
abbrev Runs := List (Nat × Nat × Nat)

namespace Runs

/-- Whether a code point lies in one of the runs; the search stops at the first run past it. -/
def mem : Runs → Nat → Bool
  | [], _ => false
  | (first, last, step) :: later, code =>
    if code < first then false
    else (code ≤ last && (code - first) % step == 0) || mem later code

end Runs

end LinkVetting.Unicode
