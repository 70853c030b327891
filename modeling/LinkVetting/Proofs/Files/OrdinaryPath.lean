import Mathlib.Data.List.DropRight
import LinkVetting.Files.Disk

/-!
# Ordinary paths

An ordinary path starts at the working directory and leads down by names.  Its parent,
if it has one, is an ordinary path that leads down by all of these names but the last.
-/

namespace LinkVetting.Files

namespace Path

/-! ## Pieces -/

section

variable {bytes begun piece : List UInt8} {front rest later : List Name}

private theorem piecesFrom_eq_splitOn (free : slash ∉ begun) :
    piecesFrom begun bytes = (begun.reverse ++ bytes).splitOn slash := by
  have freeReverse : slash ∉ begun.reverse := by simpa using free
  induction bytes generalizing begun with
  | nil => rw [piecesFrom, List.append_nil, List.splitOn_eq_singleton freeReverse]
  | cons byte bytes induction =>
      rw [piecesFrom]
      split
      · rename_i same
        rw [same, List.splitOn_append_cons_self_of_not_mem freeReverse,
          induction List.not_mem_nil (by simp), List.reverse_nil, List.nil_append]
      · rename_i different
        have freeNext : slash ∉ byte :: begun := by simpa [Ne.symm different] using free
        rw [induction freeNext (by rwa [List.mem_reverse]), List.reverse_cons, List.append_assoc,
          List.singleton_append]

theorem pieces_eq_splitOn : pieces bytes = bytes.splitOn slash :=
  piecesFrom_eq_splitOn List.not_mem_nil

private theorem slash_notMem_of_mem_piecesFrom (free : slash ∉ begun)
    (member : piece ∈ piecesFrom begun bytes) : slash ∉ piece := by
  induction bytes generalizing begun with
  | nil =>
      rw [piecesFrom, List.mem_singleton] at member
      rwa [member, List.mem_reverse]
  | cons byte bytes induction =>
      rw [piecesFrom] at member
      split at member
      · rcases List.mem_cons.mp member with rfl | later
        · rwa [List.mem_reverse]
        · exact induction List.not_mem_nil later
      · rename_i different
        apply induction _ member
        simpa [Ne.symm different] using free

theorem slash_notMem_of_mem_pieces (member : piece ∈ pieces bytes) : slash ∉ piece :=
  slash_notMem_of_mem_piecesFrom List.not_mem_nil member

theorem join_cons (someLater : later ≠ []) :
    join (piece :: later) = piece ++ slash :: join later := by
  cases later with
  | nil => exact absurd rfl someLater
  | cons next others => rfl

theorem join_append (someFront : front ≠ []) (someRest : rest ≠ []) :
    join (front ++ rest) = join front ++ slash :: join rest := by
  induction front with
  | nil => exact absurd rfl someFront
  | cons piece front induction =>
      cases front with
      | nil => exact join_cons someRest
      | cons next others =>
          rw [List.cons_append, join_cons (by simp), induction (by simp),
            join_cons (List.cons_ne_nil next others), List.append_assoc, List.cons_append]

theorem join_eq_intercalate : join later = [slash].intercalate later := by
  induction later with
  | nil => rfl
  | cons piece later induction =>
      cases later with
      | nil => simp [join]
      | cons next others =>
          rw [join_cons (List.cons_ne_nil next others), induction, List.intercalate_cons_cons,
            List.append_assoc, List.singleton_append]

theorem join_pieces : join (pieces bytes) = bytes := by
  rw [join_eq_intercalate, pieces_eq_splitOn, List.intercalate_splitOn]

theorem pieces_join (someLater : later ≠ []) (free : ∀ piece ∈ later, slash ∉ piece) :
    pieces (join later) = later := by
  rw [join_eq_intercalate, pieces_eq_splitOn, List.splitOn_intercalate slash free someLater]

theorem pieces_ne_nil : pieces bytes ≠ [] := by
  rw [pieces_eq_splitOn]
  exact List.splitOn_ne_nil slash bytes

theorem join_front : join front <+: join (front ++ rest) := by
  by_cases someFront : front = []
  · rw [someFront]
    exact List.nil_prefix
  · by_cases someRest : rest = []
    · have whole : join (front ++ rest) = join front := by rw [someRest, List.append_nil]
      exact whole ▸ List.prefix_rfl
    · rw [join_append someFront someRest]
      exact List.prefix_append _ _

theorem getLast?_join (some : piece ≠ []) :
    (join (front ++ [piece])).getLast? = piece.getLast? := by
  by_cases someFront : front = []
  · rw [someFront]
    rfl
  · obtain ⟨begun, last, rfl⟩ := (List.eq_nil_or_concat' piece).resolve_left some
    rw [join_append someFront (List.cons_ne_nil _ _), join, ← List.cons_append,
      ← List.append_assoc, List.getLast?_concat, List.getLast?_concat]

end

/-! ## Ordinary paths -/

end Path

/-- The name that a component is, if it is one. -/
def Component.spelled? : Component → Option Name
  | .here => none
  | .up => none
  | .name spelled => some spelled

namespace Path

/-- The names on a path. -/
def names (path : Path) : List Name := path.components.filterMap Component.spelled?

/-- An ordinary path starts at the working directory, all its components are names, and it does
not end with a slash. -/
structure IsOrdinary (path : Path) : Prop where
  relative : path.isAbsolute = false
  downward : ∀ component ∈ path.components, ∃ name, component = .name name
  unslashed : path.endsWithSlash = false

/-- A path that a disk can hold: neither a name on it nor the whole of it is too long, and no
byte of it is zero. -/
structure IsHoldable (path : Path) : Prop where
  fits : ∀ name ∈ path.names, name.length ≤ Disk.longestName
  short : path.bytes.length ≤ Disk.longestPath
  zeroFree : 0 ∉ path.bytes

section

variable {path : Path} {piece : Name}

theorem IsOrdinary.components_eq (ordinary : path.IsOrdinary) :
    path.components = path.names.map .name := by
  rw [names, List.map_filterMap]
  have same : ∀ component ∈ path.components,
      component.spelled?.map Component.name = some component := by
    intro component member
    obtain ⟨name, rfl⟩ := ordinary.downward component member
    rfl
  rw [List.filterMap_congr same, List.filterMap_some]

theorem IsOrdinary.fullComponents_eq (ordinary : path.IsOrdinary) :
    path.fullComponents = path.components := by
  rw [fullComponents, ordinary.unslashed, if_neg Bool.false_ne_true, List.append_nil]

theorem IsOrdinary.component?_piece (ordinary : path.IsOrdinary)
    (member : piece ∈ pieces path.bytes) :
    component? piece = if piece = [] then none else some (.name piece) := by
  cases spelled : component? piece with
  | none =>
      have empty : piece = [] := by
        by_contra nonempty
        have someByte : piece.isEmpty = false := by simpa using nonempty
        simp only [component?, someByte, Bool.false_eq_true, if_false] at spelled
        split at spelled
        · cases spelled
        · split at spelled
          · cases spelled
          · cases spelled
      rw [if_pos empty]
  | some component =>
      have inPath : component ∈ path.components := List.mem_filterMap.mpr ⟨piece, member, spelled⟩
      obtain ⟨name, rfl⟩ := ordinary.downward component inPath
      rw [component?] at spelled
      split at spelled
      · cases spelled
      · rename_i nonempty
        rw [if_neg (by simpa using nonempty)]
        split at spelled
        · cases spelled
        · split at spelled
          · cases spelled
          · exact spelled.symm

theorem IsOrdinary.isProper_piece (ordinary : path.IsOrdinary)
    (member : piece ∈ pieces path.bytes) : isProper piece = true ↔ piece ≠ [] := by
  have spelled := ordinary.component?_piece member
  by_cases empty : piece = []
  · simp [isProper, empty]
  · have notDot : piece ≠ [dot] := by
      intro same
      rw [same] at spelled
      cases spelled
    simp [isProper, empty, notDot]

theorem IsOrdinary.start_eq (ordinary : path.IsOrdinary) : path.start = [] := by
  have relative := ordinary.relative
  rw [isAbsolute] at relative
  -- a dot at the start would be a piece of its own
  have notDot : ∀ later, pieces path.bytes ≠ [dot] :: later := by
    intro later same
    have spelled := @IsOrdinary.component?_piece path [dot] ordinary (by simp [same])
    cases spelled
  rw [start]
  rw [pieces] at notDot
  split
  · rename_i first same
    rw [same] at relative notDot
    have notSlash : first ≠ slash := by simpa using relative
    have notAlone : first ≠ dot := by
      intro alone
      apply notDot []
      simp [piecesFrom, alone, slash, dot]
    simp [notSlash, notAlone]
  · rename_i first second later same
    rw [same] at relative notDot
    have notSlash : first ≠ slash := by simpa using relative
    have notAlone : ¬ (first = dot ∧ second = slash) := by
      intro alone
      obtain ⟨rfl, rfl⟩ := alone
      apply notDot (piecesFrom [] later)
      simp [piecesFrom, slash, dot]
    have tests : (decide (first = slash) || (decide (first = dot) && decide (second = slash))) =
        false := by
      simpa [notSlash] using notAlone
    simp [tests]
  · rfl

/-! ## Parents -/

theorem components_join {later : List Name} (free : ∀ piece ∈ later, slash ∉ piece) :
    components ⟨join later⟩ = later.filterMap component? := by
  by_cases someLater : later = []
  · rw [someLater]
    rfl
  · rw [components, pieces_join someLater free]

/-- What is left of some pieces when they are trimmed, and what goes. -/
theorem exists_trimmed (front : List Name) : ∃ dropped,
    front = trimmed front ++ dropped ∧ ∀ piece ∈ dropped, isProper piece = false := by
  refine ⟨front.rtakeWhile fun piece => !isProper piece, ?_, ?_⟩
  · exact List.rdropWhile_append_rtakeWhile.symm
  · intro piece member
    have improper := List.mem_rtakeWhile_imp member
    rwa [Bool.not_eq_true'] at improper

theorem trimmed_concat (proper : isProper piece = true) (front : List Name) :
    trimmed (front ++ [piece]) = front ++ [piece] := by
  apply List.rdropWhile_concat_neg
  rw [proper]
  exact Bool.false_ne_true

theorem isProper_of_trimmed_eq {front begun : List Name}
    (left : trimmed front = begun ++ [piece]) : isProper piece = true := by
  have again : trimmed (begun ++ [piece]) = begun ++ [piece] := by
    rw [← left]
    exact List.rdropWhile_idempotent _ front
  have proper := List.rdropWhile_eq_self_iff.mp again (by simp)
  simpa using proper

theorem IsOrdinary.exists_last (ordinary : path.IsOrdinary) (nonempty : path.bytes ≠ []) :
    ∃ front last, pieces path.bytes = front ++ [last] ∧ last ≠ [] := by
  obtain ⟨front, last, spelled⟩ := (List.eq_nil_or_concat' _).resolve_left
    (@pieces_ne_nil path.bytes)
  refine ⟨front, last, spelled, ?_⟩
  intro empty
  have bytes : path.bytes = join (front ++ [[]]) := by
    rw [← @join_pieces path.bytes, spelled, empty]
  by_cases someFront : front = []
  · rw [someFront] at bytes
    exact nonempty bytes
  · have ended := ordinary.unslashed
    rw [endsWithSlash, bytes, join_append someFront (List.cons_ne_nil _ _), join,
      List.getLast?_concat] at ended
    simp at ended

/-- The pieces of an ordinary path that go when some are trimmed spell nothing. -/
theorem IsOrdinary.filterMap_trimmed (ordinary : path.IsOrdinary) {front : List Name}
    (inPath : ∀ piece ∈ front, piece ∈ pieces path.bytes) :
    (trimmed front).filterMap component? = front.filterMap component? := by
  obtain ⟨dropped, split, improper⟩ := exists_trimmed front
  have nothing : dropped.filterMap component? = [] := by
    rw [List.filterMap_eq_nil_iff]
    intro piece member
    have inFront : piece ∈ front := by
      rw [split]
      exact List.mem_append_right _ member
    have empty : piece = [] := by
      by_contra some
      have isProper := (ordinary.isProper_piece (inPath piece inFront)).mpr some
      rw [improper piece member] at isProper
      cases isProper
    rw [empty]
    rfl
  conv_rhs => rw [split]
  rw [List.filterMap_append, nothing, List.append_nil]

theorem endsWithSlash_join_trimmed {front : List Name} (free : ∀ piece ∈ front, slash ∉ piece) :
    endsWithSlash ⟨join (trimmed front)⟩ = false := by
  obtain ⟨dropped, split, _⟩ := exists_trimmed front
  rw [endsWithSlash, beq_eq_false_iff_ne]
  rcases List.eq_nil_or_concat' (trimmed front) with empty | ⟨begun, ended, left⟩
  · rw [empty]
    exact Option.some_ne_none slash ∘ Eq.symm
  · have proper := isProper_of_trimmed_eq left
    have someEnded : ended ≠ [] := by
      rintro rfl
      cases proper
    have endedIn : ended ∈ front := by
      rw [split, left]
      simp
    rw [left, getLast?_join someEnded]
    intro slashed
    exact free ended endedIn (List.mem_of_getLast? slashed)

/-- A first part of an ordinary path whose components are among those of the path is ordinary
if it does not end with a slash. -/
theorem IsOrdinary.of_first (ordinary : path.IsOrdinary) {shorter : Path}
    (first : shorter.bytes <+: path.bytes) (fewer : shorter.components ⊆ path.components)
    (unslashed : shorter.endsWithSlash = false) : shorter.IsOrdinary where
  relative := by
    have relative := ordinary.relative
    obtain ⟨later, bytes⟩ := first
    rw [isAbsolute, ← bytes] at relative
    rw [isAbsolute]
    cases spelled : shorter.bytes with
    | nil => rfl
    | cons byte rest => rwa [spelled, List.cons_append, List.head?_cons] at relative
  downward := fun component member => ordinary.downward component (fewer member)
  unslashed := unslashed

/-- The parent of an ordinary path is the ordinary path of all its names but the last. -/
theorem IsOrdinary.exists_parent (ordinary : path.IsOrdinary) (nonempty : path.bytes ≠ []) :
    ∃ parent last, path.parent? = some parent ∧ parent.IsOrdinary ∧
      parent.bytes <+: path.bytes ∧ path.names = parent.names ++ [last] := by
  obtain ⟨front, last, spelled, someLast⟩ := ordinary.exists_last nonempty
  have inPath : ∀ piece ∈ front, piece ∈ pieces path.bytes := by
    intro piece member
    rw [spelled]
    exact List.mem_append_left [last] member
  have free : ∀ piece ∈ front, slash ∉ piece := fun piece member =>
    slash_notMem_of_mem_pieces (inPath piece member)
  have lastIn : last ∈ pieces path.bytes := by simp [spelled]
  obtain ⟨dropped, split, _⟩ := exists_trimmed front
  have freeKept : ∀ piece ∈ trimmed front, slash ∉ piece := by
    intro piece member
    apply free
    rw [split]
    exact List.mem_append_left dropped member
  have components : path.components = components ⟨join (trimmed front)⟩ ++ [.name last] := by
    have lastSpelled := ordinary.component?_piece lastIn
    rw [if_neg someLast] at lastSpelled
    rw [components_join freeKept, ordinary.filterMap_trimmed inPath, Path.components, spelled,
      List.filterMap_append, List.filterMap_cons_some lastSpelled, List.filterMap_nil]
  have first : join (trimmed front) <+: path.bytes := by
    have whole : pieces path.bytes = trimmed front ++ (dropped ++ [last]) := by
      rw [spelled, ← List.append_assoc, ← split]
    rw [← @join_pieces path.bytes, whole]
    exact join_front
  refine ⟨⟨join (trimmed front)⟩, last, ?_, ordinary.of_first first ?_ ?_, first, ?_⟩
  · have proper : isProper last = true := (ordinary.isProper_piece lastIn).mpr someLast
    have whole : trimmed (pieces path.bytes) = front ++ [last] := by
      rw [spelled, trimmed_concat proper]
    simp only [parent?, ordinary.start_eq, List.length_nil, List.drop_zero, whole,
      List.nil_append]
    split
    · rename_i empty
      simp at empty
    · rw [List.dropLast_concat]
  · rw [components]
    exact List.subset_append_left _ _
  · exact endsWithSlash_join_trimmed free
  · rw [names, names, components, List.filterMap_append]
    rfl

theorem IsHoldable.parent (holdable : path.IsHoldable) {parent : Path} {last : Name}
    (first : parent.bytes <+: path.bytes) (names : path.names = parent.names ++ [last]) :
    parent.IsHoldable where
  fits := by
    intro name member
    apply holdable.fits
    rw [names]
    exact List.mem_append_left [last] member
  short := first.length_le.trans holdable.short
  zeroFree := fun zero => holdable.zeroFree (first.subset zero)

end

end Path

end LinkVetting.Files
