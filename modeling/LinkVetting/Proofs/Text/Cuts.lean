import LinkVetting.Proofs.Text.Encoding
import LinkVetting.Proofs.Text.Lines

/-!
# Cutting a text into lines

The cut of a text into lines is stated without a reader: as a relation between the
text and its lines.  There is one such cut of every text, it is what reading finds,
and reading finds it however the text comes in chunks.  The cut of an encoded text
is the encoded cut.
-/

namespace LinkVetting.Text

/-- A text is cut into lines.  A line ends with a line feed, and a carriage return right
in front of that belongs to the end.  What no line feed ends is a line as it stands,
unless it is empty. -/
inductive CutsInto {α : Type} (lineFeed carriageReturn : α) :
    List α → List (List α) → Prop where
  | nil : CutsInto lineFeed carriageReturn [] []
  | tail {line : List α} : lineFeed ∉ line → line ≠ [] →
      CutsInto lineFeed carriageReturn line [line]
  | ended {line later : List α} {lines : List (List α)} :
      lineFeed ∉ line → line.getLast? ≠ some carriageReturn →
        CutsInto lineFeed carriageReturn later lines →
          CutsInto lineFeed carriageReturn (line ++ lineFeed :: later) (line :: lines)
  | endedAfterReturn {line later : List α} {lines : List (List α)} :
      lineFeed ∉ line → CutsInto lineFeed carriageReturn later lines →
        CutsInto lineFeed carriageReturn (line ++ carriageReturn :: lineFeed :: later)
          (line :: lines)

section

variable {α : Type} {lineFeed carriageReturn : α}
variable {begun chunk line text later : List α} {cut : List (List α)}

/-- What holds of a text without a line feed, and of an ended line in front of a text of
which it holds, holds of every text. -/
@[elab_as_elim]
theorem induction_on_lines [DecidableEq α] {motive : List α → Prop} (text : List α)
    (last : ∀ line, lineFeed ∉ line → motive line)
    (ended : ∀ line later, lineFeed ∉ line → motive later →
      motive (line ++ lineFeed :: later)) : motive text := by
  generalize size : text.length = length
  induction length using Nat.strongRecOn generalizing text with
  | ind length induction =>
      by_cases ends : lineFeed ∈ text
      · obtain ⟨line, later, rfl, free⟩ := List.eq_append_cons_of_mem ends
        have shorter : later.length < length := by
          rw [← size, List.length_append, List.length_cons]
          omega
        exact ended line later free (induction later.length shorter later rfl)
      · exact last text ends

/-! ## Chunks -/

section

variable [BEq α]

/-- A chunk ends the lines that the text begins with, and leaves the line that has begun. -/
theorem linesFrom_append :
    linesFrom lineFeed carriageReturn begun (chunk ++ later) =
      (feed lineFeed carriageReturn begun chunk).1 ++
        linesFrom lineFeed carriageReturn (feed lineFeed carriageReturn begun chunk).2 later := by
  induction chunk generalizing begun with
  | nil => rfl
  | cons unit chunk induction =>
      rw [List.cons_append, linesFrom, feed]
      split
      · rw [induction]
        rfl
      · rw [induction]

theorem linesOfChunks_eq_linesFrom {chunks : List (List α)} :
    linesOfChunks lineFeed carriageReturn begun chunks =
      linesFrom lineFeed carriageReturn begun chunks.flatten := by
  induction chunks generalizing begun with
  | nil => rfl
  | cons chunk chunks induction =>
      rw [List.flatten_cons, linesFrom_append, ← induction]
      rfl

/-- A text has the same lines however it comes in chunks. -/
theorem linesOfChunks_eq {chunks : List (List α)} :
    linesOfChunks lineFeed carriageReturn [] chunks =
      lines lineFeed carriageReturn chunks.flatten :=
  linesOfChunks_eq_linesFrom

end

/-! ## One cut of every text -/

variable [DecidableEq α]

theorem lines_of_cutsInto (different : lineFeed ≠ carriageReturn)
    (cuts : CutsInto lineFeed carriageReturn text cut) :
    lines lineFeed carriageReturn text = cut := by
  induction cuts with
  | nil => rfl
  | tail free nonempty => exact lines_of_notMem free nonempty
  | ended free noReturn _ induction =>
      rw [lines_append_cons free, dropReturn_of_getLast? noReturn, induction]
  | endedAfterReturn free _ induction =>
      rw [List.append_cons, lines_append_cons (by simpa [different] using free),
        dropReturn_concat, induction]

theorem cutsInto_lines :
    CutsInto lineFeed carriageReturn text (lines lineFeed carriageReturn text) := by
  induction text using @induction_on_lines α lineFeed with
  | last line free =>
      by_cases empty : line = []
      · rw [empty]
        exact .nil
      · rw [lines_of_notMem free empty]
        exact .tail free empty
  | ended line later free induction =>
      rw [lines_append_cons free]
      by_cases returns : line.getLast? = some carriageReturn
      · obtain ⟨front, rfl⟩ := List.getLast?_eq_some_iff.mp returns
        have frontFree : lineFeed ∉ front :=
          fun member => free (List.mem_append_left _ member)
        rw [dropReturn_concat, List.append_assoc, List.singleton_append]
        exact .endedAfterReturn frontFree induction
      · rw [dropReturn_of_getLast? returns]
        exact .ended free returns induction

/-- The lines that are read are the only cut of the text. -/
theorem cutsInto_iff (different : lineFeed ≠ carriageReturn) :
    CutsInto lineFeed carriageReturn text cut ↔
      cut = lines lineFeed carriageReturn text := by
  constructor
  · exact fun cuts => (lines_of_cutsInto different cuts).symm
  · rintro rfl
    exact cutsInto_lines

/-- In front of an ended line and behind it stand lines that do not depend on it. -/
theorem lines_append_ended (ended : text = [] ∨ text.getLast? = some lineFeed)
    (free : lineFeed ∉ line) :
    lines lineFeed carriageReturn (text ++ line ++ lineFeed :: later) =
      lines lineFeed carriageReturn text ++
        dropReturn carriageReturn line :: lines lineFeed carriageReturn later := by
  induction text using @induction_on_lines α lineFeed with
  | last text textFree =>
      have nothing : text = [] := by
        rcases ended with nothing | last
        · exact nothing
        · exact absurd (List.mem_of_getLast? last) textFree
      rw [nothing, List.nil_append, lines_append_cons free, lines_nil, List.nil_append]
  | ended first rest firstFree induction =>
      have restEnded : rest = [] ∨ rest.getLast? = some lineFeed := by
        rcases ended with nothing | last
        · exact absurd nothing (by simp)
        · rw [List.getLast?_append_cons, List.getLast?_cons] at last
          cases rest with
          | nil => exact Or.inl rfl
          | cons unit others => exact Or.inr (by simpa [List.getLast?_cons] using last)
      have others := induction restEnded
      rw [List.append_assoc] at others
      rw [List.append_assoc, List.append_assoc, List.cons_append, lines_append_cons firstFree,
        lines_append_cons firstFree, others, List.cons_append]

end

/-! ## Encoded lines -/

section

variable {bytes : List UInt8} {text : List Char} {cut : List (List UInt8)}
variable {pieces : List (List Char)}

/-- Encoding takes the cut of a text to the cut of its bytes: the bytes of a line end are
part of no other character. -/
theorem CutsInto.encode (cuts : CutsInto '\n' '\r' text pieces) :
    CutsInto 0x0A 0x0D (Utf8.encode text) (pieces.map Utf8.encode) := by
  have noLineFeed {line : List Char} (free : '\n' ∉ line) : 0x0A ∉ Utf8.encode line :=
    fun member => free (Utf8.lineFeed_mem_of_encode member)
  induction cuts with
  | nil => exact .nil
  | tail free nonempty => exact .tail (noLineFeed free) (Utf8.encode_ne_nil nonempty)
  | ended free noReturn _ induction =>
      rw [Utf8.encode_append]
      refine .ended (noLineFeed free) ?_ induction
      exact fun last => noReturn (Utf8.getLast?_of_encode last)
  | endedAfterReturn free _ induction =>
      rw [Utf8.encode_append]
      exact .endedAfterReturn (noLineFeed free) induction

theorem CutsInto.exists_encode (cuts : CutsInto 0x0A 0x0D bytes cut)
    (texts : ∀ line ∈ cut, ∃ piece, Utf8.encode piece = line) :
    ∃ text, Utf8.encode text = bytes := by
  induction cuts with
  | nil => exact ⟨[], rfl⟩
  | @tail line _ _ => exact texts line (List.mem_singleton_self line)
  | @ended line _ _ _ _ _ induction =>
      obtain ⟨piece, rfl⟩ := texts line List.mem_cons_self
      obtain ⟨text, rfl⟩ := induction fun other member =>
        texts other (List.mem_cons_of_mem _ member)
      exact ⟨piece ++ '\n' :: text, Utf8.encode_append _ _⟩
  | @endedAfterReturn line _ _ _ _ induction =>
      obtain ⟨piece, rfl⟩ := texts line List.mem_cons_self
      obtain ⟨text, rfl⟩ := induction fun other member =>
        texts other (List.mem_cons_of_mem _ member)
      exact ⟨piece ++ '\r' :: '\n' :: text, Utf8.encode_append _ _⟩

end

end LinkVetting.Text
