import LinkVetting.Text.Lines

/-!
# Lines between line feeds

The lines of a text are what stands between its line feeds: each ended line
without the one carriage return at its end, and what follows the last line feed
unless that is empty.
-/

namespace LinkVetting.Text

section

variable {α : Type} [BEq α]
variable {lineFeed carriageReturn : α} {begun text tail line : List α}
variable {ended : List (List α)}

theorem dropReturn_subset : dropReturn carriageReturn line ⊆ line := by
  rw [dropReturn]
  split
  · exact List.dropLast_subset line
  · exact fun _ member => member

theorem exists_splitOn : ∃ ended tail, text.splitOn lineFeed = ended ++ [tail] := by
  rcases List.eq_nil_or_concat (text.splitOn lineFeed) with empty | ⟨ended, tail, parts⟩
  · exact absurd empty (List.splitOn_ne_nil lineFeed text)
  · exact ⟨ended, tail, by rw [parts, List.concat_eq_append]⟩

variable [LawfulBEq α]

/-- The induction is on the text; `begun` is the line that has begun before it,
last unit first. -/
theorem linesFrom_of_splitOn (free : lineFeed ∉ begun)
    (parts : (begun.reverse ++ text).splitOn lineFeed = ended ++ [tail]) :
    linesFrom lineFeed carriageReturn begun text =
      ended.map (dropReturn carriageReturn) ++ if tail.isEmpty then [] else [tail] := by
  induction text generalizing begun ended with
  | nil =>
      have freeReverse : lineFeed ∉ begun.reverse := by simpa using free
      rw [List.append_nil, List.splitOn_eq_singleton freeReverse] at parts
      cases ended with
      | nil =>
          obtain ⟨same, _⟩ := List.cons.inj parts
          rw [linesFrom, ← same, List.isEmpty_reverse]
          rfl
      | cons first others => simp at parts
  | cons unit later induction =>
      by_cases ends : (unit == lineFeed) = true
      · have freeReverse : lineFeed ∉ begun.reverse := by simpa using free
        rw [eq_of_beq ends, List.splitOn_append_cons_self_of_not_mem freeReverse] at parts
        cases ended with
        | nil =>
            obtain ⟨_, nothing⟩ := List.cons.inj parts
            exact absurd nothing (List.splitOn_ne_nil lineFeed later)
        | cons first others =>
            obtain ⟨same, rest⟩ := List.cons.inj parts
            rw [linesFrom, if_pos ends, induction List.not_mem_nil rest, same]
            rfl
      · have different : unit ≠ lineFeed := fun same => ends (beq_iff_eq.mpr same)
        rw [linesFrom, if_neg ends]
        refine induction ?_ ?_
        · simpa [different.symm] using free
        · simpa using parts

theorem lines_of_splitOn (parts : text.splitOn lineFeed = ended ++ [tail]) :
    lines lineFeed carriageReturn text =
      ended.map (dropReturn carriageReturn) ++ if tail.isEmpty then [] else [tail] :=
  linesFrom_of_splitOn List.not_mem_nil parts

theorem notMem_of_mem_linesFrom (free : lineFeed ∉ begun)
    (member : line ∈ linesFrom lineFeed carriageReturn begun text) : lineFeed ∉ line := by
  induction text generalizing begun with
  | nil =>
      rw [linesFrom] at member
      split at member
      · cases member
      · rw [List.mem_singleton.mp member, List.mem_reverse]
        exact free
  | cons unit later induction =>
      rw [linesFrom] at member
      split at member
      · rcases List.mem_cons.mp member with rfl | later
        · intro inLine
          exact free (List.mem_reverse.mp (dropReturn_subset inLine))
        · exact induction List.not_mem_nil later
      · rename_i other
        refine induction ?_ member
        intro inBegun
        rcases List.mem_cons.mp inBegun with same | before
        · exact other (beq_iff_eq.mpr same.symm)
        · exact free before

theorem notMem_of_mem_lines (member : line ∈ lines lineFeed carriageReturn text) :
    lineFeed ∉ line :=
  notMem_of_mem_linesFrom List.not_mem_nil member

theorem splitOn_ended {lines : List (List α)} (free : ∀ line ∈ lines, lineFeed ∉ line) :
    (lines.flatMap (· ++ [lineFeed])).splitOn lineFeed = lines ++ [[]] := by
  induction lines with
  | nil => rfl
  | cons line lines induction =>
      have lineFree : lineFeed ∉ line := free line List.mem_cons_self
      have othersFree : ∀ other ∈ lines, lineFeed ∉ other :=
        fun other member => free other (List.mem_cons_of_mem line member)
      rw [List.flatMap_cons, List.append_assoc, List.singleton_append,
        List.splitOn_append_cons_self_of_not_mem lineFree, induction othersFree,
        List.cons_append]

theorem lines_append_cons (free : lineFeed ∉ line) :
    lines lineFeed carriageReturn (line ++ lineFeed :: text) =
      dropReturn carriageReturn line :: lines lineFeed carriageReturn text := by
  obtain ⟨ended, tail, parts⟩ := @exists_splitOn α _ lineFeed text
  have whole : (line ++ lineFeed :: text).splitOn lineFeed = (line :: ended) ++ [tail] := by
    rw [List.splitOn_append_cons_self_of_not_mem free, parts, List.cons_append]
  rw [lines_of_splitOn parts, lines_of_splitOn whole, List.map_cons, List.cons_append]

/-- What no line feed ends is one line, kept whole. -/
theorem lines_of_notMem (free : lineFeed ∉ text) (nonempty : text ≠ []) :
    lines lineFeed carriageReturn text = [text] := by
  have parts : text.splitOn lineFeed = [] ++ [text] := List.splitOn_eq_singleton free
  rw [lines_of_splitOn parts, if_neg (by simpa using nonempty), List.map_nil, List.nil_append]

theorem dropReturn_concat : dropReturn carriageReturn (line ++ [carriageReturn]) = line := by
  rw [dropReturn, List.getLast?_concat, if_pos (beq_self_eq_true _), List.dropLast_concat]

theorem dropReturn_of_getLast? (last : line.getLast? ≠ some carriageReturn) :
    dropReturn carriageReturn line = line := by
  rw [dropReturn, if_neg]
  rw [beq_iff_eq]
  exact last

end

end LinkVetting.Text
