import LinkVetting.Proofs.Catalogue.Acceptance
import LinkVetting.Proofs.Text.Lines
import LinkVetting.Report

/-!
# Lines of the plain report

The plain report writes the sanitized text of each candidate and a line feed.
Its lines answer the candidates one by one as long as no accepted candidate
holds a line feed itself.  The built-in rules do accept such candidates, so the
condition is part of the statement.
-/

namespace LinkVetting

namespace Text

theorem length_splitOn {separator : Char} {text : List Char} :
    (text.splitOn separator).length = text.count separator + 1 := by
  induction text with
  | nil => simp
  | cons c text induction =>
      rw [List.splitOn_cons_eq_if_modifyHead, List.count_cons]
      split
      · simp [induction]
      · simp [induction]

private theorem length_le_count_ended {lines : List (List Char)} :
    lines.length ≤ (lines.flatMap (· ++ ['\n'])).count '\n' := by
  induction lines with
  | nil => exact Nat.le_refl 0
  | cons line lines induction =>
      simp only [List.flatMap_cons, List.length_cons, List.count_append,
        List.count_singleton_self]
      omega

private theorem free_of_count_ended {lines : List (List Char)}
    (counted : (lines.flatMap (· ++ ['\n'])).count '\n' = lines.length) :
    ∀ line ∈ lines, '\n' ∉ line := by
  induction lines with
  | nil => simp
  | cons line lines induction =>
      simp only [List.flatMap_cons, List.length_cons, List.count_append,
        List.count_singleton_self] at counted
      have atLeast := @length_le_count_ended lines
      have lineFree : '\n' ∉ line := List.count_eq_zero.mp (by omega)
      have othersFree := induction (by omega)
      simpa using ⟨lineFree, othersFree⟩

/-- Lines that are ended one by one are the lines of the text exactly when none
of them holds a line feed. -/
theorem splitOn_ended_iff {lines : List (List Char)} :
    (lines.flatMap (· ++ ['\n'])).splitOn '\n' = lines ++ [[]] ↔
      ∀ line ∈ lines, '\n' ∉ line := by
  constructor
  · intro split
    have lengths := congrArg List.length split
    rw [length_splitOn, List.length_append, List.length_singleton] at lengths
    exact free_of_count_ended (Nat.succ.inj lengths)
  · exact splitOn_ended

end Text

theorem Outcome.mem_sanitized_iff {set : RuleSet} {candidate : Candidate} {c : Char} :
    c ∈ (Outcome.ofCandidate set candidate).sanitized.toList ↔
      candidate.isText = true ∧ (set.evaluate candidate.value).isAccepted = true ∧
        c ∈ candidate.value.toList := by
  rw [Outcome.ofCandidate]
  by_cases isText : candidate.isText = true
  · simp only [isText, if_true, true_and, RuleSet.check]
    cases verdict : set.evaluate candidate.value with
    | accepted text =>
        obtain ⟨rfl, _⟩ := RuleSet.evaluate_accepted_iff.mp verdict
        simp [Verdict.safeText, Verdict.isAccepted]
    | rejected violation => simp [Verdict.safeText, Verdict.isAccepted]
  · simp [isText]

namespace Report

/-- The plain report has one line for each candidate, its sanitized text, if and
only if no accepted candidate holds a line feed. -/
theorem splitOn_plain_text_iff {candidates : List Candidate} :
    ((ofCandidates RuleSet.builtin candidates).text false).splitOn '\n' =
        (candidates.map fun candidate =>
          (Outcome.ofCandidate RuleSet.builtin candidate).sanitized.toList) ++ [[]] ↔
      ∀ candidate ∈ candidates, candidate.isText = true →
        Catalogue.Acceptable candidate.value.toList → '\n' ∉ candidate.value.toList := by
  have text : (ofCandidates RuleSet.builtin candidates).text false =
      (candidates.map fun candidate => (Outcome.ofCandidate RuleSet.builtin
        candidate).sanitized.toList).flatMap (· ++ ['\n']) := by
    simp only [Report.text, ofCandidates, List.flatMap_map, Outcome.line]
    rfl
  rw [text, Text.splitOn_ended_iff]
  simp only [List.forall_mem_map, Outcome.mem_sanitized_iff,
    Catalogue.builtin_isAccepted_iff, not_and]

theorem splitOn_plain_text_of_line_feed :
    ((ofCandidates RuleSet.builtin
        (Candidate.ofArguments ["/a\n/b"])).text false).splitOn '\n' ≠
      ((Candidate.ofArguments ["/a\n/b"]).map fun candidate =>
        (Outcome.ofCandidate RuleSet.builtin candidate).sanitized.toList) ++ [[]] := by
  rw [Catalogue.builtin_rules]
  decide +kernel

end Report

end LinkVetting
