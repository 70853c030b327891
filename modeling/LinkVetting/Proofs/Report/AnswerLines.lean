import LinkVetting.Proofs.Json.RoundTrip
import LinkVetting.Proofs.Report.PlainLines
import LinkVetting.Proofs.Report.Rejections
import LinkVetting.Proofs.Text.Decoding
import LinkVetting.Proofs.Text.Lines

/-!
# One line for each candidate

A report in JSON has one line for each candidate, whatever the candidates hold,
and every line reads back as what the rule set says about its candidate.  A
plain report on the lines of a byte string has one line for each of them.
-/

namespace LinkVetting

namespace Candidate

section

variable {α : Type} {make : Nat → α → Candidate} {place : Nat} {values : List α}
variable {candidate : Candidate} {bytes : List UInt8}

theorem length_numbered : (numbered make place values).length = values.length := by
  induction values generalizing place with
  | nil => rfl
  | cons value later induction => simp [numbered, induction]

theorem exists_of_mem_numbered (member : candidate ∈ numbered make place values) :
    ∃ other value, value ∈ values ∧ candidate = make other value := by
  induction values generalizing place with
  | nil => cases member
  | cons value later induction =>
      rcases List.mem_cons.mp member with same | others
      · exact ⟨place, value, List.mem_cons_self, same⟩
      · obtain ⟨other, found, inLater, same⟩ := induction others
        exact ⟨other, found, List.mem_cons_of_mem value inLater, same⟩

theorem lineFeed_notMem_value (member : candidate ∈ ofBytes bytes)
    (isText : candidate.isText = true) : '\n' ∉ candidate.value.toList := by
  obtain ⟨place, line, inLines, rfl⟩ := exists_of_mem_numbered member
  intro inValue
  rw [ofLine] at isText inValue
  cases decoded : Text.Utf8.decode? line with
  | none =>
      rw [decoded] at isText
      cases isText
  | some text =>
      simp only [decoded, String.toList_ofList] at inValue
      exact Text.notMem_of_mem_lines inLines
        (Text.Utf8.lineFeed_mem_of_decode? decoded inValue)

end

end Candidate

namespace RuleSet

/-- What a line of a report in JSON says about a candidate. -/
def answer (set : RuleSet) (candidate : Candidate) : Json :=
  match set.rejectingRule? candidate with
  | none =>
      .object [("accepted", .bool true), ("candidate", .string candidate.value),
        ("sanitized", .string candidate.value)]
  | some rule =>
      .object [("accepted", .bool false), ("candidate", .string candidate.value),
        ("rule", .string rule), ("sanitized", .string "")]

end RuleSet

namespace Outcome

theorem fits_toJson {outcome : Outcome} : Json.Fits Json.depthLimit outcome.toJson := by
  refine Json.Fits.object fun member inMembers => ?_
  cases rule : outcome.rule with
  | none =>
      simp only [rule, List.append_nil, List.mem_cons, List.not_mem_nil, or_false]
        at inMembers
      rcases inMembers with rfl | rfl | rfl
      · exact .string
      · exact .string
      · exact .bool
  | some rule =>
      simp only [rule, List.cons_append, List.nil_append, List.mem_cons, List.not_mem_nil,
        or_false] at inMembers
      rcases inMembers with rfl | rfl | rfl | rfl
      · exact .string
      · exact .string
      · exact .bool
      · exact .string

theorem sorted_toJson {set : RuleSet} {candidate : Candidate} :
    (ofCandidate set candidate).toJson.sorted = set.answer candidate := by
  rw [RuleSet.ofCandidate_eq, toJson, RuleSet.answer, RuleSet.allowedText]
  cases set.rejectingRule? candidate with
  | none => rfl
  | some rule => rfl

theorem read_toJson {set : RuleSet} {candidate : Candidate} :
    Json.read (ofCandidate set candidate).toJson.compactChars = .ok (set.answer candidate) := by
  rw [Json.read_compactChars fits_toJson, sorted_toJson]

end Outcome

namespace Report

section

variable {set : RuleSet} {candidates : List Candidate} {bytes : List UInt8}

theorem text_json :
    (ofCandidates set candidates).text true =
      (candidates.map fun candidate =>
        (Outcome.ofCandidate set candidate).toJson.compactChars).flatMap (· ++ ['\n']) := by
  simp only [text, ofCandidates, List.flatMap_map, Outcome.line]
  rfl

theorem text_plain :
    (ofCandidates set candidates).text false =
      (candidates.map fun candidate => (set.allowedText candidate).toList).flatMap
        (· ++ ['\n']) := by
  simp only [text, ofCandidates, List.flatMap_map, Outcome.line, RuleSet.ofCandidate_eq]
  rfl

/-- The lines of a report in JSON say of each candidate what the rule set says. -/
theorem exists_lines_json :
    ∃ lines, ((ofCandidates set candidates).text true).splitOn '\n' = lines ++ [[]] ∧
      lines.map Json.read = candidates.map fun candidate => .ok (set.answer candidate) := by
  refine ⟨candidates.map fun candidate =>
    (Outcome.ofCandidate set candidate).toJson.compactChars, ?_, ?_⟩
  · rw [text_json, Text.splitOn_ended_iff]
    intro line member
    obtain ⟨candidate, _, rfl⟩ := List.mem_map.mp member
    exact (Json.hasNoControls_compactChars _).lineFeed_notMem
  · rw [List.map_map]
    exact List.map_congr_left fun candidate _ => Outcome.read_toJson

theorem splitOn_text_ofBytes :
    ((ofCandidates set (Candidate.ofBytes bytes)).text false).splitOn '\n' =
      ((Candidate.ofBytes bytes).map fun candidate =>
        (set.allowedText candidate).toList) ++ [[]] := by
  rw [text_plain, Text.splitOn_ended_iff]
  intro line member
  obtain ⟨candidate, inCandidates, rfl⟩ := List.mem_map.mp member
  -- a sanitized text with a line feed is that of a candidate that is text
  have same : set.allowedText candidate = (Outcome.ofCandidate set candidate).sanitized := by
    rw [RuleSet.ofCandidate_eq]
  intro inLine
  rw [same] at inLine
  obtain ⟨isText, _, inValue⟩ := Outcome.mem_sanitized_iff.mp inLine
  exact Candidate.lineFeed_notMem_value inCandidates isText inValue

/-- A report has one line for each candidate: in JSON for all candidates, where
each line reads back as the answer to its candidate, and in plain form for those
on the lines of a byte string, where each line is what may be used in place of
its candidate. -/
theorem lines_answer_candidates :
    (∃ lines, ((ofCandidates set candidates).text true).splitOn '\n' = lines ++ [[]] ∧
        lines.map Json.read = candidates.map fun candidate => .ok (set.answer candidate)) ∧
      ((ofCandidates set (Candidate.ofBytes bytes)).text false).splitOn '\n' =
          ((Candidate.ofBytes bytes).map fun candidate =>
            (set.allowedText candidate).toList) ++ [[]] ∧
        ∃ ended tail, bytes.splitOn 0x0A = ended ++ [tail] ∧
          (Candidate.ofBytes bytes).length =
            ended.length + if tail.isEmpty then 0 else 1 := by
  refine ⟨exists_lines_json, splitOn_text_ofBytes, ?_⟩
  obtain ⟨ended, tail, parts⟩ := @Text.exists_splitOn UInt8 _ 0x0A bytes
  refine ⟨ended, tail, parts, ?_⟩
  rw [Candidate.ofBytes, Candidate.length_numbered, Text.lines_of_splitOn parts,
    List.length_append, List.length_map]
  split
  · rfl
  · rfl

end

end Report

end LinkVetting
