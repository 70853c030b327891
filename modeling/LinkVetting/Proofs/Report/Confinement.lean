import Mathlib.Data.List.Forall2
import LinkVetting.Proofs.Report.Channels

/-!
# Rejected texts stay out of the plain report

The plain report and the counts show of a rejected candidate only that it was
rejected.  Two lists of candidates that agree wherever a candidate is accepted
therefore have the same plain report, whatever their rejected candidates hold and
whatever they are rejected for.
-/

namespace LinkVetting

namespace RuleSet

/-- A candidate that is not text or that a rule fails on. -/
def Rejects (set : RuleSet) (candidate : Candidate) : Prop :=
  candidate.isText = false ∨
    ∃ violation, set.evaluate candidate.value = .rejected violation

/-- Two candidates that hold the same, wherever they come from, or that are both
rejected, for whatever reason. -/
def Indistinct (set : RuleSet) (left right : Candidate) : Prop :=
  (left.value = right.value ∧ left.isText = right.isText) ∨
    (set.Rejects left ∧ set.Rejects right)

end RuleSet

namespace Outcome

variable {set : RuleSet} {candidate left right : Candidate}

theorem plain_line_of_rejects (rejects : set.Rejects candidate) :
    (ofCandidate set candidate).line false = ['\n'] ∧
      (ofCandidate set candidate).isRejected = true := by
  rcases rejects with noText | ⟨violation, rejected⟩
  · simp [ofCandidate, line, body, isRejected, noText]
  · by_cases isText : candidate.isText = true
    · simp [ofCandidate, line, body, isRejected, isText, RuleSet.check, rejected, Verdict.safeText,
        Verdict.violation?]
    · simp [ofCandidate, line, body, isRejected, isText]

theorem plain_line_of_indistinct (indistinct : set.Indistinct left right) :
    (ofCandidate set left).line false = (ofCandidate set right).line false ∧
      (ofCandidate set left).isRejected = (ofCandidate set right).isRejected := by
  rcases indistinct with ⟨sameValue, sameKind⟩ | ⟨rejectsLeft, rejectsRight⟩
  · rw [ofCandidate, ofCandidate, sameValue, sameKind]
    split
    · exact ⟨rfl, rfl⟩
    · exact ⟨rfl, rfl⟩
  · obtain ⟨emptyLeft, countedLeft⟩ := plain_line_of_rejects rejectsLeft
    obtain ⟨emptyRight, countedRight⟩ := plain_line_of_rejects rejectsRight
    rw [emptyLeft, emptyRight, countedLeft, countedRight]
    exact ⟨rfl, rfl⟩

end Outcome

namespace Report

variable {set : RuleSet} {left right : List Candidate}

theorem text_and_rejected_of_indistinct
    (indistinct : List.Forall₂ set.Indistinct left right) :
    (ofCandidates set left).text false = (ofCandidates set right).text false ∧
      (ofCandidates set left).rejected = (ofCandidates set right).rejected := by
  induction indistinct with
  | nil => exact ⟨rfl, rfl⟩
  | cons head _ induction =>
      obtain ⟨sameLines, sameCount⟩ := induction
      obtain ⟨line, counted⟩ := Outcome.plain_line_of_indistinct head
      simp only [text, rejected, ofCandidates] at sameLines sameCount ⊢
      constructor
      · rw [List.map_cons, List.map_cons, List.flatMap_cons, List.flatMap_cons, line,
          sameLines]
      · rw [List.map_cons, List.map_cons, List.countP_cons, List.countP_cons, counted,
          sameCount]

/-- A plain report and its counts do not tell rejected candidates apart. -/
theorem plain_report_of_indistinct (indistinct : List.Forall₂ set.Indistinct left right) :
    (ofCandidates set left).text false = (ofCandidates set right).text false ∧
      (ofCandidates set left).checked = (ofCandidates set right).checked ∧
        (ofCandidates set left).rejected = (ofCandidates set right).rejected := by
  obtain ⟨sameText, sameCount⟩ := text_and_rejected_of_indistinct indistinct
  refine ⟨sameText, ?_, sameCount⟩
  rw [checked_ofCandidates, checked_ofCandidates]
  exact indistinct.length_eq

theorem plain_report_of_indistinct_undecodable :
    let page : Candidate := { source := "argv:1", value := "https://a" }
    let script : Candidate := { source := "argv:2", value := "javascript:x" }
    let broken : Candidate := { source := "stdin:2", value := "/b\uFFFD", isText := false }
    List.Forall₂ RuleSet.builtin.Indistinct [page, script] [page, broken] ∧
      (ofCandidates RuleSet.builtin [page, script]).text false =
        (ofCandidates RuleSet.builtin [page, broken]).text false := by
  intro page script broken
  have rejected : RuleSet.builtin.evaluate script.value =
      .rejected ⟨1, "denylisted_scheme"⟩ := by
    rw [Catalogue.builtin_rules]
    decide +kernel
  have indistinct :
      List.Forall₂ RuleSet.builtin.Indistinct [page, script] [page, broken] :=
    .cons (Or.inl ⟨rfl, rfl⟩) (.cons (Or.inr ⟨Or.inr ⟨_, rejected⟩, Or.inl rfl⟩) .nil)
  exact ⟨indistinct, (plain_report_of_indistinct indistinct).1⟩

end Report

end LinkVetting
