import LinkVetting.Proofs.RuleSet.Evaluation
import LinkVetting.Report

/-!
# Rejections

The rule that rejects a candidate, if there is one, settles its outcome: the
text that may be used instead, the event, and the record.  So the rejections
among some candidates settle everything that a report says about them.
-/

namespace LinkVetting

namespace RuleSet

/-- The rule that rejects a candidate: the first one that fails on a text. -/
def rejectingRule? (set : RuleSet) (candidate : Candidate) : Option String :=
  if candidate.isText then
    (set.rules.find? fun rule => !rule.passes candidate.value).map (·.name)
  else some "invalid_utf8"

/-- The rejected ones among some candidates, in order, each with the rule that
rejects it. -/
def rejections (set : RuleSet) (candidates : List Candidate) : List (Candidate × String) :=
  candidates.filterMap fun candidate =>
    (set.rejectingRule? candidate).map fun rule => (candidate, rule)

/-- What may be used in place of a candidate: itself, unless it is rejected. -/
def allowedText (set : RuleSet) (candidate : Candidate) : String :=
  match set.rejectingRule? candidate with
  | none => candidate.value
  | some _ => ""

/-- The warning about a candidate that is rejected by a rule. -/
def warning (set : RuleSet) (candidate : Candidate) (rule : String) : Event :=
  if candidate.isText then
    .targetRejected candidate.value
      { position := set.rules.findIdx fun rule => !rule.passes candidate.value, rule }
  else .candidateUndecodable candidate.source

/-- The event of vetting a candidate. -/
def vettingEvent (set : RuleSet) (candidate : Candidate) : Event :=
  match set.rejectingRule? candidate with
  | none => .targetAccepted candidate.value
  | some rule => set.warning candidate rule

section

variable {rules : List Rule} {set : RuleSet} {start : Nat} {text : String}
variable {candidate : Candidate} {candidates : List Candidate}

theorem evaluateFrom_eq_find? :
    evaluateFrom start text rules =
      match rules.find? fun rule => !rule.passes text with
      | none => .accepted text
      | some rule => .rejected
          ⟨start + rules.findIdx fun rule => !rule.passes text, rule.name⟩ := by
  induction rules generalizing start with
  | nil => rfl
  | cons rule later induction =>
      by_cases passes : rule.passes text = true
      · rw [evaluateFrom, if_pos passes, induction]
        simp only [List.find?_cons, List.findIdx_cons, passes, Bool.not_true, cond_false]
        cases later.find? fun rule => !rule.passes text with
        | none => rfl
        | some failing => simp [Nat.add_assoc, Nat.add_comm 1]
      · have fails : rule.passes text = false := by simpa using passes
        simp [evaluateFrom, List.findIdx_cons, fails]

theorem ofCandidate_eq :
    Outcome.ofCandidate set candidate =
      { candidate
        sanitized := set.allowedText candidate
        rule := set.rejectingRule? candidate
        event := set.vettingEvent candidate } := by
  by_cases isText : candidate.isText = true
  · simp only [Outcome.ofCandidate, allowedText, vettingEvent, warning, rejectingRule?, isText,
      if_true, check, evaluate, evaluateFrom_eq_find?]
    cases set.rules.find? fun rule => !rule.passes candidate.value with
    | none => rfl
    | some rule => simp [Verdict.safeText, Verdict.violation?, Event.ofVerdict]
  · have noText : candidate.isText = false := by simpa using isText
    simp [Outcome.ofCandidate, allowedText, vettingEvent, warning, rejectingRule?, noText,
      invalidTextRule]

theorem mem_rejections_of_not_isText (member : candidate ∈ candidates)
    (noText : candidate.isText = false) :
    (candidate, "invalid_utf8") ∈ set.rejections candidates := by
  refine List.mem_filterMap.mpr ⟨candidate, member, ?_⟩
  simp [rejectingRule?, noText]

end

end RuleSet

end LinkVetting
