import LinkVetting.Proofs.RuleSet.Evaluation

/-!
# Rule sets put together

Rules that stand behind others are asked about the candidates that the others let
through, and nothing else changes for them than their places.  So acceptance depends on
which rules there are, and not on their order or on how often they stand in the set.
-/

namespace LinkVetting

/-- The verdict of rules that stand behind `count` other ones. -/
def Verdict.behind (count : Nat) : Verdict → Verdict
  | .accepted candidate => .accepted candidate
  | .rejected violation =>
      .rejected { violation with position := violation.position + count }

namespace Verdict

variable {first second : Nat} {verdict : Verdict}

@[simp]
theorem behind_zero : verdict.behind 0 = verdict := by
  cases verdict <;> rfl

@[simp]
theorem behind_behind : (verdict.behind first).behind second = verdict.behind (first + second) := by
  cases verdict with
  | accepted candidate => rfl
  | rejected violation => simp [behind, Nat.add_assoc]

end Verdict

namespace RuleSet

section

variable {rules front back : List Rule} {rule : Rule} {set other : RuleSet}
variable {start : Nat} {candidate : String}

/-- Where the rules stand changes nothing but the place that a verdict names. -/
theorem evaluateFrom_eq_behind :
    evaluateFrom start candidate rules = (evaluate ⟨rules⟩ candidate).behind start := by
  rw [evaluate]
  induction rules generalizing start with
  | nil => rfl
  | cons rule later induction =>
      by_cases passes : rule.passes candidate = true
      · rw [evaluateFrom, evaluateFrom, if_pos passes, if_pos passes,
          @induction (start + 1), @induction (0 + 1), Verdict.behind_behind, Nat.zero_add,
          Nat.add_comm start]
      · rw [evaluateFrom, evaluateFrom, if_neg passes, if_neg passes, Verdict.behind,
          Nat.zero_add]

theorem evaluate_cons :
    evaluate ⟨rule :: back⟩ candidate =
      if rule.passes candidate = true then (evaluate ⟨back⟩ candidate).behind 1
      else .rejected ⟨0, rule.name⟩ := by
  rw [evaluate, evaluateFrom, evaluateFrom_eq_behind]

theorem evaluate_append :
    evaluate ⟨front ++ back⟩ candidate =
      match evaluate ⟨front⟩ candidate with
      | .rejected violation => .rejected violation
      | .accepted _ => (evaluate ⟨back⟩ candidate).behind front.length := by
  induction front with
  | nil => exact Verdict.behind_zero.symm
  | cons rule front induction =>
      by_cases passes : rule.passes candidate = true
      · rw [List.cons_append, evaluate_cons, evaluate_cons, if_pos passes, if_pos passes,
          induction]
        cases evaluate ⟨front⟩ candidate with
        | accepted text => exact Verdict.behind_behind
        | rejected violation => rfl
      · rw [List.cons_append, evaluate_cons, evaluate_cons, if_neg passes, if_neg passes]

theorem isAccepted_of_subset (subset : other.rules ⊆ set.rules)
    (accepted : (set.evaluate candidate).isAccepted = true) :
    (other.evaluate candidate).isAccepted = true := by
  rw [isAccepted_evaluate_iff] at accepted ⊢
  exact fun rule member => accepted rule (subset member)

/-- The verdict of rules in two parts is that of the first part where it rejects the
candidate, and else that of the second part, as many places further on as the first part
has rules.  So a candidate is accepted exactly where each rule passes by itself, by any
rule set that has the same rules, in whatever order and however often, and no rule that
is added at some place lets a rejected candidate through. -/
theorem evaluation_composes :
    evaluate ⟨front ++ back⟩ candidate =
        (match evaluate ⟨front⟩ candidate with
        | .rejected violation => .rejected violation
        | .accepted _ => (evaluate ⟨back⟩ candidate).behind front.length) ∧
      ((set.evaluate candidate).isAccepted = true ↔
        ∀ rule ∈ set.rules, rule.passes candidate = true) ∧
      (∀ other : RuleSet, (∀ rule, rule ∈ other.rules ↔ rule ∈ set.rules) →
        (other.evaluate candidate).isAccepted = (set.evaluate candidate).isAccepted) ∧
      ∀ rule, (evaluate ⟨front ++ back⟩ candidate).isAccepted = false →
        (evaluate ⟨front ++ rule :: back⟩ candidate).isAccepted = false := by
  refine ⟨evaluate_append, isAccepted_evaluate_iff, ?_, ?_⟩
  · intro other same
    rw [Bool.eq_iff_iff]
    constructor
    · exact isAccepted_of_subset fun rule => (same rule).mpr
    · exact isAccepted_of_subset fun rule => (same rule).mp
  · intro rule rejected
    rw [← Bool.not_eq_true] at rejected ⊢
    have subset : front ++ back ⊆ front ++ rule :: back := by
      simp
    exact fun accepted => rejected
      (@isAccepted_of_subset ⟨front ++ rule :: back⟩ ⟨front ++ back⟩ _ subset accepted)

/-- Rules of one name are told apart by their places. -/
theorem evaluation_composes_same_name :
    let slash : Rule :=
      { name := "shape", purpose := "", pattern := "/", expectation := .mustMatch
        expression := .set (· == '/') }
    let noDigit : Rule :=
      { name := "shape", purpose := "", pattern := "[0-9]", expectation := .mustNotMatch
        expression := .set Char.isDigit }
    evaluate ⟨[slash] ++ [slash, noDigit]⟩ "/1" = .rejected ⟨2, "shape"⟩ ∧
      (evaluate ⟨[noDigit, slash, slash]⟩ "/1").isAccepted =
        (evaluate ⟨[slash, noDigit]⟩ "/1").isAccepted ∧
      (evaluate ⟨[slash] ++ noDigit :: [slash, noDigit]⟩ "/1").isAccepted = false := by
  intro slash noDigit
  obtain ⟨parts, _, rearranged, added⟩ :=
    @evaluation_composes [slash] [slash, noDigit] ⟨[slash, noDigit]⟩ "/1"
  have verdict : evaluate ⟨[slash] ++ [slash, noDigit]⟩ "/1" = .rejected ⟨2, "shape"⟩ :=
    parts.trans (by decide)
  refine ⟨verdict, rearranged ⟨[noDigit, slash, slash]⟩ ?_, added noDigit ?_⟩
  · intro rule
    simp [or_comm]
  · rw [verdict]
    rfl

end

end RuleSet

end LinkVetting
