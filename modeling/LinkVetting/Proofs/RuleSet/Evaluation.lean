import LinkVetting.RuleSet

/-!
# Evaluation of a rule set

A candidate is accepted when every rule passes, and rejected at the place of the
first rule that fails.  From this, two candidates are compared: when the rules
that fail on one of them fail on the other, the other is rejected no later.
-/

namespace LinkVetting

namespace RuleSet

section

variable {rules : List Rule} {set : RuleSet} {start : Nat} {candidate : String}

theorem evaluateFrom_accepted_iff {text : String} :
    evaluateFrom start candidate rules = .accepted text ↔
      text = candidate ∧ ∀ rule ∈ rules, rule.passes candidate = true := by
  induction rules generalizing start with
  | nil =>
      constructor
      · intro accepted
        cases accepted
        exact ⟨rfl, by simp⟩
      · intro answer
        obtain ⟨rfl, _⟩ := answer
        rfl
  | cons rule rules induction =>
      by_cases passes : rule.passes candidate = true
      · simp [evaluateFrom, passes, induction]
      · simp [evaluateFrom, passes]

theorem evaluateFrom_rejected_iff {violation : Violation} :
    evaluateFrom start candidate rules = .rejected violation ↔
      ∃ earlier rule later, rules = earlier ++ rule :: later ∧
        (∀ passed ∈ earlier, passed.passes candidate = true) ∧
          rule.passes candidate = false ∧
            violation = ⟨start + earlier.length, rule.name⟩ := by
  induction rules generalizing start with
  | nil => simp [evaluateFrom]
  | cons rule rules induction =>
      by_cases passes : rule.passes candidate = true
      · rw [evaluateFrom, if_pos passes, induction]
        constructor
        · intro answer
          obtain ⟨earlier, failing, later, rfl, allPass, fails, rfl⟩ := answer
          have alsoPass : ∀ passed ∈ rule :: earlier, passed.passes candidate = true := by
            simpa [passes] using allPass
          exact ⟨rule :: earlier, failing, later, rfl, alsoPass, fails, by
            simp [Nat.add_assoc, Nat.add_comm 1]⟩
        · intro answer
          obtain ⟨earlier, failing, later, cut, allPass, fails, rfl⟩ := answer
          cases earlier with
          | nil =>
              obtain ⟨rfl, _⟩ := List.cons.inj cut
              rw [passes] at fails
              cases fails
          | cons first earlier =>
              obtain ⟨rfl, rfl⟩ := List.cons.inj cut
              have laterPass : ∀ passed ∈ earlier, passed.passes candidate = true :=
                fun passed member => allPass passed (List.mem_cons_of_mem rule member)
              exact ⟨earlier, failing, later, rfl, laterPass, fails, by
                simp [Nat.add_assoc, Nat.add_comm 1]⟩
      · have fails : rule.passes candidate = false := by simpa using passes
        rw [evaluateFrom, if_neg passes]
        constructor
        · intro rejected
          cases rejected
          exact ⟨[], rule, rules, rfl, by simp, fails, rfl⟩
        · intro answer
          obtain ⟨earlier, failing, later, cut, allPass, _, rfl⟩ := answer
          cases earlier with
          | nil =>
              obtain ⟨rfl, _⟩ := List.cons.inj cut
              rfl
          | cons first earlier =>
              obtain ⟨rfl, _⟩ := List.cons.inj cut
              exact absurd (allPass rule List.mem_cons_self) passes

theorem evaluate_accepted_iff {text : String} :
    set.evaluate candidate = .accepted text ↔
      text = candidate ∧ ∀ rule ∈ set.rules, rule.passes candidate = true :=
  evaluateFrom_accepted_iff

theorem evaluate_rejected_iff {violation : Violation} :
    set.evaluate candidate = .rejected violation ↔
      ∃ earlier rule later, set.rules = earlier ++ rule :: later ∧
        (∀ passed ∈ earlier, passed.passes candidate = true) ∧
          rule.passes candidate = false ∧
            violation = ⟨earlier.length, rule.name⟩ := by
  rw [evaluate, evaluateFrom_rejected_iff]
  simp

theorem isAccepted_evaluate_iff :
    (set.evaluate candidate).isAccepted = true ↔
      ∀ rule ∈ set.rules, rule.passes candidate = true := by
  constructor
  · intro accepted
    cases verdict : set.evaluate candidate with
    | accepted text => exact (evaluate_accepted_iff.mp verdict).2
    | rejected violation =>
        rw [verdict] at accepted
        cases accepted
  · intro passes
    rw [evaluate_accepted_iff.mpr ⟨rfl, passes⟩]
    rfl

theorem evaluate_of_same_passes {other : String}
    (same : ∀ rule ∈ set.rules, rule.passes other = rule.passes candidate) :
    (set.evaluate candidate = .accepted candidate ∧ set.evaluate other = .accepted other) ∨
      ∃ violation, set.evaluate candidate = .rejected violation ∧
        set.evaluate other = .rejected violation := by
  cases verdict : set.evaluate candidate with
  | accepted text =>
      obtain ⟨rfl, passes⟩ := evaluate_accepted_iff.mp verdict
      have passesOther : ∀ rule ∈ set.rules, rule.passes other = true := by
        intro rule member
        rw [same rule member]
        exact passes rule member
      exact Or.inl ⟨rfl, evaluate_accepted_iff.mpr ⟨rfl, passesOther⟩⟩
  | rejected violation =>
      obtain ⟨earlier, rule, later, cut, passed, fails, rfl⟩ :=
        evaluate_rejected_iff.mp verdict
      have passedOther : ∀ rule ∈ earlier, rule.passes other = true := by
        intro rule member
        rw [same rule (by simp [cut, member])]
        exact passed rule member
      have failsOther : rule.passes other = false := by
        rw [same rule (by simp [cut])]
        exact fails
      exact Or.inr ⟨_, rfl, evaluate_rejected_iff.mpr
        ⟨earlier, rule, later, cut, passedOther, failsOther, rfl⟩⟩

/-- Where the rules that pass one candidate pass another, a rejection of the
other is a rejection of the one, at the same rule or an earlier one. -/
theorem rejected_no_later {other : String}
    (passesToo : ∀ rule ∈ set.rules,
      rule.passes other = true → rule.passes candidate = true)
    {violation : Violation} (rejected : set.evaluate candidate = .rejected violation) :
    ∃ earliest, set.evaluate other = .rejected earliest ∧
      earliest.position ≤ violation.position := by
  obtain ⟨earlier, rule, later, cut, _, fails, rfl⟩ := evaluate_rejected_iff.mp rejected
  have member : rule ∈ set.rules := by simp [cut]
  have failsOther : rule.passes other = false := by
    rw [← Bool.not_eq_true] at fails ⊢
    exact fun passes => fails (passesToo rule member passes)
  cases verdict : set.evaluate other with
  | accepted text =>
      have passes := (evaluate_accepted_iff.mp verdict).2 rule member
      rw [failsOther] at passes
      cases passes
  | rejected earliest =>
      refine ⟨earliest, rfl, ?_⟩
      obtain ⟨front, first, back, firstCut, frontPass, _, rfl⟩ :=
        evaluate_rejected_iff.mp verdict
      -- the rules before the first failure pass, so it stands at `rule` or before
      refine Nat.le_of_not_lt fun longer => ?_
      have inFront : rule ∈ front := by
        have place : set.rules[earlier.length]? = some rule := by simp [cut]
        rw [firstCut, List.getElem?_append_left longer] at place
        exact List.mem_of_getElem? place
      have passes := frontPass rule inFront
      rw [failsOther] at passes
      cases passes

end

end RuleSet

namespace LinkTarget

theorem ofSanitized_navigable_iff {text href : String} :
    ofSanitized text = .navigable href ↔ href = text ∧ text ≠ "" := by
  rw [ofSanitized]
  split
  · rename_i empty
    simp [String.isEmpty_iff.mp empty]
  · rename_i nonempty
    have different : text ≠ "" := fun empty => nonempty (String.isEmpty_iff.mpr empty)
    simp [different, eq_comm]

theorem ofCandidate_navigable_iff {set : RuleSet} {candidate href : String} :
    ofCandidate set candidate = .navigable href ↔
      href = candidate ∧ candidate ≠ "" ∧
        ∀ rule ∈ set.rules, rule.passes candidate = true := by
  rw [ofCandidate, RuleSet.sanitize, ofSanitized_navigable_iff]
  cases verdict : set.evaluate candidate with
  | accepted text =>
      obtain ⟨rfl, passes⟩ := RuleSet.evaluate_accepted_iff.mp verdict
      rw [Verdict.safeText]
      exact ⟨fun ⟨same, nonempty⟩ => ⟨same, nonempty, passes⟩,
        fun ⟨same, nonempty, _⟩ => ⟨same, nonempty⟩⟩
  | rejected violation =>
      constructor
      · intro answer
        obtain ⟨_, nonempty⟩ := answer
        exact absurd rfl nonempty
      · intro answer
        obtain ⟨_, _, passes⟩ := answer
        have accepted := RuleSet.isAccepted_evaluate_iff.mpr passes
        rw [verdict] at accepted
        cases accepted

end LinkTarget

end LinkVetting
