import LinkVetting.Event
import LinkVetting.Proofs.Catalogue.Acceptance

/-!
# Views of a verdict

A verdict is seen as itself, as a text that may be used in place of the candidate,
and as a link target.  The three agree for every rule set; the empty text stands for
a rejection, and under the built-in rules for nothing else.
-/

namespace LinkVetting

section

variable {set : RuleSet} {candidate : String}

theorem RuleSet.fst_check : (set.check candidate).1 = set.evaluate candidate := rfl

theorem RuleSet.sanitize_eq :
    set.sanitize candidate =
      if (set.evaluate candidate).isAccepted = true then candidate else "" := by
  rw [sanitize]
  cases verdict : set.evaluate candidate with
  | accepted text =>
      obtain ⟨rfl, _⟩ := evaluate_accepted_iff.mp verdict
      rfl
  | rejected violation => rfl

/-- A rejected candidate leaves the empty text, which is left as it is whether or not the
rules accept it. -/
theorem RuleSet.sanitize_sanitize :
    set.sanitize (set.sanitize candidate) = set.sanitize candidate := by
  by_cases accepted : (set.evaluate candidate).isAccepted = true
  · have unchanged : set.sanitize candidate = candidate := by
      rw [sanitize_eq, if_pos accepted]
    rw [unchanged, unchanged]
  · have empty : set.sanitize candidate = "" := by
      rw [sanitize_eq, if_neg accepted]
    rw [empty, sanitize_eq, ite_self]

theorem LinkTarget.ofCandidate_eq :
    LinkTarget.ofCandidate set candidate =
      if (set.evaluate candidate).isAccepted = true ∧ candidate ≠ "" then .navigable candidate
      else .placeholder := by
  split
  · rename_i vetted
    obtain ⟨accepted, nonempty⟩ := vetted
    have passes := RuleSet.isAccepted_evaluate_iff.mp accepted
    exact ofCandidate_navigable_iff.mpr ⟨rfl, nonempty, passes⟩
  · rename_i notVetted
    cases target : LinkTarget.ofCandidate set candidate with
    | placeholder => rfl
    | navigable href =>
        obtain ⟨_, nonempty, passes⟩ := ofCandidate_navigable_iff.mp target
        exact absurd ⟨RuleSet.isAccepted_evaluate_iff.mpr passes, nonempty⟩ notVetted

/-- The built-in rules do not accept the empty text: it has no shape. -/
theorem Catalogue.nonempty_of_builtin_accepted
    (accepted : (RuleSet.builtin.evaluate candidate).isAccepted = true) : candidate ≠ "" := by
  intro empty
  have acceptable := builtin_isAccepted_iff.mp accepted
  exact acceptable.webShape.1 (by rw [empty]; rfl)

end

/-- The verdict on a candidate, the text that may be used in its place and the link target
say the same.  A text that may be used is left as it is when it is vetted again.  Under
the built-in rules a candidate is accepted exactly where some text may be used, and
exactly where there is a link. -/
theorem Verdict.views_agree {set : RuleSet} {candidate : String} :
    set.sanitize candidate =
        (if (set.check candidate).1.isAccepted = true then candidate else "") ∧
      (set.check candidate).1.safeText = set.sanitize candidate ∧
      set.sanitize (set.sanitize candidate) = set.sanitize candidate ∧
      LinkTarget.ofCandidate set candidate =
        (if (set.check candidate).1.isAccepted = true ∧ candidate ≠ "" then
          .navigable candidate else .placeholder) ∧
      ((RuleSet.builtin.check candidate).1.isAccepted = true ↔
        RuleSet.builtin.sanitize candidate ≠ "") ∧
      (RuleSet.builtin.sanitize candidate ≠ "" ↔
        (LinkTarget.ofCandidate RuleSet.builtin candidate).isNavigable = true) := by
  have sanitized := @RuleSet.sanitize_eq RuleSet.builtin candidate
  have target := @LinkTarget.ofCandidate_eq RuleSet.builtin candidate
  rw [RuleSet.fst_check, RuleSet.fst_check]
  refine ⟨RuleSet.sanitize_eq, rfl, RuleSet.sanitize_sanitize, LinkTarget.ofCandidate_eq, ?_⟩
  by_cases accepted : (RuleSet.builtin.evaluate candidate).isAccepted = true
  · have nonempty := Catalogue.nonempty_of_builtin_accepted accepted
    rw [if_pos accepted] at sanitized
    rw [if_pos ⟨accepted, nonempty⟩] at target
    rw [sanitized, target]
    exact ⟨iff_of_true accepted nonempty, iff_of_true nonempty rfl⟩
  · rw [if_neg accepted] at sanitized
    rw [if_neg fun vetted => accepted vetted.1] at target
    rw [sanitized, target]
    exact ⟨iff_of_false accepted fun some => some rfl,
      iff_of_false (fun some => some rfl) Bool.false_ne_true⟩

end LinkVetting
