import LinkVetting.Event
import LinkVetting.Proofs.Text.Quotes

/-!
# What a check logs

A check is reported by one event, which tells the verdict and shows the candidate in
quotes.  No candidate can pass for another one in it, or for a part of the event that the
candidate does not make up.
-/

namespace LinkVetting

/-- An event tells the verdict on a candidate, in fields of which the first shows the
candidate. -/
inductive Event.Tells (event : Event) (shown : String) : Verdict → Prop where
  | acceptance {candidate : String} : event.level = .debug →
      event.message = "link target accepted" →
      event.fields = [("candidate", .string shown)] → event.Tells shown (.accepted candidate)
  | rejection {violation : Violation} : event.level = .warn →
      event.message = "suspicious link target rejected" →
      event.fields = [("candidate", .string shown), ("rule", .string violation.rule),
        ("position", .ofNat violation.position)] → event.Tells shown (.rejected violation)

theorem Event.tells_ofVerdict (candidate : String) (verdict : Verdict) :
    (Event.ofVerdict candidate verdict).Tells (Text.quoted candidate) verdict := by
  cases verdict with
  | accepted text => exact .acceptance rfl rfl rfl
  | rejected violation => exact .rejection rfl rfl rfl

theorem Event.Tells.lookup_candidate {event : Event} {shown : String} {verdict : Verdict}
    (tells : event.Tells shown verdict) :
    event.fields.lookup "candidate" = some (.string shown) := by
  cases tells with
  | acceptance _ _ fields => rw [fields, List.lookup_cons_self]
  | rejection _ _ fields => rw [fields, List.lookup_cons_self]

namespace RuleSet

/-- A check comes with one event, which tells its verdict.  The candidate is shown in
quotes there, and an event of any other check that shows the same has the same candidate. -/
theorem check_tells_verdict {set : RuleSet} {candidate : String} :
    ∃ event shown, set.check candidate = (set.evaluate candidate, event) ∧
      event.Tells shown (set.evaluate candidate) ∧
      Text.ShownInQuotes candidate shown ∧
      ∀ (otherSet : RuleSet) (other : String),
        (otherSet.check other).2.fields.lookup "candidate" =
            event.fields.lookup "candidate" → other = candidate := by
  have tells := Event.tells_ofVerdict candidate (set.evaluate candidate)
  refine ⟨_, _, rfl, tells, Text.shownInQuotes_quoted, ?_⟩
  intro otherSet other same
  have tellsOther := Event.tells_ofVerdict other (otherSet.evaluate other)
  rw [check, tells.lookup_candidate, tellsOther.lookup_candidate] at same
  have shownAlike : Text.quoted other = Text.quoted candidate := by
    simpa using same
  have shown : Text.ShownInQuotes other (Text.quoted candidate) :=
    shownAlike ▸ Text.shownInQuotes_quoted
  exact Text.shownInQuotes_quoted.unique shown

/-- Two texts of which one looks like the escaped form of the other are shown apart. -/
example : Text.quoted "\n" = "\"\\n\"" ∧ Text.quoted "\\n" = "\"\\\\n\"" := by decide +kernel

end RuleSet

end LinkVetting
