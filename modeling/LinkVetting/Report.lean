import LinkVetting.Candidate
import LinkVetting.Event

/-!
# Reports

Every candidate has an outcome: what may be used in its place, and the rule that rejected it, if one
did. A report shows the outcomes of a list of candidates line by line, counts them, and says what is
to be logged and recorded.
-/

namespace LinkVetting

/-- The name under which candidates that are not text are rejected. -/
def invalidTextRule : String := "invalid_utf8"

/-- The component that entries of the trail come from. -/
def component : String := "link-guard"

structure Outcome where
  candidate : Candidate
  /-- The text that may be used in place of the candidate. -/
  sanitized : String
  /-- The rule that rejected the candidate. -/
  rule : Option String
  event : Event

namespace Outcome

/-- The outcome of vetting a candidate. A candidate that is not text does not reach the rules. -/
def ofCandidate (set : RuleSet) (candidate : Candidate) : Outcome :=
  if candidate.isText then
    let (verdict, event) := set.check candidate.value
    { candidate, sanitized := verdict.safeText, rule := verdict.violation?.map (·.rule), event }
  else
    { candidate, sanitized := "", rule := some invalidTextRule,
      event := .candidateUndecodable candidate.source }

def isRejected (outcome : Outcome) : Bool := outcome.rule.isSome

/-- The outcome as JSON; its members have an order of their own. -/
def toJson (outcome : Outcome) : Json :=
  .object ([("candidate", Json.string outcome.candidate.value),
    ("sanitized", .string outcome.sanitized),
    ("accepted", .bool outcome.rule.isNone)] ++
    match outcome.rule with
    | some rule => [("rule", .string rule)]
    | none => [])

/-- The text that shows an outcome. -/
def body (json : Bool) (outcome : Outcome) : List Char :=
  if json then outcome.toJson.compactChars else outcome.sanitized.toList

/-- The line that shows an outcome, with its end. -/
def line (json : Bool) (outcome : Outcome) : List Char := outcome.body json ++ ['\n']

def record? (outcome : Outcome) : Option (Audit.Source × Audit.Rejection) :=
  outcome.rule.map fun rule =>
    ({ component, input := some outcome.candidate.source },
      { candidate := outcome.candidate.value, rule })

end Outcome

structure Report where
  outcomes : List Outcome

namespace Report

def ofCandidates (set : RuleSet) (candidates : List Candidate) : Report :=
  ⟨candidates.map (Outcome.ofCandidate set)⟩

/-- The number of candidates. -/
def checked (report : Report) : Nat := report.outcomes.length

/-- The number of rejected candidates. -/
def rejected (report : Report) : Nat := report.outcomes.countP Outcome.isRejected

def text (json : Bool) (report : Report) : List Char :=
  report.outcomes.flatMap (Outcome.line json)

def events (report : Report) : List Event := report.outcomes.map (·.event)

/-- What is recorded about the rejected candidates, in order. -/
def records (report : Report) : List (Audit.Source × Audit.Rejection) :=
  report.outcomes.filterMap Outcome.record?

end Report

/-! ## The listing of rules -/

namespace RuleSet

/-- A rule in the listing as JSON; its members have an order of their own. -/
def listedJson (place : Nat) (rule : Rule) : Json :=
  .object [("position", .ofNat place), ("name", .string rule.name),
    ("expectation", .string rule.expectation.name), ("purpose", .string rule.purpose),
    ("pattern", .string rule.pattern)]

def listedText (place : Nat) (rule : Rule) : List Char :=
  (Nat.repr place ++ ". " ++ rule.name ++ " [" ++ rule.expectation.name ++ "] " ++
    rule.purpose ++ "\n   " ++ rule.pattern ++ "\n").toList

def placed (set : RuleSet) : List (Rule × Nat) := set.rules.zipIdx 1

def listing (json : Bool) (set : RuleSet) : List Char :=
  if json then
    (Json.array (set.placed.map fun (rule, place) => listedJson place rule)).indentedChars 0 ++
      ['\n']
  else set.placed.flatMap fun (rule, place) => listedText place rule

end RuleSet

end LinkVetting
