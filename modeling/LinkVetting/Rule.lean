import LinkVetting.Pattern.Meaning

/-!
# Rules

A rule is a pattern together with what the pattern has to do for a candidate to survive. Rules are
written as text and compiled before use.
-/

namespace LinkVetting

/-- What the pattern of a rule has to do for a candidate to survive the rule. -/
inductive Expectation where
  /-- The pattern must occur in the candidate. -/
  | mustMatch
  /-- The pattern must not occur in the candidate. -/
  | mustNotMatch
  deriving DecidableEq, Repr

namespace Expectation

/-- Whether an outcome of the search is the expected one. -/
def isMetBy : Expectation → (found : Bool) → Bool
  | .mustMatch, found => found
  | .mustNotMatch, found => !found

def name : Expectation → String
  | .mustMatch => "must_match"
  | .mustNotMatch => "must_not_match"

def choices : List (String × Expectation) :=
  [Expectation.mustMatch, .mustNotMatch].map fun expectation => (expectation.name, expectation)

theorem lookup_name (expectation : Expectation) :
    choices.lookup expectation.name = some expectation := by
  cases expectation <;> decide

end Expectation

structure RuleText where
  /-- Identifies the rule in logs, records and verdicts. -/
  name : String
  /-- One line for the listing of rules. -/
  purpose : String
  pattern : String
  expectation : Expectation
  deriving DecidableEq, Repr

structure Rule extends RuleText where
  expression : Pattern.Regex

structure RuleError where
  rule : RuleText
  fault : Pattern.Fault
  deriving DecidableEq, Repr

/-- The text of the error; it shows the pattern and the place of the fault. -/
def RuleError.message (error : RuleError) : String :=
  s!"failed to compile pattern for rule '{error.rule.name}': " ++
    error.fault.message error.rule.pattern.toList

namespace Rule

def compile (text : RuleText)
    (tooLarge : Pattern.SizeCheck := Pattern.SizeCheck.estimated) : Except RuleError Rule :=
  match Pattern.Regex.ofPattern text.pattern.toList tooLarge with
  | .ok expression => .ok { toRuleText := text, expression }
  | .error fault => .error { rule := text, fault }

/-- Whether the pattern of the rule occurs in a candidate. -/
def isMatch (rule : Rule) (candidate : String) : Bool :=
  rule.expression.occursIn candidate.toList

def passes (rule : Rule) (candidate : String) : Bool :=
  rule.expectation.isMetBy (rule.isMatch candidate)

end Rule

end LinkVetting
