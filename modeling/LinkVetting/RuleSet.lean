import LinkVetting.Rule

/-!
# Rule sets and verdicts

A rule set is a list of rules in evaluation order. A candidate is accepted when every rule passes;
otherwise the verdict names the first rule that fails and its place.
-/

namespace LinkVetting

structure Violation where
  /-- The place of the rule in the rule set, counted from zero. -/
  position : Nat
  rule : String
  deriving DecidableEq, Repr

inductive Verdict where
  /-- Every rule passed; holds the candidate itself. -/
  | accepted (candidate : String)
  | rejected (violation : Violation)
  deriving DecidableEq, Repr

namespace Verdict

def isAccepted : Verdict → Bool
  | .accepted _ => true
  | .rejected _ => false

def violation? : Verdict → Option Violation
  | .accepted _ => none
  | .rejected violation => some violation

/-- The text that may be used as a link: the candidate if it was accepted, and nothing otherwise. -/
def safeText : Verdict → String
  | .accepted candidate => candidate
  | .rejected _ => ""

end Verdict

structure RuleSet where
  rules : List Rule

namespace RuleSet

/-- Compiles rules in order; the first one with a fault decides the error. -/
def compile (texts : List RuleText)
    (tooLarge : Pattern.SizeCheck := Pattern.SizeCheck.estimated) : Except RuleError RuleSet :=
  (texts.mapM fun text => Rule.compile text tooLarge).map RuleSet.mk

/-- The verdict of the rules from a given place on. -/
def evaluateFrom (position : Nat) (candidate : String) : List Rule → Verdict
  | [] => .accepted candidate
  | rule :: later =>
    if rule.passes candidate then evaluateFrom (position + 1) candidate later
    else .rejected { position, rule := rule.name }

/-- The verdict on a candidate: the first rule that fails rejects it. -/
def evaluate (set : RuleSet) (candidate : String) : Verdict :=
  evaluateFrom 0 candidate set.rules

def find? (set : RuleSet) (name : String) : Option Rule :=
  set.rules.find? (·.name = name)

/-- The number of rules. -/
def size (set : RuleSet) : Nat := set.rules.length

def isEmpty (set : RuleSet) : Bool := set.rules.isEmpty

/-- The text that may be used as a link in place of a candidate. -/
def sanitize (set : RuleSet) (candidate : String) : String :=
  (set.evaluate candidate).safeText

end RuleSet

inductive LinkTarget where
  /-- The candidate may be used as it is. -/
  | navigable (href : String)
  /-- No working link may be shown. -/
  | placeholder
  deriving DecidableEq, Repr

namespace LinkTarget

/-- The target for a sanitized text; without a text there is no link. -/
def ofSanitized (text : String) : LinkTarget :=
  if text.isEmpty then .placeholder else .navigable text

def ofCandidate (set : RuleSet) (candidate : String) : LinkTarget :=
  ofSanitized (set.sanitize candidate)

/-- The address to link to, if there is one. -/
def href? : LinkTarget → Option String
  | .navigable href => some href
  | .placeholder => none

def isNavigable : LinkTarget → Bool
  | .navigable _ => true
  | .placeholder => false

end LinkTarget

end LinkVetting
