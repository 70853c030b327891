import LinkVetting.Catalogue
import LinkVetting.Proofs.Pattern.MatcherAdequacy
import LinkVetting.Proofs.Pattern.SpelledMeaning

/-!
# Expressions of the built-in rules

The patterns of the catalogue are read once and for all.  Each pattern stands
for the spelled expression below, so the built-in rule set is known in full.
-/

namespace LinkVetting

open Pattern (OccursIn Regex Spelled SpelledSet)

namespace Catalogue

/-- The characters that end or open markup and code. -/
def markupCharacters : List Char := "()[]\x7b\x7d;`'\"<>".toList

def letterSets : List SpelledSet := [.between 0x41 0x5A, .between 0x61 0x7A]

/-- The sets of the characters that a letter-only scheme is written with. -/
def schemeSets : List SpelledSet :=
  letterSets ++ ['+', '.', '-'].map fun c => .codes [c.toNat]

def caseless (c : Char) : Spelled :=
  .set (.variants c.toNat)

def token (text : List Char) : Spelled := .sequence (text.map caseless)

def markupExpression : Spelled :=
  .set (.unionOf (markupCharacters.map fun c => .codes [c.toNat]))

def deniedExpression : Spelled :=
  .sequence [.empty,
    .choice [.boundary .anyLineStart,
      .set (.unionOf [.codes [0x2028], .codes [0x2029]])],
    .repeated
      (.set (.complement (.unionOf
        [.between 0x30 0x39, .between 0x41 0x5A, .between 0x61 0x7A, .codes [0x5F]])))
      0 none,
    .choice (deniedPrefixes.map fun denied => token denied.toList)]

def webSchemeExpression : Spelled :=
  .sequence ("http".toList.map caseless ++
    [.repeated (caseless 's') 0 (some 1), caseless ':'])

/-- Characters of a letter-only scheme, with no colon behind them. -/
def schemelessExpression : Spelled :=
  .sequence [.repeated (.set (.unionOf schemeSets)) 1 none,
    .choice [
      .set (.complement (.unionOf (schemeSets ++ [.codes [':'.toNat]]))),
      .boundary .textEnd]]

def shapeExpression : Spelled :=
  .sequence [.boundary .textStart,
    .choice [
      webSchemeExpression,
      .set (.complement (.unionOf letterSets)),
      schemelessExpression]]

def scriptExpression : Spelled :=
  .sequence (.empty :: "javascript:".toList.map caseless)

theorem spelled_forbiddenCharacters :
    Regex.spelled? forbiddenCharacters.pattern.toList = some markupExpression := by
  decide +kernel

theorem spelled_denylistedScheme :
    Regex.spelled? denylistedScheme.pattern.toList = some deniedExpression := by
  decide +kernel

theorem spelled_schemeShape :
    Regex.spelled? schemeShape.pattern.toList = some shapeExpression := by
  decide +kernel

theorem spelled_embeddedJavascript :
    Regex.spelled? embeddedJavascript.pattern.toList = some scriptExpression := by
  decide +kernel

end Catalogue

/-- A rule whose expression is written out. -/
def Rule.ofSpelled (text : RuleText) (spelled : Spelled) : Rule :=
  { toRuleText := text, expression := spelled.regex }

theorem Rule.compile_of_spelled? {text : RuleText} {spelled : Spelled}
    {tooLarge : Pattern.SizeCheck}
    (spelling : Regex.spelled? text.pattern.toList = some spelled)
    (fits : tooLarge.refuses text.pattern.toList = false) :
    Rule.compile text tooLarge = .ok (.ofSpelled text spelled) := by
  simp only [Rule.compile, Regex.ofPattern_of_spelled? spelling fits, Rule.ofSpelled]

theorem Rule.isMatch_ofSpelled_iff {text : RuleText} {spelled : Spelled}
    {candidate : String} :
    (Rule.ofSpelled text spelled).isMatch candidate = true ↔
      OccursIn spelled.regex candidate.toList :=
  Regex.occursIn_iff

theorem Rule.passes_ofSpelled_mustMatch_iff {text : RuleText} {spelled : Spelled}
    {candidate : String} (expected : text.expectation = .mustMatch) :
    (Rule.ofSpelled text spelled).passes candidate = true ↔
      OccursIn spelled.regex candidate.toList := by
  rw [← Rule.isMatch_ofSpelled_iff]
  change Expectation.isMetBy text.expectation _ = true ↔ _
  rw [expected, Expectation.isMetBy]

theorem Rule.passes_ofSpelled_mustNotMatch_iff {text : RuleText} {spelled : Spelled}
    {candidate : String} (expected : text.expectation = .mustNotMatch) :
    (Rule.ofSpelled text spelled).passes candidate = true ↔
      ¬ OccursIn spelled.regex candidate.toList := by
  rw [← Rule.isMatch_ofSpelled_iff, Bool.not_eq_true]
  change Expectation.isMetBy text.expectation _ = true ↔ _
  rw [expected, Expectation.isMetBy, Bool.not_eq_true']

namespace Catalogue

def rules : List Rule := [
  .ofSpelled forbiddenCharacters markupExpression,
  .ofSpelled denylistedScheme deniedExpression,
  .ofSpelled schemeShape shapeExpression,
  .ofSpelled embeddedJavascript scriptExpression]

/-- Every check that finds none of the built-in patterns too large leads to the same rules. -/
theorem compile_of_not_refuses {tooLarge : Pattern.SizeCheck}
    (fit : ∀ text ∈ catalogue, tooLarge.refuses text.pattern.toList = false) :
    RuleSet.compile catalogue tooLarge = .ok ⟨rules⟩ := by
  simp only [catalogue, List.forall_mem_cons, List.not_mem_nil, false_implies, implies_true,
    and_true] at fit
  obtain ⟨markup, denied, shape, script⟩ := fit
  simp only [RuleSet.compile, catalogue, List.mapM_cons, List.mapM_nil,
    Rule.compile_of_spelled? spelled_forbiddenCharacters markup,
    Rule.compile_of_spelled? spelled_denylistedScheme denied,
    Rule.compile_of_spelled? spelled_schemeShape shape,
    Rule.compile_of_spelled? spelled_embeddedJavascript script]
  rfl

theorem compile_catalogue : RuleSet.compile catalogue = .ok ⟨rules⟩ :=
  compile_of_not_refuses (by decide +kernel)

theorem builtin_rules : RuleSet.builtin = ⟨rules⟩ := by
  rw [RuleSet.builtin, compile_catalogue]
  rfl

end Catalogue

end LinkVetting
