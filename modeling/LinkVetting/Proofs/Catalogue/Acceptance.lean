import LinkVetting.Proofs.Catalogue.ShapeMeaning
import LinkVetting.Proofs.Catalogue.TokenMeaning
import LinkVetting.Proofs.RuleSet.Evaluation

/-!
# What the built-in rules accept

The built-in rules accept the candidates without markup, without a denied prefix
on a line and without a script token whose shape is that of a web address or of
a target without a scheme.  A candidate that fails a rule keeps failing it when
text is appended, so acceptance passes to every prefix that is not empty.
-/

namespace LinkVetting

namespace Catalogue

section

variable {candidate : String}

theorem passes_markup_iff :
    (Rule.ofSpelled forbiddenCharacters markupExpression).passes candidate = true ↔
      ¬ ContainsMarkup candidate.toList := by
  rw [Rule.passes_ofSpelled_mustNotMatch_iff rfl, occursIn_markup_iff]

theorem passes_denied_iff :
    (Rule.ofSpelled denylistedScheme deniedExpression).passes candidate = true ↔
      ¬ ContainsDenied candidate.toList := by
  rw [Rule.passes_ofSpelled_mustNotMatch_iff rfl, occursIn_denied_iff]

theorem passes_shape_iff :
    (Rule.ofSpelled schemeShape shapeExpression).passes candidate = true ↔
      HasWebShape candidate.toList := by
  rw [Rule.passes_ofSpelled_mustMatch_iff rfl, occursIn_shape_iff]

theorem passes_script_iff :
    (Rule.ofSpelled embeddedJavascript scriptExpression).passes candidate = true ↔
      ¬ ContainsScript candidate.toList := by
  rw [Rule.passes_ofSpelled_mustNotMatch_iff rfl, occursIn_script_iff]

end

/-- A text that every built-in rule lets through. -/
structure Acceptable (text : List Char) : Prop where
  markupFree : ¬ ContainsMarkup text
  notDenied : ¬ ContainsDenied text
  webShape : HasWebShape text
  scriptFree : ¬ ContainsScript text

theorem builtin_passes_iff {candidate : String} :
    (∀ rule ∈ RuleSet.builtin.rules, rule.passes candidate = true) ↔
      Acceptable candidate.toList := by
  simp only [builtin_rules, rules, List.forall_mem_cons, passes_markup_iff,
    passes_denied_iff, passes_shape_iff, passes_script_iff]
  constructor
  · intro allowed
    obtain ⟨markupFree, notDenied, webShape, scriptFree, _⟩ := allowed
    exact ⟨markupFree, notDenied, webShape, scriptFree⟩
  · intro allowed
    obtain ⟨markupFree, notDenied, webShape, scriptFree⟩ := allowed
    exact ⟨markupFree, notDenied, webShape, scriptFree, by simp⟩

theorem builtin_isAccepted_iff {candidate : String} :
    (RuleSet.builtin.evaluate candidate).isAccepted = true ↔
      Acceptable candidate.toList := by
  rw [RuleSet.isAccepted_evaluate_iff, builtin_passes_iff]

/-! ## Appended text -/

section

variable {text more : List Char}

theorem ContainsMarkup.append (contains : ContainsMarkup text) :
    ContainsMarkup (text ++ more) := by
  obtain ⟨c, member, markup⟩ := contains
  exact ⟨c, List.mem_append_left more member, markup⟩

theorem ContainsDenied.append (contains : ContainsDenied text) :
    ContainsDenied (text ++ more) := by
  obtain ⟨before, gap, word, after, rfl, starts, nonWord, denied⟩ := contains
  exact ⟨before, gap, word, after ++ more, by simp, starts, nonWord, denied⟩

theorem ContainsScript.append (contains : ContainsScript text) :
    ContainsScript (text ++ more) := by
  obtain ⟨before, word, after, rfl, plain⟩ := contains
  exact ⟨before, word, after ++ more, by simp, plain⟩

theorem HasLetterScheme.append {scheme : List Char} (has : HasLetterScheme text scheme) :
    HasLetterScheme (text ++ more) scheme := by
  obtain ⟨rest, rfl⟩ := has.colon
  exact { colon := ⟨rest ++ more, by simp⟩, letter := has.letter, spelled := has.spelled }

theorem HasWebShape.of_append (nonempty : text ≠ []) (shape : HasWebShape (text ++ more)) :
    HasWebShape text :=
  ⟨nonempty, fun scheme has => shape.2 scheme has.append⟩

end

/-- A built-in rule that lets a candidate through lets through what stands
before any cut of it. -/
theorem passes_of_append {candidate more : String} (nonempty : candidate ≠ "") :
    ∀ rule ∈ RuleSet.builtin.rules,
      rule.passes (candidate ++ more) = true → rule.passes candidate = true := by
  have someText : candidate.toList ≠ [] := by simpa using nonempty
  simp only [builtin_rules, rules, List.forall_mem_cons, passes_markup_iff,
    passes_denied_iff, passes_shape_iff, passes_script_iff, String.toList_append]
  refine ⟨?_, ?_, ?_, ?_, by simp⟩
  · exact fun free contains => free contains.append
  · exact fun free contains => free contains.append
  · exact fun shape => shape.of_append someText
  · exact fun free contains => free contains.append

/-- Rejection survives appended text, at the same rule or an earlier one, and
acceptance survives a cut. -/
theorem builtin_evaluate_append {candidate more : String} (nonempty : candidate ≠ "") :
    (∀ violation, RuleSet.builtin.evaluate candidate = .rejected violation →
      ∃ earliest, RuleSet.builtin.evaluate (candidate ++ more) = .rejected earliest ∧
        earliest.position ≤ violation.position) ∧
      (RuleSet.builtin.evaluate (candidate ++ more) = .accepted (candidate ++ more) →
        RuleSet.builtin.evaluate candidate = .accepted candidate) := by
  have passesToo := @passes_of_append candidate more nonempty
  constructor
  · intro violation rejected
    exact RuleSet.rejected_no_later passesToo rejected
  · intro accepted
    have passes := (RuleSet.evaluate_accepted_iff.mp accepted).2
    exact RuleSet.evaluate_accepted_iff.mpr
      ⟨rfl, fun rule member => passesToo rule member (passes rule member)⟩

theorem builtin_evaluate_append_unknown_scheme :
    "ftp:" ≠ "" ∧
      RuleSet.builtin.evaluate "ftp:" = .rejected ⟨2, "scheme_shape"⟩ ∧
        ∃ earliest, RuleSet.builtin.evaluate ("ftp:" ++ "(") = .rejected earliest ∧
          earliest.position ≤ 2 := by
  have nonempty : "ftp:" ≠ "" := by decide
  have rejected :
      RuleSet.builtin.evaluate "ftp:" = .rejected ⟨2, "scheme_shape"⟩ := by
    rw [Catalogue.builtin_rules]
    decide +kernel
  exact ⟨nonempty, rejected, (builtin_evaluate_append nonempty).1 _ rejected⟩

end Catalogue

/-! ## Links -/

/-- What a page may rely on when it links to an address. -/
structure SafeAddress (address : List Char) : Prop where
  nonempty : address ≠ []
  markupFree : ∀ c ∈ Catalogue.markupCharacters, c ∉ address
  scriptFree : ∀ before word after, address = before ++ word ++ after →
    word.map Unicode.plainLetter ≠ "javascript:".toList
  webScheme : ∀ scheme rest, address = scheme ++ ':' :: rest →
    (∃ c, scheme.head? = some c ∧ c.isAlpha = true) →
      (∀ c ∈ scheme, Catalogue.isSchemeCharacter c = true) →
        scheme.map Char.toLower = "http".toList ∨
          scheme.map Char.toLower = "https".toList

theorem Catalogue.Acceptable.safeAddress {text : List Char}
    (acceptable : Catalogue.Acceptable text) : SafeAddress text where
  nonempty := acceptable.webShape.1
  markupFree := fun c markup member => acceptable.markupFree ⟨c, member, markup⟩
  scriptFree := fun before word after cut plain =>
    acceptable.scriptFree ⟨before, word, after, cut, plain⟩
  webScheme := by
    intro scheme rest colon letter spelled
    have web := acceptable.webShape.2 scheme ⟨⟨rest, colon⟩, letter, spelled⟩
    simpa using web

theorem LinkTarget.safeAddress_of_navigable {candidate href : String}
    (navigable : LinkTarget.ofCandidate RuleSet.builtin candidate = .navigable href) :
    href = candidate ∧ SafeAddress href.toList := by
  obtain ⟨rfl, _, passes⟩ := LinkTarget.ofCandidate_navigable_iff.mp navigable
  exact ⟨rfl, (Catalogue.builtin_passes_iff.mp passes).safeAddress⟩

theorem LinkTarget.safeAddress_of_web_address :
    LinkTarget.ofCandidate RuleSet.builtin "https://a" = .navigable "https://a" ∧
      SafeAddress "https://a".toList := by
  have navigable :
      LinkTarget.ofCandidate RuleSet.builtin "https://a" = .navigable "https://a" := by
    rw [Catalogue.builtin_rules]
    decide +kernel
  exact ⟨navigable, (LinkTarget.safeAddress_of_navigable navigable).2⟩

end LinkVetting
