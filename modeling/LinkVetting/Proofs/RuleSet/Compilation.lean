import LinkVetting.Event

/-!
# Compilation of a rule set

Rules are compiled one by one, in order.  The rule set holds all of them, each with its
expression; or the first rule whose pattern cannot be read is answered, and the rules
behind it are not looked at.
-/

namespace LinkVetting

/-- The pattern of a rule can be read and is not too large. -/
def RuleText.IsReadable (text : RuleText)
    (tooLarge : Pattern.SizeCheck := Pattern.SizeCheck.estimated) : Prop :=
  ∃ expression, Pattern.Regex.ofPattern text.pattern.toList tooLarge = .ok expression

section

variable {text bad : RuleText} {texts front later : List RuleText} {rule : Rule} {set : RuleSet}
variable {error : RuleError} {tooLarge : Pattern.SizeCheck}

namespace Rule

theorem compile_eq_ok_iff :
    compile text tooLarge = .ok rule ↔
      rule.toRuleText = text ∧
        Pattern.Regex.ofPattern text.pattern.toList tooLarge = .ok rule.expression := by
  rw [compile]
  cases Pattern.Regex.ofPattern text.pattern.toList tooLarge with
  | ok expression =>
      constructor
      · rintro ⟨⟩
        exact ⟨rfl, rfl⟩
      · rintro ⟨rfl, ⟨⟩⟩
        rfl
  | error fault => simp

theorem compile_eq_error_iff :
    compile text tooLarge = .error error ↔
      error.rule = text ∧
        Pattern.Regex.ofPattern text.pattern.toList tooLarge = .error error.fault := by
  rw [compile]
  cases Pattern.Regex.ofPattern text.pattern.toList tooLarge with
  | ok expression => simp
  | error fault =>
      constructor
      · rintro ⟨⟩
        exact ⟨rfl, rfl⟩
      · rintro ⟨rfl, ⟨⟩⟩
        rfl

theorem exists_compile_iff :
    (∃ rule, compile text tooLarge = .ok rule) ↔ text.IsReadable tooLarge := by
  constructor
  · rintro ⟨rule, compiled⟩
    exact ⟨rule.expression, (compile_eq_ok_iff.mp compiled).2⟩
  · rintro ⟨expression, read⟩
    exact ⟨{ toRuleText := text, expression }, compile_eq_ok_iff.mpr ⟨rfl, read⟩⟩

theorem not_isReadable_of_compile (failed : compile text tooLarge = .error error) :
    ¬ text.IsReadable tooLarge := by
  rw [← exists_compile_iff]
  rintro ⟨rule, compiled⟩
  rw [compiled] at failed
  cases failed

theorem exists_compile_error (unreadable : ¬ text.IsReadable tooLarge) :
    ∃ error, compile text tooLarge = .error error := by
  cases answer : compile text tooLarge with
  | ok rule => exact absurd (exists_compile_iff.mp ⟨rule, answer⟩) unreadable
  | error error => exact ⟨error, rfl⟩

end Rule

namespace RuleSet

theorem compile_cons :
    compile (text :: later) tooLarge =
      match Rule.compile text tooLarge with
      | .ok rule => (compile later tooLarge).map fun set => ⟨rule :: set.rules⟩
      | .error error => .error error := by
  rw [compile, compile, List.mapM_cons]
  cases Rule.compile text tooLarge with
  | error error => rfl
  | ok rule =>
      cases later.mapM fun text => Rule.compile text tooLarge with
      | error error => rfl
      | ok rules => rfl

/-- A rule set holds the rules as they were written, each with the expression of its
pattern. -/
theorem compile_eq_ok_iff :
    compile texts tooLarge = .ok set ↔
      set.rules.map Rule.toRuleText = texts ∧
        ∀ rule ∈ set.rules,
          Pattern.Regex.ofPattern rule.pattern.toList tooLarge = .ok rule.expression := by
  obtain ⟨rules⟩ := set
  induction texts generalizing rules with
  | nil =>
      constructor
      · rintro ⟨⟩
        exact ⟨rfl, List.forall_mem_nil _⟩
      · rintro ⟨empty, _⟩
        obtain rfl : rules = [] := List.map_eq_nil_iff.mp empty
        rfl
  | cons text later induction =>
      rw [compile_cons]
      constructor
      · intro compiled
        cases first : Rule.compile text tooLarge with
        | error error =>
            rw [first] at compiled
            cases compiled
        | ok rule =>
            cases others : compile later tooLarge with
            | error error =>
                rw [first, others] at compiled
                cases compiled
            | ok laterSet =>
                rw [first, others] at compiled
                cases compiled
                obtain ⟨rfl, expression⟩ := Rule.compile_eq_ok_iff.mp first
                obtain ⟨rfl, expressions⟩ := (induction laterSet.rules).mp others
                exact ⟨rfl, List.forall_mem_cons.mpr ⟨expression, expressions⟩⟩
      · rintro ⟨written, expressions⟩
        obtain ⟨rule, laterRules, rfl, rfl, rfl⟩ := List.map_eq_cons_iff.mp written
        obtain ⟨expression, laterExpressions⟩ := List.forall_mem_cons.mp expressions
        rw [Rule.compile_eq_ok_iff.mpr ⟨rfl, expression⟩,
          (induction laterRules).mpr ⟨rfl, laterExpressions⟩]
        rfl

theorem size_of_compile (compiled : compile texts tooLarge = .ok set) :
    set.size = texts.length := by
  rw [← (compile_eq_ok_iff.mp compiled).1, List.length_map, size]

theorem compile_of_readable (readable : ∀ text ∈ texts, text.IsReadable tooLarge) :
    ∃ set, compile texts tooLarge = .ok set := by
  induction texts with
  | nil => exact ⟨⟨[]⟩, rfl⟩
  | cons text later induction =>
      obtain ⟨first, laterReadable⟩ := List.forall_mem_cons.mp readable
      obtain ⟨rule, compiled⟩ := Rule.exists_compile_iff.mpr first
      obtain ⟨set, others⟩ := induction laterReadable
      refine ⟨⟨rule :: set.rules⟩, ?_⟩
      rw [compile_cons, compiled, others]
      rfl

/-- What stands behind a rule that cannot be compiled is not looked at. -/
theorem compile_of_cut (readable : ∀ text ∈ front, text.IsReadable tooLarge)
    (failed : Rule.compile bad tooLarge = .error error) :
    compile (front ++ bad :: later) tooLarge = .error error := by
  induction front with
  | nil => rw [List.nil_append, compile_cons, failed]
  | cons text front induction =>
      obtain ⟨first, frontReadable⟩ := List.forall_mem_cons.mp readable
      obtain ⟨rule, compiled⟩ := Rule.exists_compile_iff.mpr first
      rw [List.cons_append, compile_cons, compiled, induction frontReadable]
      rfl

theorem readable_or_cut :
    (∀ text ∈ texts, text.IsReadable tooLarge) ∨
      ∃ front bad later, texts = front ++ bad :: later ∧
        (∀ text ∈ front, text.IsReadable tooLarge) ∧ ¬ bad.IsReadable tooLarge := by
  induction texts with
  | nil => exact Or.inl (List.forall_mem_nil _)
  | cons text texts induction =>
      by_cases first : text.IsReadable tooLarge
      · rcases induction with readable | ⟨front, bad, later, rfl, readable, unreadable⟩
        · exact Or.inl (List.forall_mem_cons.mpr ⟨first, readable⟩)
        · exact Or.inr ⟨text :: front, bad, later, rfl,
            List.forall_mem_cons.mpr ⟨first, readable⟩, unreadable⟩
      · exact Or.inr ⟨[], text, texts, rfl, List.forall_mem_nil _, first⟩

theorem exists_compile_iff :
    (∃ set, compile texts tooLarge = .ok set) ↔ ∀ text ∈ texts, text.IsReadable tooLarge := by
  refine ⟨fun compiled => ?_, compile_of_readable⟩
  rcases @readable_or_cut texts tooLarge with
    readable | ⟨front, bad, later, rfl, readable, unreadable⟩
  · exact readable
  · obtain ⟨set, compiled⟩ := compiled
    obtain ⟨error, failed⟩ := Rule.exists_compile_error unreadable
    rw [compile_of_cut readable failed] at compiled
    cases compiled

/-- The error is that of the first rule that cannot be read. -/
theorem compile_eq_error_iff :
    compile texts tooLarge = .error error ↔
      ∃ front bad later, texts = front ++ bad :: later ∧
        (∀ text ∈ front, text.IsReadable tooLarge) ∧ Rule.compile bad tooLarge = .error error := by
  constructor
  · intro answer
    rcases @readable_or_cut texts tooLarge with
      readable | ⟨front, bad, later, rfl, readable, unreadable⟩
    · obtain ⟨set, compiled⟩ := compile_of_readable readable
      rw [compiled] at answer
      cases answer
    · obtain ⟨other, failed⟩ := Rule.exists_compile_error unreadable
      rw [compile_of_cut readable failed] at answer
      cases answer
      exact ⟨front, bad, later, rfl, readable, failed⟩
  · rintro ⟨front, bad, later, rfl, readable, failed⟩
    exact compile_of_cut readable failed

/-- Behind a rule that cannot be read, no rule changes the answer. -/
theorem exists_error_of_unreadable (unreadable : ¬ bad.IsReadable tooLarge) :
    ∃ error, ∀ later, compile (front ++ bad :: later) tooLarge = .error error := by
  rcases @readable_or_cut front tooLarge with
    readable | ⟨earlier, first, between, rfl, readable, worse⟩
  · obtain ⟨error, failed⟩ := Rule.exists_compile_error unreadable
    exact ⟨error, fun later => compile_of_cut readable failed⟩
  · obtain ⟨error, failed⟩ := Rule.exists_compile_error worse
    refine ⟨error, fun later => ?_⟩
    rw [List.append_assoc, List.cons_append]
    exact compile_of_cut readable failed

theorem fst_build : (build texts tooLarge).1 = compile texts tooLarge := by
  rw [build]
  cases compile texts tooLarge with
  | ok set => rfl
  | error error => rfl

/-- Whatever is too large, rules are compiled all or not at all.  Where every pattern can
be read, the rule set has the rules as they were written, and one event counts them.
Otherwise the error is that of the first rule whose pattern cannot be read, there is no
event, and the rules behind that one change nothing. -/
theorem build_all_or_nothing :
    ((∃ set, (build texts tooLarge).1 = .ok set) ↔ ∀ text ∈ texts, text.IsReadable tooLarge) ∧
      (∀ set, (build texts tooLarge).1 = .ok set →
        set.size = texts.length ∧ set.rules.map Rule.toRuleText = texts ∧
          (∀ rule ∈ set.rules,
            Pattern.Regex.ofPattern rule.pattern.toList tooLarge = .ok rule.expression) ∧
          (build texts tooLarge).2 = [.rulesCompiled texts.length]) ∧
      (∀ error, (build texts tooLarge).1 = .error error →
        (∃ front later, texts = front ++ error.rule :: later ∧
          (∀ text ∈ front, text.IsReadable tooLarge) ∧ ¬ error.rule.IsReadable tooLarge) ∧
          ("failed to compile pattern for rule '" ++ error.rule.name ++ "': ").toList <+:
            error.message.toList ∧
          (build texts tooLarge).2 = []) ∧
      ∀ front bad, ¬ bad.IsReadable tooLarge →
        ∃ error, ∀ later, build (front ++ bad :: later) tooLarge = (.error error, []) := by
  rw [fst_build]
  refine ⟨exists_compile_iff, ?_, ?_, ?_⟩
  · intro set compiled
    obtain ⟨written, expressions⟩ := compile_eq_ok_iff.mp compiled
    have count := size_of_compile compiled
    refine ⟨count, written, expressions, ?_⟩
    rw [build, compiled]
    exact congrArg (fun count => [Event.rulesCompiled count]) count
  · intro error failed
    obtain ⟨front, bad, later, rfl, readable, badFailed⟩ := compile_eq_error_iff.mp failed
    obtain ⟨rfl, _⟩ := Rule.compile_eq_error_iff.mp badFailed
    refine ⟨⟨front, later, rfl, readable, Rule.not_isReadable_of_compile badFailed⟩, ?_, ?_⟩
    · have message : error.message.toList =
          ("failed to compile pattern for rule '" ++ error.rule.name ++ "': ").toList ++
            (error.fault.message error.rule.pattern.toList).toList := by
        rw [← String.toList_append]
        rfl
      rw [message]
      exact List.prefix_append _ _
    · rw [build, failed]
  · intro front bad unreadable
    obtain ⟨error, failed⟩ := @exists_error_of_unreadable bad front tooLarge unreadable
    refine ⟨error, fun later => ?_⟩
    rw [build, failed later]

/-- Of two rules that cannot be read, the earlier one is named. -/
theorem build_all_or_nothing_two_faults :
    let slash : RuleText :=
      { name := "slash", purpose := "", pattern := "/", expectation := .mustMatch }
    let unclosed : RuleText := { slash with name := "unclosed", pattern := "[" }
    let dangling : RuleText := { slash with name := "dangling", pattern := "*" }
    slash.IsReadable ∧ ¬ unclosed.IsReadable ∧ ¬ dangling.IsReadable ∧
      (¬ ∃ set, (build [slash, unclosed, dangling]).1 = .ok set) ∧
      (∃ error, (build [slash, unclosed, dangling]).1 = .error error ∧
        error.rule = unclosed ∧ (build [slash, unclosed, dangling]).2 = []) ∧
      ∃ error, ∀ later, build ([slash] ++ unclosed :: later) = (.error error, []) := by
  intro slash unclosed dangling
  have slashRead : ∃ expression, Pattern.Regex.ofPattern "/".toList = .ok expression :=
    ⟨_, rfl⟩
  have unclosedRead : Pattern.Regex.ofPattern "[".toList =
      .error { kind := .classUnclosed, span := ⟨⟨1, 1⟩, ⟨1, 2⟩⟩ } := rfl
  have danglingRead : Pattern.Regex.ofPattern "*".toList =
      .error { kind := .repetitionMissing, span := ⟨⟨1, 1⟩, ⟨1, 1⟩⟩ } := rfl
  have slashReadable : slash.IsReadable := slashRead
  have failed : Rule.compile unclosed = .error ⟨unclosed, _⟩ :=
    Rule.compile_eq_error_iff.mpr ⟨rfl, unclosedRead⟩
  have unreadable := Rule.not_isReadable_of_compile failed
  have dangles : ¬ dangling.IsReadable := by
    rintro ⟨expression, read⟩
    cases danglingRead.symm.trans read
  have answer : (build [slash, unclosed, dangling]).1 = .error ⟨unclosed, _⟩ :=
    fst_build.trans
      (@compile_of_cut unclosed [slash] _ _ _ (List.forall_mem_singleton.mpr slashReadable) failed)
  obtain ⟨succeeds, _, fails, behind⟩ :=
    @build_all_or_nothing [slash, unclosed, dangling] Pattern.SizeCheck.estimated
  refine ⟨slashReadable, unreadable, dangles, ?_, ⟨_, answer, rfl, ?_⟩, ?_⟩
  · exact fun compiled => unreadable (succeeds.mp compiled unclosed (by simp))
  · exact (fails _ answer).2.2
  · exact behind [slash] unclosed unreadable

end RuleSet

end

end LinkVetting
