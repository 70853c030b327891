import LinkVetting.Proofs.Catalogue.Expressions
import LinkVetting.Proofs.RuleSet.Evaluation
import LinkVetting.Proofs.RuleSet.Listing

/-!
# What a violation points at

A violation names a rule and its place.  Where the names of the rules are distinct, the
place in the order of evaluation, the name, and the numbers in both listings lead to one
rule, which is the first one that fails.
-/

namespace LinkVetting

namespace RuleSet

section

variable {texts : List RuleText} {earlier later : List Rule} {rule : Rule} {set : RuleSet}
variable {candidate : String} {violation : Violation} {tooLarge : Pattern.SizeCheck}

theorem find?_of_distinct (distinct : (set.rules.map (·.name)).Nodup)
    (cut : set.rules = earlier ++ rule :: later) : set.find? rule.name = some rule := by
  rw [find?, List.find?_eq_some_iff_append]
  refine ⟨decide_eq_true rfl, earlier, later, cut, fun other inEarlier => ?_⟩
  have different : other.name ≠ rule.name := by
    rw [cut, List.map_append, List.map_cons] at distinct
    exact (List.nodup_append.mp distinct).2.2 _ (List.mem_map_of_mem inEarlier) _
      List.mem_cons_self
  simp [different]

/-- In a plain listing an entry stands behind those of the rules before it. -/
theorem listing_of_cut (cut : set.rules = earlier ++ rule :: later) :
    ∃ rest, set.listing false =
      (RuleSet.mk earlier).listing false ++ listedText (earlier.length + 1) rule ++ rest := by
  refine ⟨(later.zipIdx (earlier.length + 2)).flatMap fun placed =>
    listedText placed.2 placed.1, ?_⟩
  simp only [listing, placed, cut, List.zipIdx_append, List.zipIdx_cons, List.flatMap_append,
    List.flatMap_cons, Bool.false_eq_true, if_false]
  rw [Nat.add_comm 1, List.append_assoc]

/-- A rejection leads to one rule, on every way: the violation gives its place and its
name, it is the first one that fails, its name finds it, and the listings show it under
the number that follows its place.  The listing in JSON is read back, as far as a machine
word counts. -/
theorem violation_points_to_rule (compiled : compile texts tooLarge = .ok set)
    (distinct : (texts.map (·.name)).Nodup)
    (countable : texts.length ≤ Json.greatestNatural)
    (rejected : set.evaluate candidate = .rejected violation) :
    violation.position < set.size ∧
      ∃ rule, set.rules[violation.position]? = some rule ∧
        texts[violation.position]? = some rule.toRuleText ∧
        rule.name = violation.rule ∧ rule.passes candidate = false ∧
        (∀ earlier ∈ set.rules.take violation.position, earlier.passes candidate = true) ∧
        set.find? violation.rule = some rule ∧
        (∃ items, Json.read (set.listing true) = .ok (.array items) ∧
          items.length = set.size ∧
          items[violation.position]? =
            some (rule.toRuleText.exported (violation.position + 1))) ∧
        ∃ rest, set.listing false =
          (RuleSet.mk (set.rules.take violation.position)).listing false ++
            (Nat.repr (violation.position + 1) ++ ". " ++ rule.name ++ " [" ++
              rule.expectation.name ++ "] " ++ rule.purpose ++ "\n   " ++ rule.pattern ++
              "\n").toList ++ rest := by
  obtain ⟨written, _⟩ := compile_eq_ok_iff.mp compiled
  obtain ⟨earlier, rule, later, cut, passed, fails, rfl⟩ := evaluate_rejected_iff.mp rejected
  have distinctRules : (set.rules.map (·.name)).Nodup := by
    rw [← written, List.map_map] at distinct
    exact distinct
  have bounded : set.size ≤ Json.greatestNatural := by
    rw [size_of_compile compiled]
    exact countable
  have place : set.rules[earlier.length]? = some rule := by
    rw [cut, List.getElem?_append_right (Nat.le_refl _), Nat.sub_self]
    rfl
  have front : set.rules.take earlier.length = earlier := by
    rw [cut, List.take_left]
  refine ⟨?_, rule, place, ?_, rfl, fails, ?_, find?_of_distinct distinctRules cut,
    ⟨_, read_listing bounded, ?_, ?_⟩, ?_⟩
  · obtain ⟨inside, _⟩ := List.getElem?_eq_some_iff.mp place
    exact inside
  · rw [← written, List.getElem?_map, place]
    rfl
  · rw [front]
    exact passed
  · simp [numbered, size]
  · rw [List.getElem?_map, getElem?_numbered, place]
    rfl
  · rw [front]
    exact listing_of_cut cut

theorem violation_points_to_rule_of_script :
    compile catalogue = .ok ⟨Catalogue.rules⟩ ∧ (catalogue.map (·.name)).Nodup ∧
      catalogue.length ≤ Json.greatestNatural ∧
      evaluate ⟨Catalogue.rules⟩ "javascript:x" = .rejected ⟨1, "denylisted_scheme"⟩ ∧
      ∃ rule, find? ⟨Catalogue.rules⟩ "denylisted_scheme" = some rule ∧
        catalogue[1]? = some rule.toRuleText ∧ rule.passes "javascript:x" = false ∧
        ∃ items, Json.read (listing true ⟨Catalogue.rules⟩) = .ok (.array items) ∧
          items[1]? = some (rule.toRuleText.exported 2) := by
  have distinct : (catalogue.map (·.name)).Nodup := by decide
  have countable : catalogue.length ≤ Json.greatestNatural := by decide
  have rejected : evaluate ⟨Catalogue.rules⟩ "javascript:x" =
      .rejected ⟨1, "denylisted_scheme"⟩ := by
    decide +kernel
  obtain ⟨_, rule, _, written, _, fails, _, found, ⟨items, listed, _, shown⟩, _⟩ :=
    violation_points_to_rule Catalogue.compile_catalogue distinct countable rejected
  exact ⟨Catalogue.compile_catalogue, distinct, countable, rejected, rule, found, written,
    fails, items, listed, shown⟩

end

end RuleSet

end LinkVetting
