import LinkVetting.Json.Choice
import LinkVetting.Proofs.Json.Ordered
import LinkVetting.Proofs.RuleSet.Compilation
import LinkVetting.Report

/-!
# The listing of rules

A listing shows the rules in order, each under its number, counted from one.  In JSON it
loses nothing: the rules are read back as they were written, and they compile to a rule
set with the same verdicts.
-/

namespace LinkVetting

def Json.text? : Json → Option String
  | .string text => some text
  | _ => none

namespace RuleText

/-- What a listing in JSON says about a rule with a number, the members sorted by name. -/
def exported (text : RuleText) (number : Nat) : Json :=
  .object [("expectation", .string text.expectation.name), ("name", .string text.name),
    ("pattern", .string text.pattern), ("position", .ofNat number),
    ("purpose", .string text.purpose)]

/-- The rule that an object stands for, its expectation decoded as a choice. -/
def ofJson? (value : Json) : Option RuleText := do
  let name ← (← value.member? "name").text?
  let purpose ← (← value.member? "purpose").text?
  let pattern ← (← value.member? "pattern").text?
  let expectation ← (Json.choice Expectation.choices (← value.member? "expectation")).toOption
  return { name, purpose, pattern, expectation }

section

variable {text : RuleText} {number : Nat}

theorem ofJson?_exported : ofJson? (text.exported number) = some text := by
  have decoded : Json.choice Expectation.choices (.string text.expectation.name) =
      .ok text.expectation := by
    rw [Json.choice, Json.namedChoice, Expectation.lookup_name]
  have expectation : (text.exported number).member? "expectation" =
      some (.string text.expectation.name) := rfl
  have name : (text.exported number).member? "name" = some (.string text.name) := rfl
  have pattern : (text.exported number).member? "pattern" = some (.string text.pattern) := rfl
  have purpose : (text.exported number).member? "purpose" = some (.string text.purpose) := rfl
  simp [ofJson?, expectation, name, pattern, purpose, Json.text?, decoded, Except.toOption]

theorem mapM_ofJson?_exported {numbered : List (RuleText × Nat)} :
    (numbered.map fun (text, number) => text.exported number).mapM ofJson? =
      some (numbered.map Prod.fst) := by
  induction numbered with
  | nil => rfl
  | cons first later induction =>
      rw [List.map_cons, List.mapM_cons, ofJson?_exported, induction]
      rfl

end

end RuleText

namespace RuleSet

section

variable {texts : List RuleText} {set : RuleSet} {tooLarge : Pattern.SizeCheck}

/-- The rules as they were written, with their numbers, which count from one. -/
def numbered (set : RuleSet) : List (RuleText × Nat) :=
  (set.rules.map Rule.toRuleText).zipIdx 1

theorem getElem?_numbered {place : Nat} :
    set.numbered[place]? =
      set.rules[place]?.map fun rule => (rule.toRuleText, place + 1) := by
  rw [numbered, List.getElem?_zipIdx, List.getElem?_map, Option.map_map, Nat.add_comm]
  rfl

theorem fits_listedJson {depth place : Nat} {rule : Rule}
    (countable : place ≤ Json.greatestNatural) :
    Json.Fits (depth + 1) (listedJson place rule) := by
  refine Json.Fits.object fun member inMembers => ?_
  simp only [List.mem_cons, List.not_mem_nil, or_false] at inMembers
  rcases inMembers with rfl | rfl | rfl | rfl | rfl
  · exact .natural countable
  · exact .string
  · exact .string
  · exact .string
  · exact .string

/-- A listing in JSON is read back as an array with what it says about each rule. -/
theorem read_listing (countable : set.size ≤ Json.greatestNatural) :
    Json.read (set.listing true) =
      .ok (.array (set.numbered.map fun (text, number) => text.exported number)) := by
  let listed := set.placed.map fun placed => listedJson placed.2 placed.1
  have fits : Json.Fits Json.depthLimit (.array listed) := by
    refine Json.Fits.array fun item inListed => ?_
    obtain ⟨⟨rule, place⟩, inPlaced, rfl⟩ := List.mem_map.mp inListed
    obtain ⟨_, bounded, _⟩ := List.mem_zipIdx inPlaced
    rw [Nat.add_comm] at bounded
    exact fits_listedJson (Nat.le_trans (Nat.le_of_lt_succ bounded) countable)
  have sorted : (Json.array listed).sorted =
      .array (set.numbered.map fun (text, number) => text.exported number) := by
    rw [Json.sorted, Json.sortedItems_eq, List.map_map, numbered, List.zipIdx_map, List.map_map]
    rfl
  rw [← sorted]
  exact Json.read_indentedChars fits (List.forall_mem_singleton.mpr rfl)

/-- The listing in JSON of a compiled rule set is read as an array with one object for
each rule, in order, that holds its number and the rule as it was written.  The rules that
the objects stand for compile to a rule set with the same verdicts.  Numbers are read
exactly as far as a machine word counts, which no list in memory goes beyond. -/
theorem listing_exports (compiled : compile texts tooLarge = .ok set)
    (countable : texts.length ≤ Json.greatestNatural) :
    ∃ items, Json.read (set.listing true) = .ok (.array items) ∧
      (∀ index : Nat,
        items[index]? = texts[index]?.map fun text => text.exported (index + 1)) ∧
      ∃ read rebuilt, items.mapM RuleText.ofJson? = some read ∧
        compile read tooLarge = .ok rebuilt ∧
        ∀ candidate, rebuilt.evaluate candidate = set.evaluate candidate := by
  obtain ⟨written, _⟩ := compile_eq_ok_iff.mp compiled
  have bounded : set.size ≤ Json.greatestNatural := by
    rw [size_of_compile compiled]
    exact countable
  refine ⟨_, read_listing bounded, fun index => ?_, texts, set, ?_, compiled,
    fun candidate => rfl⟩
  · rw [List.getElem?_map, getElem?_numbered, ← written, List.getElem?_map, Option.map_map,
      Option.map_map]
    rfl
  · rw [RuleText.mapM_ofJson?_exported, numbered, List.zipIdx_map_fst, written]

theorem listing_exports_quotes :
    let noQuotes : RuleText :=
      { name := "no \"quotes\"", purpose := "keeps\nlines\u0001", pattern := "[\"\\\\]"
        expectation := .mustNotMatch }
    ∃ set, compile [noQuotes] = .ok set ∧ [noQuotes].length ≤ Json.greatestNatural ∧
      ∃ items, Json.read (set.listing true) = .ok (.array items) ∧
        items[0]? = some (noQuotes.exported 1) ∧
        ∃ read rebuilt, items.mapM RuleText.ofJson? = some read ∧
          compile read = .ok rebuilt ∧
          ∀ candidate, rebuilt.evaluate candidate = set.evaluate candidate := by
  intro noQuotes
  have read : ∃ expression, Pattern.Regex.ofPattern "[\"\\\\]".toList = .ok expression :=
    ⟨_, rfl⟩
  obtain ⟨set, compiled⟩ := @compile_of_readable [noQuotes] Pattern.SizeCheck.estimated
    (List.forall_mem_singleton.mpr read)
  have countable : [noQuotes].length ≤ Json.greatestNatural := by decide
  obtain ⟨items, listed, exported, rebuilds⟩ := listing_exports compiled countable
  exact ⟨set, compiled, countable, items, listed, exported 0, rebuilds⟩

end

end RuleSet

end LinkVetting
