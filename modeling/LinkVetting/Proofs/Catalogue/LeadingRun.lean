import LinkVetting.Proofs.Catalogue.BrowserView
import LinkVetting.Proofs.Text.Runs

/-!
# The shape rule by the leading run

What the shape rule lets through is told by the longest run of scheme characters that
a candidate starts with and the one character behind it.  The rule ignores case in the
Unicode way, but no letter outside ASCII belongs to such a run, so ignoring the case of
ASCII letters alone would make the same rule.
-/

namespace LinkVetting

open Pattern (Matches OccursIn Regex Spelled)

namespace Catalogue

/-- The longest run of scheme characters that a text starts with. -/
def leadingRun (text : List Char) : List Char := text.takeWhile isSchemeCharacter

/-- What follows the leading run. -/
def afterRun (text : List Char) : List Char := text.dropWhile isSchemeCharacter

/-- The leading run and the character that ends it. -/
def decidingPart (text : List Char) : List Char :=
  leadingRun text ++ (afterRun text).take 1

/-! ## The leading run -/

section

variable {text run rest scheme : List Char} {c : Char}

theorem leadingRun_append_afterRun : leadingRun text ++ afterRun text = text :=
  List.takeWhile_append_dropWhile

theorem isSchemeCharacter_of_mem_leadingRun (member : c ∈ leadingRun text) :
    isSchemeCharacter c = true :=
  List.mem_takeWhile_imp member

theorem not_isSchemeCharacter_of_afterRun (behind : afterRun text = c :: rest) :
    isSchemeCharacter c = false := by
  have stops := List.head?_dropWhile_not isSchemeCharacter text
  rw [afterRun] at behind
  rw [behind] at stops
  simpa using stops

/-- A run of scheme characters is the leading one where no scheme character is behind it. -/
theorem leadingRun_and_afterRun_of_cut (spelled : ∀ c ∈ run, isSchemeCharacter c = true)
    (ends : ∀ c ∈ rest.head?, isSchemeCharacter c = false) :
    leadingRun (run ++ rest) = run ∧ afterRun (run ++ rest) = rest :=
  ⟨Text.takeWhile_append_of_ends spelled ends, Text.dropWhile_append_of_ends spelled ends⟩

theorem leadingRun_and_afterRun_decidingPart :
    leadingRun (decidingPart text) = leadingRun text ∧
      afterRun (decidingPart text) = (afterRun text).take 1 := by
  refine leadingRun_and_afterRun_of_cut
    (fun c member => isSchemeCharacter_of_mem_leadingRun member) ?_
  intro c first
  cases behind : afterRun text with
  | nil =>
      rw [behind] at first
      cases first
  | cons other later =>
      rw [behind] at first
      obtain rfl := Option.some.inj first
      exact not_isSchemeCharacter_of_afterRun behind

theorem head?_decidingPart : (decidingPart text).head? = text.head? := by
  have whole : text.head? = (leadingRun text ++ afterRun text).head? := by
    rw [leadingRun_append_afterRun]
  rw [whole, decidingPart, List.head?_append, List.head?_append, List.head?_take,
    if_neg Nat.one_ne_zero]

/-! ## What the run decides -/

/-- A text has a letter-only scheme exactly where a colon follows its leading run and the
run starts with a letter; the run is the scheme. -/
theorem hasLetterScheme_iff_run :
    HasLetterScheme text scheme ↔
      scheme = leadingRun text ∧ (afterRun text).head? = some ':' ∧
        ∃ c, text.head? = some c ∧ c.isAlpha = true := by
  constructor
  · intro has
    obtain ⟨rest, rfl⟩ := has.colon
    obtain ⟨c, head, letter⟩ := has.letter
    have colonEnds : isSchemeCharacter ':' = false := by decide
    obtain ⟨run, after⟩ := @leadingRun_and_afterRun_of_cut scheme (':' :: rest)
      has.spelled (by simpa using colonEnds)
    rw [run, after]
    exact ⟨rfl, rfl, c, by rw [List.head?_append, head]; rfl, letter⟩
  · intro parts
    obtain ⟨rfl, colon, c, head, letter⟩ := parts
    obtain ⟨rest, behind⟩ := List.head?_eq_some_iff.mp colon
    obtain ⟨later, rfl⟩ := List.head?_eq_some_iff.mp head
    have inRun : isSchemeCharacter c = true := by simp [isSchemeCharacter, letter]
    refine ⟨⟨rest, ?_⟩, ⟨c, ?_, letter⟩, fun c => isSchemeCharacter_of_mem_leadingRun⟩
    · rw [← behind, leadingRun_append_afterRun]
    · rw [leadingRun, List.takeWhile_cons_of_pos inRun, List.head?_cons]

theorem hasWebShape_iff_run :
    HasWebShape text ↔
      text ≠ [] ∧
        ((∃ first, text.head? = some first ∧ first.isAlpha = false) ∨
          (afterRun text).head? ≠ some ':' ∨
            (leadingRun text).map Char.toLower ∈ ["http".toList, "https".toList]) := by
  refine and_congr_right fun nonempty => ?_
  obtain ⟨first, later, rfl⟩ := List.exists_cons_of_ne_nil nonempty
  constructor
  · intro onlyWeb
    by_cases letter : first.isAlpha = true
    · by_cases colon : (afterRun (first :: later)).head? = some ':'
      · exact Or.inr (Or.inr (onlyWeb _
          (hasLetterScheme_iff_run.mpr ⟨rfl, colon, first, rfl, letter⟩)))
      · exact Or.inr (Or.inl colon)
    · exact Or.inl ⟨first, rfl, by simpa using letter⟩
  · intro decided scheme has
    obtain ⟨rfl, colon, c, head, letter⟩ := hasLetterScheme_iff_run.mp has
    rcases decided with ⟨other, otherHead, notLetter⟩ | noColon | web
    · rw [head] at otherHead
      rw [← Option.some.inj otherHead, letter] at notLetter
      cases notLetter
    · exact absurd colon noColon
    · exact web

/-- Nothing behind the character that ends the leading run matters to the shape. -/
theorem hasWebShape_decidingPart_iff : HasWebShape (decidingPart text) ↔ HasWebShape text := by
  obtain ⟨run, after⟩ := @leadingRun_and_afterRun_decidingPart text
  have nonempty : decidingPart text ≠ [] ↔ text ≠ [] := by
    rw [ne_eq, ne_eq, ← List.head?_eq_none_iff, ← List.head?_eq_none_iff, head?_decidingPart]
  rw [hasWebShape_iff_run, hasWebShape_iff_run, run, after, head?_decidingPart, nonempty,
    List.head?_take, if_neg Nat.one_ne_zero]

end

/-! ## Letter case -/

/-- The shape rule with the case of ASCII letters ignored alone. -/
def asciiSchemeShape : RuleText :=
  { schemeShape with
    pattern := "^(?:(?i-u:https?:)|[^A-Za-z]|[A-Za-z+.\\-]+(?:[^A-Za-z+.\\-:]|$))" }

/-- The two ASCII cases of a letter. -/
def asciiCaseless (c : Char) : Spelled :=
  .set (.codes [c.toNat, Pattern.CodeSet.otherAsciiCase c.toNat])

theorem spelled_asciiSchemeShape :
    Regex.spelled? asciiSchemeShape.pattern.toList =
      some (shapeWith (webWith asciiCaseless)) := by
  decide +kernel

theorem otherAsciiCase_iff {c read : Char} (member : c ∈ Unicode.tokenAlphabet) :
    read.toNat ∈ [c.toNat, Pattern.CodeSet.otherAsciiCase c.toNat] ↔ read.toLower = c := by
  have bounds : c.toNat < 0x41 ∨ 0x61 ≤ c.toNat ∧ c.toNat ≤ 0x7A := by
    have checked : Unicode.tokenAlphabet.all (fun c => decide (c.toNat < 0x41 ∨
        0x61 ≤ c.toNat ∧ c.toNat ≤ 0x7A)) = true := by decide
    exact of_decide_eq_true (List.all_eq_true.mp checked c member)
  rw [← Char.toNat_inj, Unicode.toNat_toLower]
  simp only [Pattern.CodeSet.otherAsciiCase, List.mem_cons, List.not_mem_nil, or_false,
    Bool.and_eq_true, decide_eq_true_eq]
  split_ifs <;> omega

theorem matches_asciiCaseless_iff {c : Char} {before word after : List Char}
    (member : c ∈ Unicode.tokenAlphabet) :
    Matches (asciiCaseless c).regex before word after ↔ word.map Char.toLower = [c] := by
  simp only [asciiCaseless, Spelled.regex, Regex.ofCodes, Pattern.SpelledSet.members,
    Pattern.CodeSet.ofList, Pattern.matches_set_iff, List.contains_iff_mem,
    otherAsciiCase_iff member]
  constructor
  · intro found
    obtain ⟨read, rfl, small⟩ := found
    rw [List.map_singleton, small]
  · intro small
    obtain ⟨read, rfl, same⟩ := List.map_eq_singleton_iff.mp small
    exact ⟨read, rfl, same⟩

theorem occursIn_asciiShape_iff {text : List Char} :
    OccursIn (shapeWith (webWith asciiCaseless)).regex text ↔ HasWebShape text := by
  have spelled : Unicode.isToken "https:".toList = true := by decide
  have reads {before word after : List Char} :=
    @matches_webWith_iff asciiCaseless Char.toLower before word after
      fun _ member => matches_asciiCaseless_iff (Unicode.mem_tokenAlphabet spelled member)
  refine occursIn_shapeWith_iff ?_ reads.mpr
  intro before word after found
  refine (reads.mp found).imp ?_ ?_
  · exact fun http => plainLetter_of_toLower http (by decide)
  · exact fun https => plainLetter_of_toLower https (by decide)

/-- The shape rule lets a candidate through exactly where it is not empty and starts with
no letter, or has no colon behind its leading run, or has a scheme of the web as this
run.  Case variants outside ASCII never change that, nor does anything behind the
character that ends the run. -/
theorem shape_passes_iff_run :
    ∃ rule, RuleSet.builtin.find? "scheme_shape" = some rule ∧
      rule.toRuleText = schemeShape ∧
      (∀ candidate : String, rule.passes candidate = true ↔
        candidate ≠ "" ∧
          ((∃ first, candidate.toList.head? = some first ∧ first.isAlpha = false) ∨
            (afterRun candidate.toList).head? ≠ some ':' ∨
              (leadingRun candidate.toList).map Char.toLower ∈
                ["http".toList, "https".toList])) ∧
      (∃ asciiRule, Rule.compile asciiSchemeShape = .ok asciiRule ∧
        ∀ candidate : String, asciiRule.passes candidate = rule.passes candidate) ∧
      ∀ candidate : String,
        rule.passes (String.ofList (decidingPart candidate.toList)) =
          rule.passes candidate := by
  refine ⟨.ofSpelled schemeShape shapeExpression, ?_, rfl, ?_, ⟨_,
    Rule.compile_of_spelled? spelled_asciiSchemeShape (by decide +kernel), ?_⟩, ?_⟩
  · rw [builtin_rules]
    rfl
  · intro candidate
    have nonempty : candidate.toList ≠ [] ↔ candidate ≠ "" := by simp
    rw [passes_shape_iff, hasWebShape_iff_run, nonempty]
  · intro candidate
    rw [Bool.eq_iff_iff, passes_shape_iff, Rule.passes_ofSpelled_mustMatch_iff rfl,
      occursIn_asciiShape_iff]
  · intro candidate
    rw [Bool.eq_iff_iff, passes_shape_iff, passes_shape_iff, String.toList_ofList,
      hasWebShape_decidingPart_iff]

end Catalogue

end LinkVetting
