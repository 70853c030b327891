import LinkVetting.Proofs.Catalogue.Expressions
import LinkVetting.Proofs.Pattern.Constructions

/-!
# Meaning of the rules that look for something

Three of the built-in rules reject what occurs in a candidate: a markup
character anywhere, a denied prefix at the start of a line, and the token of a
script address anywhere.  Each rule is shown to look for exactly that.
-/

namespace LinkVetting

open Pattern (Matches OccursIn Regex Spelled)
open Unicode (plainLetter)

namespace Catalogue

/-! ## Markup -/

def ContainsMarkup (text : List Char) : Prop := ∃ c ∈ text, c ∈ markupCharacters

theorem occursIn_markup_iff {text : List Char} :
    OccursIn markupExpression.regex text ↔ ContainsMarkup text := by
  have members (c : Char) :
      (Pattern.SpelledSet.unionOf
        (markupCharacters.map fun c => .codes [c.toNat])).members c.toNat = true ↔
        c ∈ markupCharacters := by
    rw [Pattern.SpelledSet.members_unionOf_iff]
    exact Pattern.SpelledSet.members_someCode_iff
  simp only [OccursIn, markupExpression, Spelled.regex, Regex.ofCodes,
    Pattern.matches_set_iff, members]
  constructor
  · intro found
    obtain ⟨before, word, after, rfl, c, rfl, markup⟩ := found
    exact ⟨c, by simp, markup⟩
  · intro found
    obtain ⟨c, inText, markup⟩ := found
    obtain ⟨before, after, rfl⟩ := List.append_of_mem inText
    exact ⟨before, [c], after, by simp, c, rfl, markup⟩

/-! ## The script token -/

/-- The token of a script address, in any case, at any place. -/
def ContainsScript (text : List Char) : Prop :=
  ∃ before word after, text = before ++ word ++ after ∧
    word.map plainLetter = "javascript:".toList

theorem occursIn_script_iff {text : List Char} :
    OccursIn scriptExpression.regex text ↔ ContainsScript text := by
  have spelled : Unicode.isToken "javascript:".toList = true := by decide
  have regex : scriptExpression.regex =
      Regex.sequence (.empty :: "javascript:".toList.map Regex.caseless) := by
    rw [scriptExpression, Spelled.regex_sequence, List.map_cons, List.map_map]
    rfl
  simp only [OccursIn, ContainsScript, regex, Pattern.matches_sequence_cons_iff,
    Pattern.matches_empty_iff, Pattern.matches_token_iff spelled]
  constructor
  · intro found
    obtain ⟨before, word, after, cut, front, back, rfl, rfl, plain⟩ := found
    exact ⟨before, back, after, cut, plain⟩
  · intro found
    obtain ⟨before, word, after, cut, plain⟩ := found
    exact ⟨before, word, after, cut, [], word, rfl, rfl, plain⟩

/-! ## Denied prefixes -/

/-- A line of a text starts behind the given part: nothing stands there, or the
end of a line. -/
def StartsLine (before : List Char) : Prop :=
  ∀ last, before.getLast? = some last → last ∈ ['\n', '\r', '\u2028', '\u2029']

/-- A denied prefix starts a line; characters outside words do not hide it. -/
def ContainsDenied (text : List Char) : Prop :=
  ∃ before gap word after, text = before ++ gap ++ word ++ after ∧
    StartsLine before ∧ (∀ c ∈ gap, Unicode.isAsciiWord c.toNat = false) ∧
      ∃ denied ∈ deniedPrefixes, word.map plainLetter = denied.toList

theorem deniedPrefixes_spelled :
    ∀ denied ∈ deniedPrefixes, Unicode.isToken denied.toList = true := by
  decide

private theorem head_of_denied {word : List Char} {denied : String}
    (member : denied ∈ deniedPrefixes) (plain : word.map plainLetter = denied.toList) :
    ∃ c later, word = c :: later ∧ c ≠ '\n' := by
  cases word with
  | nil =>
      have nonempty : ∀ other ∈ deniedPrefixes, other.toList ≠ [] := by decide
      exact absurd plain.symm (nonempty denied member)
  | cons c later =>
      refine ⟨c, later, rfl, ?_⟩
      intro same
      subst same
      have spelled := deniedPrefixes_spelled denied member
      rw [← plain, List.map_cons, Unicode.isToken_cons_iff] at spelled
      exact absurd spelled.1 (by decide)

private theorem nonWord_iff {c : Char} :
    (Pattern.SpelledSet.complement (.unionOf
      [.between 0x30 0x39, .between 0x41 0x5A, .between 0x61 0x7A,
        .codes [0x5F]])).members c.toNat = true ↔
      Unicode.isAsciiWord c.toNat = false := by
  simp only [Pattern.SpelledSet.members, Pattern.SpelledSet.unionOf,
    Pattern.CodeSet.complement, Pattern.CodeSet.union, Pattern.CodeSet.between,
    Pattern.CodeSet.ofList, Unicode.isAsciiWord]
  simp
  omega

private theorem lineBreak_iff {c : Char} :
    (Pattern.SpelledSet.unionOf [.codes [0x2028], .codes [0x2029]]).members
      c.toNat = true ↔ c = '\u2028' ∨ c = '\u2029' := by
  rw [Pattern.SpelledSet.members_unionOf_iff]
  have separator := @Pattern.SpelledSet.members_code_iff c '\u2028'
  have paragraph := @Pattern.SpelledSet.members_code_iff c '\u2029'
  simpa using or_congr separator paragraph

private theorem matches_lineStart_iff {before start later : List Char} :
    Matches (Spelled.choice [.boundary .anyLineStart,
        .set (.unionOf [.codes [0x2028], .codes [0x2029]])]).regex
      before start later ↔
      (start = [] ∧
        Pattern.Boundary.anyLineStart.holds before.getLast? later.head? = true) ∨
        ∃ c, start = [c] ∧ (c = '\u2028' ∨ c = '\u2029') := by
  simp only [Spelled.choice, Spelled.regex, Regex.ofCodes,
    Pattern.matches_either_iff, Pattern.matches_boundary_iff,
    Pattern.matches_set_iff, lineBreak_iff]

private theorem matches_anyDenied_iff {before word after : List Char} :
    Matches (Spelled.choice
        (deniedPrefixes.map fun denied => token denied.toList)).regex
      before word after ↔
      ∃ denied ∈ deniedPrefixes, word.map plainLetter = denied.toList := by
  have matches_token {denied : String} (member : denied ∈ deniedPrefixes) :
      Matches (token denied.toList).regex before word after ↔
        word.map plainLetter = denied.toList := by
    have regex : (token denied.toList).regex =
        Regex.sequence (denied.toList.map Regex.caseless) := by
      rw [token, Spelled.regex_sequence, List.map_map]
      rfl
    rw [regex]
    exact Pattern.matches_token_iff (deniedPrefixes_spelled denied member)
  rw [Spelled.regex_choice, Pattern.matches_choice_iff]
  simp only [List.map_map, List.mem_map, Function.comp_apply]
  constructor
  · intro found
    obtain ⟨_, ⟨denied, member, rfl⟩, reading⟩ := found
    exact ⟨denied, member, (matches_token member).mp reading⟩
  · intro found
    obtain ⟨denied, member, plain⟩ := found
    exact ⟨_, ⟨denied, member, rfl⟩, (matches_token member).mpr plain⟩

/-- The boundary holds at the start of a line, unless a separator stands before
it or the second half of a line end behind it. -/
private theorem boundary_of_startsLine {before later : List Char}
    (starts : StartsLine before) :
    Pattern.Boundary.anyLineStart.holds before.getLast? later.head? = true ∨
      (∃ earlier c, before = earlier ++ [c] ∧ (c = '\u2028' ∨ c = '\u2029')) ∨
        ∃ rest, later = '\n' :: rest := by
  cases position : before.getLast? with
  | none => exact Or.inl rfl
  | some last =>
      obtain ⟨earlier, rfl⟩ := List.getLast?_eq_some_iff.mp position
      have member := starts last position
      simp only [List.mem_cons, List.not_mem_nil, or_false] at member
      rcases member with rfl | rfl | separator
      · exact Or.inl rfl
      · cases later with
        | nil => exact Or.inl rfl
        | cons next rest =>
            by_cases lineFeed : next = '\n'
            · exact Or.inr (Or.inr ⟨rest, by rw [lineFeed]⟩)
            · exact Or.inl (by simp [Pattern.Boundary.holds, lineFeed])
      · exact Or.inr (Or.inl ⟨earlier, last, rfl, separator⟩)

private theorem startsLine_of_boundary {before later : List Char}
    (holds : Pattern.Boundary.anyLineStart.holds before.getLast? later.head? = true) :
    StartsLine before := by
  intro last position
  rw [position] at holds
  simp only [Pattern.Boundary.holds, Option.all_some, Bool.or_eq_true,
    Bool.and_eq_true, beq_iff_eq] at holds
  rcases holds with rfl | ⟨rfl, _⟩ <;> simp

private theorem startsLine_of_separator {before : List Char} {c : Char}
    (separator : c = '\n' ∨ c = '\u2028' ∨ c = '\u2029') :
    StartsLine (before ++ [c]) := by
  intro last position
  rw [List.getLast?_concat] at position
  cases position
  rcases separator with rfl | rfl | rfl <;> simp

private theorem matches_denied_iff {before word after : List Char} :
    Matches deniedExpression.regex before word after ↔
      ∃ start gap tail, word = start ++ (gap ++ tail) ∧
        ((start = [] ∧ Pattern.Boundary.anyLineStart.holds before.getLast?
            (gap ++ tail ++ after).head? = true) ∨
          ∃ c, start = [c] ∧ (c = '\u2028' ∨ c = '\u2029')) ∧
        (∀ c ∈ gap, Unicode.isAsciiWord c.toNat = false) ∧
        ∃ denied ∈ deniedPrefixes, tail.map plainLetter = denied.toList := by
  have gapRegex (set : Pattern.SpelledSet) :
      (Spelled.repeated (.set set) 0 none).regex =
        .star (.set fun c => set.members c.toNat) := rfl
  have emptyRegex : Spelled.empty.regex = .empty := rfl
  rw [deniedExpression, Spelled.regex_sequence]
  simp only [List.map_cons, List.map_nil, Pattern.matches_sequence_cons_iff,
    Pattern.matches_sequence_nil_iff, emptyRegex, gapRegex,
    Pattern.matches_empty_iff, matches_lineStart_iff, matches_anyDenied_iff,
    Pattern.matches_star_set_iff, nonWord_iff]
  constructor
  · intro found
    obtain ⟨_, _, rfl, rfl, start, _, rfl, starts, gap, _, rfl, nonWord, tail, _,
      rfl, denied, rfl⟩ := found
    exact ⟨start, gap, tail, by simp, by simpa using starts, nonWord, denied⟩
  · intro found
    obtain ⟨start, gap, tail, rfl, starts, nonWord, denied⟩ := found
    exact ⟨[], _, rfl, rfl, start, _, rfl, by simpa using starts, gap, _, rfl,
      nonWord, tail, [], by simp, denied, rfl⟩

theorem occursIn_denied_iff {text : List Char} :
    OccursIn deniedExpression.regex text ↔ ContainsDenied text := by
  simp only [OccursIn, matches_denied_iff]
  constructor
  · intro found
    obtain ⟨before, _, after, rfl, start, gap, tail, rfl, starts, nonWord,
      denied⟩ := found
    rcases starts with ⟨rfl, holds⟩ | ⟨c, rfl, separator⟩
    · exact ⟨before, gap, tail, after, by simp, startsLine_of_boundary holds,
        nonWord, denied⟩
    · exact ⟨before ++ [c], gap, tail, after, by simp,
        startsLine_of_separator (Or.inr separator), nonWord, denied⟩
  · intro found
    obtain ⟨before, gap, word, after, rfl, starts, nonWord, denied, member,
      plain⟩ := found
    rcases @boundary_of_startsLine before (gap ++ word ++ after) starts with
      holds | ⟨earlier, c, rfl, separator⟩ | ⟨rest, goesOn⟩
    · exact ⟨before, gap ++ word, after, by simp, [], gap, word, rfl,
        Or.inl ⟨rfl, holds⟩, nonWord, denied, member, plain⟩
    · exact ⟨earlier, [c] ++ (gap ++ word), after, by simp, [c], gap, word, rfl,
        Or.inr ⟨c, rfl, separator⟩, nonWord, denied, member, plain⟩
    · cases gap with
      | nil =>
          obtain ⟨c, later, rfl, different⟩ := head_of_denied member plain
          exact absurd (List.cons.inj goesOn).1 different
      | cons first gap =>
          obtain rfl := (List.cons.inj goesOn).1
          have laterNonWord : ∀ c ∈ gap, Unicode.isAsciiWord c.toNat = false :=
            fun c inGap => nonWord c (List.mem_cons_of_mem _ inGap)
          refine ⟨before ++ ['\n'], gap ++ word, after, by simp, [], gap, word, rfl,
            Or.inl ⟨rfl, ?_⟩, laterNonWord, denied, member, plain⟩
          simp [Pattern.Boundary.holds]

end Catalogue

end LinkVetting
