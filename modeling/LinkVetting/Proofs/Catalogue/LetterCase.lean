import Mathlib.Data.List.Forall2
import LinkVetting.Proofs.Catalogue.Acceptance

/-!
# Letter case

A candidate in capitals is judged like the same candidate in small letters.  Two
letters outside ASCII fold to letters of the tokens; in place of those letters
they hide no denied prefix and no script token.
-/

namespace LinkVetting

open Unicode (plainLetter)

namespace Catalogue

/-- Two characters are the same but for the case of an ASCII letter. -/
def SameLetter (c other : Char) : Prop := other.toLower = c.toLower

/-- A character stays, or U+017F stands for an `s` and U+212A for a `k`. -/
inductive Substitutes : Char → Char → Prop where
  | same {c : Char} : Substitutes c c
  | longS {c : Char} : c ∈ ['s', 'S'] → Substitutes c '\u017f'
  | kelvin {c : Char} : c ∈ ['k', 'K'] → Substitutes c '\u212a'

/-- What a search for tokens needs to know when another character stands in place
of `c`: it folds to the same letter, and it belongs to a word only if `c` does. -/
structure ReadThrough (c other : Char) : Prop where
  plain : plainLetter other = plainLetter c
  word : Unicode.isAsciiWord other.toNat = true → Unicode.isAsciiWord c.toNat = true

/-! ## Texts that are related character by character -/

section

variable {α β : Type} {related : α → β → Prop} {front back : List α} {whole : List β}

theorem exists_append_of_forall₂ (all : List.Forall₂ related (front ++ back) whole) :
    ∃ first second, whole = first ++ second ∧
      List.Forall₂ related front first ∧ List.Forall₂ related back second := by
  induction front generalizing whole with
  | nil => exact ⟨[], whole, rfl, .nil, all⟩
  | cons c front induction =>
      cases all with
      | cons head tail =>
          obtain ⟨first, second, rfl, onFront, onBack⟩ := induction tail
          exact ⟨_ :: first, second, rfl, .cons head onFront, onBack⟩

theorem exists_of_mem_forall₂ {text : List α} {c : α}
    (all : List.Forall₂ related text whole) (member : c ∈ text) :
    ∃ other ∈ whole, related c other := by
  obtain ⟨before, after, rfl⟩ := List.append_of_mem member
  obtain ⟨_, second, rfl, _, onSecond⟩ := exists_append_of_forall₂ all
  obtain ⟨other, later, holds, _, rfl⟩ := List.forall₂_cons_left_iff.mp onSecond
  exact ⟨other, by simp, holds⟩

end

/-! ## Tokens are read through -/

section

variable {text other : List Char}

theorem map_plainLetter_of_readThrough (reads : List.Forall₂ ReadThrough text other) :
    other.map plainLetter = text.map plainLetter := by
  induction reads with
  | nil => rfl
  | cons head _ induction => rw [List.map_cons, List.map_cons, head.plain, induction]

theorem ContainsScript.readThrough (reads : List.Forall₂ ReadThrough text other)
    (contains : ContainsScript text) : ContainsScript other := by
  obtain ⟨before, word, after, rfl, plain⟩ := contains
  obtain ⟨_, otherAfter, rfl, onFront, _⟩ := exists_append_of_forall₂ reads
  obtain ⟨otherBefore, otherWord, rfl, _, onWord⟩ := exists_append_of_forall₂ onFront
  refine ⟨otherBefore, otherWord, otherAfter, rfl, ?_⟩
  rw [map_plainLetter_of_readThrough onWord]
  exact plain

theorem ReadThrough.eq_of_lineBreak {c other : Char} (reads : ReadThrough c other)
    (lineBreak : c ∈ ['\n', '\r', '\u2028', '\u2029']) : other = c := by
  have caseless : ['\n', '\r', '\u2028', '\u2029'].all
      (fun d => !d.isLower && plainLetter d == d) = true := by
    decide
  obtain ⟨notSmall, unchanged⟩ : c.isLower = false ∧ plainLetter c = c := by
    simpa using List.all_eq_true.mp caseless c lineBreak
  exact Unicode.eq_of_plainLetter_eq notSmall (reads.plain.trans unchanged)

theorem StartsLine.readThrough (reads : List.Forall₂ ReadThrough text other)
    (starts : StartsLine text) : StartsLine other := by
  intro last position
  obtain ⟨earlier, rfl⟩ := List.getLast?_eq_some_iff.mp position
  obtain ⟨first, second, rfl, _, onLast⟩ := exists_append_of_forall₂ reads.flip
  obtain ⟨c, _, readsLast, ends, rfl⟩ := List.forall₂_cons_left_iff.mp onLast
  obtain rfl := List.forall₂_nil_left_iff.mp ends
  have lineBreak := starts c List.getLast?_concat
  rw [ReadThrough.eq_of_lineBreak readsLast lineBreak]
  exact lineBreak

theorem ContainsDenied.readThrough (reads : List.Forall₂ ReadThrough text other)
    (contains : ContainsDenied text) : ContainsDenied other := by
  obtain ⟨before, gap, word, after, rfl, starts, nonWord, denied, member, plain⟩ := contains
  obtain ⟨_, otherAfter, rfl, onFront, _⟩ := exists_append_of_forall₂ reads
  obtain ⟨_, otherWord, rfl, onFront, onWord⟩ := exists_append_of_forall₂ onFront
  obtain ⟨otherBefore, otherGap, rfl, onBefore, onGap⟩ := exists_append_of_forall₂ onFront
  -- the same cut serves: nothing in the gap enters a word, and the word folds as before
  refine ⟨otherBefore, otherGap, otherWord, otherAfter, rfl, starts.readThrough onBefore,
    ?_, denied, member, ?_⟩
  · intro d inGap
    obtain ⟨c, inOriginal, readsC⟩ := exists_of_mem_forall₂ onGap.flip inGap
    have notWord := nonWord c inOriginal
    rw [← Bool.not_eq_true] at notWord ⊢
    exact fun word => notWord (readsC.word word)
  · rw [map_plainLetter_of_readThrough onWord]
    exact plain

end

/-! ## Substituted letters -/

theorem Substitutes.readThrough {c other : Char} (substitutes : Substitutes c other) :
    ReadThrough c other := by
  cases substitutes with
  | same => exact ⟨rfl, id⟩
  | longS member =>
      have folded : plainLetter '\u017f' = plainLetter c := by
        rcases List.mem_pair.mp member with rfl | rfl <;> decide
      exact ⟨folded, fun word => absurd word (by decide)⟩
  | kelvin member =>
      have folded : plainLetter '\u212a' = plainLetter c := by
        rcases List.mem_pair.mp member with rfl | rfl <;> decide
      exact ⟨folded, fun word => absurd word (by decide)⟩

/-! ## Capitals and small letters -/

section

variable {c other : Char}

theorem isAsciiWord_toLower :
    Unicode.isAsciiWord c.toLower.toNat = Unicode.isAsciiWord c.toNat := by
  rw [Unicode.toNat_toLower, Bool.eq_iff_iff]
  split
  · simp [Unicode.isAsciiWord]
    omega
  · rfl

theorem SameLetter.readThrough (same : SameLetter c other) : ReadThrough c other := by
  constructor
  · rw [← Unicode.plainLetter_toLower, same, Unicode.plainLetter_toLower]
  · rw [← isAsciiWord_toLower, same, isAsciiWord_toLower]
    exact id

theorem SameLetter.eq_of_caseless (same : SameLetter c other)
    (notSmall : c.isLower = false) (unchanged : c.toLower = c) : other = c :=
  Unicode.eq_of_toLower_eq notSmall (same.trans unchanged)

theorem isAlpha_toLower : c.toLower.isAlpha = c.isAlpha := by
  rw [Bool.eq_iff_iff, Unicode.isAlpha_iff, Unicode.isAlpha_iff, Unicode.toNat_toLower]
  split
  · omega
  · rfl

theorem isSchemeCharacter_toLower : isSchemeCharacter c.toLower = isSchemeCharacter c := by
  have sign (d : Char) (notSmall : d.isLower = false) (unchanged : d.toLower = d) :
      (c.toLower == d) = (c == d) := by
    rw [Bool.eq_iff_iff, beq_iff_eq, beq_iff_eq]
    constructor
    · exact Unicode.eq_of_toLower_eq notSmall
    · intro same
      rw [same, unchanged]
  rw [isSchemeCharacter, isSchemeCharacter, isAlpha_toLower, sign '+' (by decide) (by decide),
    sign '.' (by decide) (by decide), sign '-' (by decide) (by decide)]

theorem SameLetter.isAlpha_eq (same : SameLetter c other) : other.isAlpha = c.isAlpha := by
  rw [← isAlpha_toLower, same, isAlpha_toLower]

theorem SameLetter.isSchemeCharacter_eq (same : SameLetter c other) :
    isSchemeCharacter other = isSchemeCharacter c := by
  rw [← isSchemeCharacter_toLower, same, isSchemeCharacter_toLower]

end

section

variable {text other : List Char}

theorem sameLetters_symm (same : List.Forall₂ SameLetter text other) :
    List.Forall₂ SameLetter other text := by
  have flipped : List.Forall₂ (flip SameLetter) other text := same.flip
  exact flipped.imp fun _ _ sameLetter => Eq.symm sameLetter

theorem readThrough_of_sameLetters (same : List.Forall₂ SameLetter text other) :
    List.Forall₂ ReadThrough text other :=
  same.imp fun _ _ sameLetter => sameLetter.readThrough

theorem map_toLower_of_sameLetters (same : List.Forall₂ SameLetter text other) :
    other.map Char.toLower = text.map Char.toLower := by
  induction same with
  | nil => rfl
  | cons head _ induction => rw [List.map_cons, List.map_cons, head, induction]

theorem ContainsMarkup.sameLetters (same : List.Forall₂ SameLetter text other)
    (contains : ContainsMarkup text) : ContainsMarkup other := by
  obtain ⟨c, member, markup⟩ := contains
  obtain ⟨d, inOther, sameLetter⟩ := exists_of_mem_forall₂ same member
  have caseless : markupCharacters.all (fun d => !d.isLower && d.toLower == d) = true := by
    decide
  obtain ⟨notSmall, unchanged⟩ : c.isLower = false ∧ c.toLower = c := by
    simpa using List.all_eq_true.mp caseless c markup
  obtain rfl := sameLetter.eq_of_caseless notSmall unchanged
  exact ⟨d, inOther, markup⟩

theorem HasLetterScheme.sameLetters {scheme : List Char}
    (same : List.Forall₂ SameLetter text other) (has : HasLetterScheme text scheme) :
    ∃ otherScheme, HasLetterScheme other otherScheme ∧
      otherScheme.map Char.toLower = scheme.map Char.toLower := by
  obtain ⟨rest, rfl⟩ := has.colon
  obtain ⟨first, head, letter⟩ := has.letter
  obtain ⟨later, rfl⟩ := List.head?_eq_some_iff.mp head
  obtain ⟨otherScheme, behind, rfl, onScheme, onRest⟩ := exists_append_of_forall₂ same
  obtain ⟨colon, otherRest, sameColon, _, rfl⟩ := List.forall₂_cons_left_iff.mp onRest
  obtain rfl := sameColon.eq_of_caseless (by decide) (by decide)
  refine ⟨otherScheme, ⟨⟨otherRest, rfl⟩, ?_, ?_⟩, map_toLower_of_sameLetters onScheme⟩
  · obtain ⟨otherFirst, otherLater, sameFirst, _, rfl⟩ :=
      List.forall₂_cons_left_iff.mp onScheme
    exact ⟨otherFirst, rfl, sameFirst.isAlpha_eq.trans letter⟩
  · intro d inScheme
    obtain ⟨c, inOriginal, sameLetter⟩ := exists_of_mem_forall₂ onScheme.flip inScheme
    exact (SameLetter.isSchemeCharacter_eq sameLetter).trans (has.spelled c inOriginal)

theorem HasWebShape.sameLetters (same : List.Forall₂ SameLetter text other)
    (shape : HasWebShape text) : HasWebShape other := by
  obtain ⟨nonempty, onlyWeb⟩ := shape
  constructor
  · intro empty
    subst empty
    exact nonempty (List.forall₂_nil_right_iff.mp same)
  · intro scheme has
    obtain ⟨original, hasOriginal, lowered⟩ := has.sameLetters (sameLetters_symm same)
    rw [← lowered]
    exact onlyWeb original hasOriginal

end

section

variable {candidate other : String}

/-- Each built-in rule judges capitals like small letters. -/
theorem passes_of_sameLetters
    (same : List.Forall₂ SameLetter candidate.toList other.toList) :
    ∀ rule ∈ RuleSet.builtin.rules, rule.passes other = rule.passes candidate := by
  have back := sameLetters_symm same
  have reads := readThrough_of_sameLetters same
  have readsBack := readThrough_of_sameLetters back
  suffices agrees : ∀ rule ∈ RuleSet.builtin.rules,
      (rule.passes other = true ↔ rule.passes candidate = true) by
    intro rule member
    exact Bool.eq_iff_iff.mpr (agrees rule member)
  simp only [builtin_rules, rules, List.forall_mem_cons, passes_markup_iff,
    passes_denied_iff, passes_shape_iff, passes_script_iff]
  refine ⟨not_congr ⟨?_, ?_⟩, not_congr ⟨?_, ?_⟩, ⟨?_, ?_⟩, not_congr ⟨?_, ?_⟩, by simp⟩
  · exact ContainsMarkup.sameLetters back
  · exact ContainsMarkup.sameLetters same
  · exact ContainsDenied.readThrough readsBack
  · exact ContainsDenied.readThrough reads
  · exact HasWebShape.sameLetters back
  · exact HasWebShape.sameLetters same
  · exact ContainsScript.readThrough readsBack
  · exact ContainsScript.readThrough reads

/-- A rule that rejects a token goes on rejecting when letters are substituted. -/
theorem fails_of_substitutes
    (substituted : List.Forall₂ Substitutes candidate.toList other.toList) :
    ∀ name ∈ ["denylisted_scheme", "embedded_javascript"],
      ∃ rule, RuleSet.builtin.find? name = some rule ∧
        (rule.passes candidate = false → rule.passes other = false) := by
  have reads : List.Forall₂ ReadThrough candidate.toList other.toList :=
    substituted.imp fun _ _ substitutes => substitutes.readThrough
  simp only [List.forall_mem_cons, ← Bool.not_eq_true]
  refine ⟨⟨_, by rw [builtin_rules]; rfl, ?_⟩, ⟨_, by rw [builtin_rules]; rfl, ?_⟩, by simp⟩
  · rw [passes_denied_iff, passes_denied_iff, not_not, not_not]
    exact ContainsDenied.readThrough reads
  · rw [passes_script_iff, passes_script_iff, not_not, not_not]
    exact ContainsScript.readThrough reads

/-- Letter case does not change the outcome, and neither rule that rejects a token
loses sight of it behind a letter that folds to one of its letters. -/
theorem letter_case_hides_nothing :
    (List.Forall₂ SameLetter candidate.toList other.toList →
        (RuleSet.builtin.evaluate candidate = .accepted candidate ∧
            RuleSet.builtin.evaluate other = .accepted other) ∨
          ∃ violation, RuleSet.builtin.evaluate candidate = .rejected violation ∧
            RuleSet.builtin.evaluate other = .rejected violation) ∧
      (List.Forall₂ Substitutes candidate.toList other.toList →
        ∀ name ∈ ["denylisted_scheme", "embedded_javascript"],
          ∃ rule, RuleSet.builtin.find? name = some rule ∧
            (rule.passes candidate = false → rule.passes other = false)) := by
  constructor
  · intro same
    exact RuleSet.evaluate_of_same_passes (passes_of_sameLetters same)
  · exact fails_of_substitutes

theorem letter_case_hides_nothing_long_s :
    List.Forall₂ SameLetter "FTP:".toList "fTp:".toList ∧
      List.Forall₂ Substitutes "//ts:x".toList "//t\u017f:x".toList ∧
        RuleSet.builtin.evaluate "fTp:" = .rejected ⟨2, "scheme_shape"⟩ ∧
          ∃ rule, RuleSet.builtin.find? "denylisted_scheme" = some rule ∧
            rule.passes "//t\u017f:x" = false := by
  have same : List.Forall₂ SameLetter "FTP:".toList "fTp:".toList :=
    .cons rfl (.cons rfl (.cons rfl (.cons rfl .nil)))
  have substituted : List.Forall₂ Substitutes "//ts:x".toList "//t\u017f:x".toList :=
    .cons .same (.cons .same (.cons .same (.cons (@Substitutes.longS 's' (by decide))
      (.cons .same (.cons .same .nil)))))
  have rejected : RuleSet.builtin.evaluate "FTP:" = .rejected ⟨2, "scheme_shape"⟩ := by
    rw [builtin_rules]
    decide +kernel
  have denies : RuleSet.builtin.find? "denylisted_scheme" =
      some (.ofSpelled denylistedScheme deniedExpression) := by
    rw [builtin_rules]
    rfl
  have fails : (Rule.ofSpelled denylistedScheme deniedExpression).passes "//ts:x" = false := by
    decide +kernel
  refine ⟨same, substituted, ?_, ?_⟩
  · rcases (@letter_case_hides_nothing "FTP:" "fTp:").1 same with
      ⟨accepted, _⟩ | ⟨violation, first, second⟩
    · rw [rejected] at accepted
      cases accepted
    · rw [second, ← first, rejected]
  · obtain ⟨rule, found, keeps⟩ :=
      (@letter_case_hides_nothing "//ts:x" "//t\u017f:x").2 substituted
        "denylisted_scheme" (by simp)
    refine ⟨rule, found, keeps ?_⟩
    rw [denies] at found
    obtain rfl := Option.some.inj found
    exact fails

end

end Catalogue

end LinkVetting
