import Mathlib.Data.List.Forall2
import LinkVetting.Proofs.Catalogue.Acceptance

/-!
# Places of denied prefixes

The rule against denied prefixes is restated by places in a candidate.  A line
starts at one place, a prefix of the table is spelled at that place or behind it,
and no character between the two belongs to a word.
-/

namespace LinkVetting

open Unicode (plainLetter)

namespace Catalogue

/-- A character is read as one of a token: it is the same up to ASCII case, or it is
the letter outside ASCII that folds to `s` or to `k`. -/
inductive FoldsTo : Char → Char → Prop where
  | sameLetter {c spelled : Char} : c.toLower = spelled.toLower → FoldsTo c spelled
  | longS : FoldsTo '\u017f' 's'
  | kelvin : FoldsTo '\u212a' 'k'

/-- A token is spelled at a place of a text, in any letter case. -/
def SpelledAt (text : List Char) (place : Nat) (token : List Char) : Prop :=
  List.Forall₂ FoldsTo ((text.drop place).take token.length) token

/-- A line of a text starts at a place: nothing stands before it, or the end of a line. -/
def LineStartsAt (text : List Char) (place : Nat) : Prop :=
  place = 0 ∨ ∃ c ∈ ['\n', '\r', '\u2028', '\u2029'], text[place - 1]? = some c

/-- No character between two places of a text belongs to a word. -/
def NoWordBetween (text : List Char) (start place : Nat) : Prop :=
  ∀ index c, start ≤ index → index < place → text[index]? = some c →
    Unicode.isAsciiWord c.toNat = false

/-! ## Letters of tokens -/

section

variable {c spelled : Char} {word token : List Char}

/-- The letters that tokens are written with are small ones, so folding is reading
the plain letter. -/
theorem foldsTo_iff (member : spelled ∈ Unicode.tokenAlphabet) :
    FoldsTo c spelled ↔ plainLetter c = spelled := by
  have small : spelled.toLower = spelled := by
    have checked : Unicode.tokenAlphabet.all (fun c => c.toLower == c) = true := by decide
    exact beq_iff_eq.mp (List.all_eq_true.mp checked spelled member)
  constructor
  · intro folds
    cases folds with
    | sameLetter same =>
        rw [small] at same
        have plain : plainLetter spelled = spelled := by
          have checked : Unicode.tokenAlphabet.all (fun c => plainLetter c == c) = true := by
            decide
          exact beq_iff_eq.mp (List.all_eq_true.mp checked spelled member)
        rw [← Unicode.plainLetter_toLower, same, plain]
    | longS => rfl
    | kelvin => rfl
  · intro plain
    unfold plainLetter at plain
    split at plain
    · rename_i longS
      subst longS plain
      exact .longS
    · split at plain
      · rename_i kelvin
        subst kelvin plain
        exact .kelvin
      · apply FoldsTo.sameLetter
        rw [small, plain]

theorem forall₂_foldsTo_iff (spelled : Unicode.isToken token = true) :
    List.Forall₂ FoldsTo word token ↔ word.map plainLetter = token := by
  induction token generalizing word with
  | nil => simp
  | cons first token induction =>
      obtain ⟨member, rest⟩ := Unicode.isToken_cons_iff.mp spelled
      cases word with
      | nil => simp
      | cons c word =>
          rw [List.forall₂_cons, foldsTo_iff member, induction rest, List.map_cons,
            List.cons.injEq]

end

/-! ## Places and cuts -/

section

variable {text before gap later : List Char} {start place : Nat}

theorem lineStartsAt_iff (cut : text = before ++ later) :
    LineStartsAt text before.length ↔ StartsLine before := by
  rcases List.eq_nil_or_concat' before with rfl | ⟨earlier, last, rfl⟩
  · simp [LineStartsAt, StartsLine]
  · have found : text[(earlier ++ [last]).length - 1]? = some last := by
      rw [cut]
      simp
    have someLength : (earlier ++ [last]).length ≠ 0 := by simp
    constructor
    · intro starts position concat
      rw [List.getLast?_concat] at concat
      obtain rfl := Option.some.inj concat
      rcases starts with first | ⟨c, lineEnd, same⟩
      · exact absurd first someLength
      · rw [found] at same
        rwa [Option.some.inj same]
    · intro starts
      exact Or.inr ⟨last, starts last List.getLast?_concat, found⟩

theorem noWordBetween_iff (cut : text = before ++ gap ++ later) :
    NoWordBetween text before.length (before.length + gap.length) ↔
      ∀ c ∈ gap, Unicode.isAsciiWord c.toNat = false := by
  subst cut
  constructor
  · intro nonWord c member
    obtain ⟨index, short, found⟩ := List.getElem_of_mem member
    apply nonWord (before.length + index) c (Nat.le_add_right _ _) (by omega)
    rw [List.append_assoc, List.getElem?_append_right (Nat.le_add_right _ _),
      Nat.add_sub_cancel_left, List.getElem?_append_left short, List.getElem?_eq_getElem short,
      found]
  · intro nonWord index c behind inGap found
    rw [List.append_assoc, List.getElem?_append_right behind,
      List.getElem?_append_left (by omega)] at found
    exact nonWord c (List.mem_of_getElem? found)

theorem exists_cut (ordered : start ≤ place) (inText : place ≤ text.length) :
    ∃ before gap, text = before ++ gap ++ text.drop place ∧ before.length = start ∧
      before.length + gap.length = place := by
  refine ⟨text.take start, (text.take place).drop start, ?_, ?_, ?_⟩
  · have prefix_eq : text.take start = (text.take place).take start := by
      rw [List.take_take, Nat.min_eq_left ordered]
    rw [prefix_eq, List.take_append_drop, List.take_append_drop]
  · rw [List.length_take]
    omega
  · rw [List.length_drop, List.length_take, List.length_take]
    omega

end

/-- A denied prefix is contained where it is spelled behind the start of a line, with no
word in between. -/
theorem containsDenied_iff_places {text : List Char} :
    ContainsDenied text ↔
      ∃ start place, start ≤ place ∧ place < text.length ∧ LineStartsAt text start ∧
        NoWordBetween text start place ∧
          ∃ denied ∈ deniedPrefixes, SpelledAt text place denied.toList := by
  constructor
  · intro contains
    obtain ⟨before, gap, word, after, cut, starts, nonWord, denied, member, plain⟩ := contains
    have sameLength : word.length = denied.toList.length := by
      rw [← plain, List.length_map]
    have someWord : 0 < word.length := by
      have nonempty : ∀ other ∈ deniedPrefixes, 0 < other.toList.length := by decide
      exact sameLength ▸ nonempty denied member
    refine ⟨before.length, before.length + gap.length, Nat.le_add_right _ _, ?_, ?_, ?_,
      denied, member, ?_⟩
    · rw [cut]
      simp only [List.length_append]
      omega
    · exact (lineStartsAt_iff (by rw [cut, List.append_assoc, List.append_assoc])).mpr starts
    · exact (noWordBetween_iff (by rw [cut, List.append_assoc])).mpr nonWord
    · have rest : text.drop (before.length + gap.length) = word ++ after := by
        rw [cut, List.append_assoc, ← List.length_append, List.drop_left]
      rw [SpelledAt, rest, ← sameLength, List.take_left]
      exact (forall₂_foldsTo_iff (deniedPrefixes_spelled denied member)).mpr plain
  · intro places
    obtain ⟨start, place, ordered, inText, starts, nonWord, denied, member, spelled⟩ := places
    obtain ⟨before, gap, cut, rfl, rfl⟩ := exists_cut ordered (Nat.le_of_lt inText)
    let word := (text.drop (before.length + gap.length)).take denied.toList.length
    let after := (text.drop (before.length + gap.length)).drop denied.toList.length
    have rest : text.drop (before.length + gap.length) = word ++ after :=
      (List.take_append_drop _ _).symm
    refine ⟨before, gap, word, after, ?_, ?_, ?_, denied, member, ?_⟩
    · rw [List.append_assoc, ← rest]
      exact cut
    · rw [List.append_assoc] at cut
      exact (lineStartsAt_iff cut).mp starts
    · exact (noWordBetween_iff cut).mp nonWord
    · exact (forall₂_foldsTo_iff (deniedPrefixes_spelled denied member)).mp spelled

/-- The rule against denied prefixes rejects a candidate exactly where, behind the start
of a line and what belongs to no word, a prefix of the table is spelled in any letter
case.  Its pattern names the prefixes of the table, in their order. -/
theorem denied_fails_iff_places :
    denylistedScheme.pattern =
        "(?mR)(?:^|[\\x\x7b2028\x7d\\x\x7b2029\x7d])[^0-9A-Za-z_]*(?i:" ++
          "|".intercalate deniedPrefixes ++ ")" ∧
      ∃ rule, RuleSet.builtin.find? "denylisted_scheme" = some rule ∧
        rule.toRuleText = denylistedScheme ∧
        ∀ candidate : String, rule.passes candidate = false ↔
          ∃ start place, start ≤ place ∧ place < candidate.toList.length ∧
            LineStartsAt candidate.toList start ∧
              NoWordBetween candidate.toList start place ∧
                ∃ denied ∈ deniedPrefixes, SpelledAt candidate.toList place denied.toList := by
  refine ⟨by decide +kernel, .ofSpelled denylistedScheme deniedExpression, ?_, rfl, ?_⟩
  · rw [builtin_rules]
    rfl
  · intro candidate
    rw [← Bool.not_eq_true, passes_denied_iff, not_not]
    exact containsDenied_iff_places

end Catalogue

end LinkVetting
