import Mathlib.Data.List.TakeWhile
import LinkVetting.Proofs.Catalogue.Expressions
import LinkVetting.Proofs.Pattern.Constructions
import LinkVetting.Proofs.Text.Runs

/-!
# Meaning of the shape rule

The shape rule looks at the start of a candidate.  It is shown to let through
exactly the candidates that are not empty and whose letter-only scheme, if they
have one, is `http` or `https`.
-/

namespace LinkVetting

open Pattern (Matches OccursIn Regex Spelled SpelledSet)
open Unicode (plainLetter)

namespace Catalogue

/-- The characters of a letter-only scheme. -/
def isSchemeCharacter (c : Char) : Bool :=
  c.isAlpha || c == '+' || c == '.' || c == '-'

/-- A text starts with a letter-only scheme and a colon. -/
structure HasLetterScheme (text scheme : List Char) : Prop where
  colon : ∃ rest, text = scheme ++ ':' :: rest
  letter : ∃ c, scheme.head? = some c ∧ c.isAlpha = true
  spelled : ∀ c ∈ scheme, isSchemeCharacter c = true

/-- A letter-only scheme of the text is `http` or `https`, in any case. -/
def HasWebShape (text : List Char) : Prop :=
  text ≠ [] ∧ ∀ scheme, HasLetterScheme text scheme →
    scheme.map Char.toLower ∈ ["http".toList, "https".toList]

private theorem letterSets_iff {c : Char} :
    (SpelledSet.unionOf letterSets).members c.toNat = true ↔ c.isAlpha = true := by
  simp [Unicode.isAlpha_iff, letterSets, SpelledSet.unionOf, SpelledSet.members,
    Pattern.CodeSet.union, Pattern.CodeSet.between]

private theorem schemeSets_iff {c : Char} :
    (SpelledSet.unionOf schemeSets).members c.toNat = true ↔
      isSchemeCharacter c = true := by
  have letter := @letterSets_iff c
  rw [SpelledSet.members_unionOf_iff] at letter ⊢
  simp only [schemeSets, List.mem_append, or_and_right, exists_or, letter,
    SpelledSet.members_someCode_iff]
  simp [isSchemeCharacter, or_assoc]

private theorem beyondScheme_iff {c : Char} :
    (SpelledSet.complement
        (.unionOf (schemeSets ++ [.codes [':'.toNat]]))).members c.toNat = true ↔
      isSchemeCharacter c = false ∧ c ≠ ':' := by
  have scheme := @schemeSets_iff c
  rw [SpelledSet.members_unionOf_iff] at scheme
  have members : (SpelledSet.unionOf
      (schemeSets ++ [.codes [':'.toNat]])).members c.toNat = true ↔
        isSchemeCharacter c = true ∨ c = ':' := by
    simp only [SpelledSet.members_unionOf_iff, List.mem_append, or_and_right,
      exists_or, scheme, List.mem_singleton, exists_eq_left,
      SpelledSet.members_code_iff]
  simp only [SpelledSet.members, Pattern.CodeSet.complement, Bool.not_eq_true',
    ← Bool.not_eq_true, members, not_or, ne_eq]

/-- Two cuts of a text behind characters of one kind, before one of another
kind, are the same cut. -/
private theorem cut_unique {kind : Char → Bool} {left right after rest : List Char}
    {c d : Char} (onLeft : ∀ x ∈ left, kind x = true)
    (onRight : ∀ x ∈ right, kind x = true) (first : kind c = false)
    (second : kind d = false) (cut : left ++ c :: after = right ++ d :: rest) :
    left = right ∧ c = d := by
  have same : left = right := calc
    left = (left ++ c :: after).takeWhile kind :=
      (Text.takeWhile_append_of_ends onLeft (by simpa using first)).symm
    _ = (right ++ d :: rest).takeWhile kind := by rw [cut]
    _ = right := Text.takeWhile_append_of_ends onRight (by simpa using second)
  subst same
  exact ⟨rfl, (List.cons.inj (List.append_cancel_left cut)).1⟩

/-- The schemes of the web and a colon, in letters that are given. -/
def webWith (letter : Char → Spelled) : Spelled :=
  .sequence ("http".toList.map letter ++ [.repeated (letter 's') 0 (some 1), letter ':'])

/-- Where each letter reads the characters with one plain form, the schemes of the web
are read in all their forms. -/
theorem matches_webWith_iff {letter : Char → Spelled} {plain : Char → Char}
    {before word after : List Char}
    (reads : ∀ c ∈ "https:".toList, ∀ {before word after : List Char},
      Matches (letter c).regex before word after ↔ word.map plain = [c]) :
    Matches (webWith letter).regex before word after ↔
      word.map plain = "http:".toList ∨ word.map plain = "https:".toList := by
  have optional : (Spelled.repeated (letter 's') 0 (some 1)).regex =
      (letter 's').regex.repeated 0 (some 1) := rfl
  have readsHttp {before word after : List Char} :
      Matches (Regex.sequence (("http".toList.map letter).map Spelled.regex))
        before word after ↔ word.map plain = "http".toList := by
    have inScheme : "http".toList ⊆ "https:".toList :=
      List.subset_append_left "http".toList "s:".toList
    rw [List.map_map]
    exact Pattern.matches_letters_iff fun c member => reads c (inScheme member)
  have reads_s {before word after : List Char} :=
    @reads 's' (by decide) before word after
  have reads_colon {before word after : List Char} :=
    @reads ':' (by decide) before word after
  rw [webWith, Spelled.regex_sequence, List.map_append,
    Pattern.matches_sequence_append_iff]
  simp only [readsHttp, List.map_cons, List.map_nil,
    Pattern.matches_sequence_cons_iff, Pattern.matches_sequence_nil_iff, optional,
    Pattern.matches_optional_iff, reads_s, reads_colon]
  constructor
  · intro found
    obtain ⟨front, _, rfl, onFront, middle, _, rfl, optional, back, _, rfl, onBack,
      rfl⟩ := found
    rcases optional with rfl | onMiddle
    · left
      simp [onFront, onBack]
    · right
      simp [onFront, onMiddle, onBack]
  · intro found
    rcases found with same | same
    · obtain ⟨front, back, rfl, onFront, onBack⟩ :=
        List.map_eq_append_iff.mp (same.trans (by decide : _ = "http".toList ++ [':']))
      exact ⟨front, back, rfl, onFront, [], back, rfl, Or.inl rfl, back, [],
        by simp, onBack, rfl⟩
    · obtain ⟨front, later, rfl, onFront, onLater⟩ :=
        List.map_eq_append_iff.mp
          (same.trans (by decide : _ = "http".toList ++ (['s'] ++ [':'])))
      obtain ⟨middle, back, rfl, onMiddle, onBack⟩ := List.map_eq_append_iff.mp onLater
      exact ⟨front, _, rfl, onFront, middle, back, rfl, Or.inr onMiddle, back, [],
        by simp, onBack, rfl⟩

private theorem matches_webScheme_iff {before word after : List Char} :
    Matches webSchemeExpression.regex before word after ↔
      word.map plainLetter = "http:".toList ∨
        word.map plainLetter = "https:".toList := by
  have spelled : Unicode.isToken "https:".toList = true := by decide
  exact @matches_webWith_iff caseless plainLetter before word after
    fun _ member => Pattern.matches_caseless_iff (Unicode.mem_tokenAlphabet spelled member)

private theorem matches_schemeless_iff {before word after : List Char} :
    Matches schemelessExpression.regex before word after ↔
      ∃ run tail, word = run ++ tail ∧ run ≠ [] ∧
        (∀ c ∈ run, isSchemeCharacter c = true) ∧
          ((∃ c, tail = [c] ∧ isSchemeCharacter c = false ∧ c ≠ ':') ∨
            (tail = [] ∧ after = [])) := by
  rw [schemelessExpression, Spelled.regex_sequence]
  simp only [List.map_cons, List.map_nil, Pattern.matches_sequence_cons_iff,
    Pattern.matches_sequence_nil_iff, Pattern.matches_someOf_iff, schemeSets_iff,
    Spelled.choice, Spelled.regex, Pattern.matches_either_iff, Regex.ofCodes,
    Pattern.matches_set_iff, beyondScheme_iff,
    Pattern.matches_boundary_iff, Pattern.Boundary.holds, Option.isNone_iff_eq_none,
    List.head?_eq_none_iff]
  constructor
  · intro found
    obtain ⟨run, _, rfl, ⟨nonempty, spelled⟩, tail, _, rfl, ending, rfl⟩ := found
    exact ⟨run, tail, by simp, nonempty, spelled, by simpa using ending⟩
  · intro found
    obtain ⟨run, tail, rfl, nonempty, spelled, ending⟩ := found
    exact ⟨run, tail, rfl, ⟨nonempty, spelled⟩, tail, [], by simp,
      by simpa using ending, rfl⟩

/-- The shape rule with a given expression for the schemes of the web. -/
def shapeWith (web : Spelled) : Spelled :=
  .sequence [.boundary .textStart,
    .choice [web, .set (.complement (.unionOf letterSets)), schemelessExpression]]

private theorem occursIn_shape_cut {web : Spelled} {text : List Char} :
    OccursIn (shapeWith web).regex text ↔
      ∃ word after, text = word ++ after ∧
        (Matches web.regex [] word after ∨
          (∃ c, word = [c] ∧ c.isAlpha = false) ∨
            Matches schemelessExpression.regex [] word after) := by
  have notLetter (c : Char) :
      (SpelledSet.complement (.unionOf letterSets)).members c.toNat = true ↔
        c.isAlpha = false := by
    simp only [SpelledSet.members, Pattern.CodeSet.complement, Bool.not_eq_true',
      ← Bool.not_eq_true, letterSets_iff]
  simp only [OccursIn, shapeWith, Spelled.regex_sequence, List.map_cons,
    List.map_nil, Pattern.matches_sequence_cons_iff, Pattern.matches_sequence_nil_iff,
    Spelled.choice, Spelled.regex, Regex.ofCodes, Pattern.matches_boundary_iff,
    Pattern.matches_either_iff, Pattern.matches_set_iff, notLetter,
    Pattern.Boundary.holds, Option.isNone_iff_eq_none, List.getLast?_eq_none_iff]
  constructor
  · intro found
    obtain ⟨_, _, after, rfl, _, _, rfl, ⟨rfl, rfl⟩, word, _, rfl, reading,
      rfl⟩ := found
    exact ⟨word, after, by simp, by simpa using reading⟩
  · intro found
    obtain ⟨word, after, rfl, reading⟩ := found
    exact ⟨[], word, after, rfl, [], word, rfl, ⟨rfl, rfl⟩, word, [], by simp,
      by simpa using reading, rfl⟩

private theorem not_isSchemeCharacter_colon : isSchemeCharacter ':' = false := by
  decide

private theorem plainLetter_of_isSchemeCharacter {c : Char}
    (spelled : isSchemeCharacter c = true) : plainLetter c = c.toLower := by
  have notLongS : c ≠ '\u017f' := by
    intro same
    subst same
    exact absurd spelled (by decide)
  have notKelvin : c ≠ '\u212a' := by
    intro same
    subst same
    exact absurd spelled (by decide)
  rw [plainLetter, if_neg notLongS, if_neg notKelvin]

/-- A text that starts with a name and a colon, in any case, has no letter-only
scheme but that name. -/
private theorem scheme_of_plain {text word after scheme name : List Char}
    (cut : text = word ++ after) (plain : word.map plainLetter = name ++ [':'])
    (free : ':' ∉ name) (has : HasLetterScheme text scheme) :
    scheme.map Char.toLower = name := by
  obtain ⟨front, back, rfl, onFront, onBack⟩ := List.map_eq_append_iff.mp plain
  obtain ⟨c, rfl, onColon⟩ := List.map_eq_singleton_iff.mp onBack
  obtain rfl := Unicode.eq_of_plainLetter_eq (by decide) onColon
  obtain ⟨rest, colon⟩ := has.colon
  have frontFree : ∀ x ∈ front, (x != ':') = true := by
    intro x member
    have plainMember : plainLetter x ∈ name := by
      rw [← onFront]
      exact List.mem_map_of_mem member
    rw [bne_iff_ne]
    intro same
    subst same
    exact free plainMember
  have schemeFree : ∀ x ∈ scheme, (x != ':') = true := by
    intro x member
    rw [bne_iff_ne]
    intro same
    subst same
    have spelled := has.spelled ':' member
    rw [not_isSchemeCharacter_colon] at spelled
    cases spelled
  have sameText : front ++ ':' :: after = scheme ++ ':' :: rest := by
    rw [← colon, cut, List.append_assoc, List.singleton_append]
  obtain ⟨rfl, _⟩ :=
    @cut_unique (· != ':') _ _ _ _ _ _ frontFree schemeFree rfl rfl sameText
  rw [← onFront]
  exact List.map_congr_left fun c member =>
    (plainLetter_of_isSchemeCharacter (has.spelled c member)).symm

private theorem not_hasLetterScheme_of_schemeless {text run tail after scheme : List Char}
    (cut : text = run ++ tail ++ after)
    (spelled : ∀ c ∈ run, isSchemeCharacter c = true)
    (ending : (∃ c, tail = [c] ∧ isSchemeCharacter c = false ∧ c ≠ ':') ∨
      (tail = [] ∧ after = [])) :
    ¬ HasLetterScheme text scheme := by
  intro has
  obtain ⟨rest, colon⟩ := has.colon
  rcases ending with ⟨c, rfl, other, notColon⟩ | ⟨rfl, rfl⟩
  · have sameText : run ++ c :: after = scheme ++ ':' :: rest := by
      rw [← colon, cut, List.append_assoc, List.singleton_append]
    obtain ⟨_, same⟩ := cut_unique spelled has.spelled other
      not_isSchemeCharacter_colon sameText
    exact notColon same
  · have member : ':' ∈ run := by
      have inText : ':' ∈ text := by simp [colon]
      simpa [cut] using inText
    have spelledColon := spelled ':' member
    rw [not_isSchemeCharacter_colon] at spelledColon
    cases spelledColon

private theorem hasWebShape_of_plain {text word after name : List Char}
    (cut : text = word ++ after) (plain : word.map plainLetter = name ++ [':'])
    (free : ':' ∉ name) (web : name ∈ ["http".toList, "https".toList]) :
    HasWebShape text := by
  constructor
  · intro empty
    obtain ⟨rfl, _⟩ := List.nil_eq_append_iff.mp (empty.symm.trans cut)
    exact absurd plain.symm (by simp)
  · intro scheme has
    rw [scheme_of_plain cut plain free has]
    exact web

private theorem hasWebShape_of_cut {text word after : List Char}
    (cut : text = word ++ after)
    (reading : (word.map plainLetter = "http:".toList ∨
        word.map plainLetter = "https:".toList) ∨
      (∃ c, word = [c] ∧ c.isAlpha = false) ∨
        Matches schemelessExpression.regex [] word after) :
    HasWebShape text := by
  rw [matches_schemeless_iff] at reading
  rcases reading with (http | https) | ⟨c, rfl, other⟩ |
    ⟨run, tail, rfl, nonempty, spelled, ending⟩
  · exact @hasWebShape_of_plain text word after "http".toList cut http (by decide)
      (by simp)
  · exact @hasWebShape_of_plain text word after "https".toList cut https (by decide)
      (by simp)
  · refine ⟨by simp [cut], fun scheme has => ?_⟩
    obtain ⟨rest, colon⟩ := has.colon
    obtain ⟨first, head, letter⟩ := has.letter
    obtain ⟨later, rfl⟩ := List.head?_eq_some_iff.mp head
    have same : c = first := by
      have heads := cut.symm.trans colon
      exact (List.cons.inj heads).1
    rw [← same, other] at letter
    cases letter
  · refine ⟨by simp [cut, nonempty], fun scheme has => ?_⟩
    exact absurd has (not_hasLetterScheme_of_schemeless cut spelled ending)

/-- A text that starts with a letter starts with a longest run of scheme
characters. -/
private theorem exists_schemeRun {first : Char} {later : List Char}
    (letter : first.isAlpha = true) :
    ∃ run rest, first :: later = run ++ rest ∧ run.head? = some first ∧
      (∀ c ∈ run, isSchemeCharacter c = true) ∧
        ∀ c after, rest = c :: after → isSchemeCharacter c = false := by
  have firstSpelled : isSchemeCharacter first = true := by
    simp [isSchemeCharacter, letter]
  refine ⟨(first :: later).takeWhile isSchemeCharacter,
    (first :: later).dropWhile isSchemeCharacter, ?_, ?_, ?_, ?_⟩
  · exact List.takeWhile_append_dropWhile.symm
  · simp [firstSpelled]
  · intro c member
    exact List.mem_takeWhile_imp member
  · intro c after stop
    have stops := List.head?_dropWhile_not isSchemeCharacter (first :: later)
    rw [stop] at stops
    simpa using stops

private theorem cut_of_hasWebShape {text : List Char} (shape : HasWebShape text) :
    ∃ word after, text = word ++ after ∧
      ((word.map Char.toLower = "http:".toList ∨
          word.map Char.toLower = "https:".toList) ∨
        (∃ c, word = [c] ∧ c.isAlpha = false) ∨
          Matches schemelessExpression.regex [] word after) := by
  simp only [matches_schemeless_iff]
  obtain ⟨nonempty, onlyWeb⟩ := shape
  obtain ⟨first, later, rfl⟩ := List.exists_cons_of_ne_nil nonempty
  by_cases letter : first.isAlpha = true
  · obtain ⟨run, rest, cut, head, spelled, stop⟩ :=
      @exists_schemeRun first later letter
    have runNonempty : run ≠ [] := by
      intro empty
      rw [empty] at head
      cases head
    cases rest with
    | nil =>
        exact ⟨run, [], cut, Or.inr (Or.inr
          ⟨run, [], by simp, runNonempty, spelled, Or.inr ⟨rfl, rfl⟩⟩)⟩
    | cons c after =>
        have beyond := stop c after rfl
        by_cases colon : c = ':'
        · subst colon
          have web := onlyWeb run ⟨⟨after, cut⟩, ⟨first, head, letter⟩, spelled⟩
          rw [List.mem_cons, List.mem_singleton] at web
          refine ⟨run ++ [':'], after, by simp [cut], Or.inl ?_⟩
          rcases web with http | https
          · left
            rw [List.map_append, http]
            decide
          · right
            rw [List.map_append, https]
            decide
        · exact ⟨run ++ [c], after, by simp [cut], Or.inr (Or.inr
            ⟨run, [c], rfl, runNonempty, spelled, Or.inl ⟨c, rfl, beyond, colon⟩⟩)⟩
  · exact ⟨[first], later, rfl, Or.inr (Or.inl ⟨first, rfl, by simpa using letter⟩)⟩

theorem plainLetter_of_toLower {word scheme : List Char}
    (same : word.map Char.toLower = scheme) (small : scheme.map plainLetter = scheme) :
    word.map plainLetter = scheme := by
  rw [← small, ← same, List.map_map]
  exact List.map_congr_left fun c _ => (Unicode.plainLetter_toLower c).symm

/-- The shape rule means the same with every expression that reads the schemes of the
web in ASCII letters and at most in the letters that fold to these: a scheme that is
spelled with another letter ends in front of that letter, not in front of a colon. -/
theorem occursIn_shapeWith_iff {web : Spelled} {text : List Char}
    (folded : ∀ {before word after : List Char}, Matches web.regex before word after →
      word.map plainLetter = "http:".toList ∨ word.map plainLetter = "https:".toList)
    (ascii : ∀ {before word after : List Char},
      word.map Char.toLower = "http:".toList ∨ word.map Char.toLower = "https:".toList →
        Matches web.regex before word after) :
    OccursIn (shapeWith web).regex text ↔ HasWebShape text := by
  rw [occursIn_shape_cut]
  constructor
  · intro found
    obtain ⟨word, after, cut, reading⟩ := found
    exact hasWebShape_of_cut cut (reading.imp_left folded)
  · intro shape
    obtain ⟨word, after, cut, reading⟩ := cut_of_hasWebShape shape
    exact ⟨word, after, cut, reading.imp_left ascii⟩

theorem occursIn_shape_iff {text : List Char} :
    OccursIn shapeExpression.regex text ↔ HasWebShape text := by
  refine @occursIn_shapeWith_iff webSchemeExpression text ?_ ?_
  · exact matches_webScheme_iff.mp
  · intro before word after same
    refine matches_webScheme_iff.mpr (same.imp ?_ ?_)
    · exact fun http => plainLetter_of_toLower http (by decide)
    · exact fun https => plainLetter_of_toLower https (by decide)

end Catalogue

end LinkVetting
