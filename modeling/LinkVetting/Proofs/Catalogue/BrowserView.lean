import LinkVetting.Proofs.Catalogue.Acceptance

/-!
# Addresses as a browser reads them

A browser drops tabs and line ends from an address, and skips controls and spaces
before it, before it reads the scheme.  The built-in rules look at the text as it
is.  A scheme that only the browser sees is therefore not judged by its shape: an
accepted candidate may hide one, though only behind such a character, and no denied
prefix hides behind such characters alone.
-/

namespace LinkVetting

open Unicode (plainLetter)

namespace Catalogue

/-- Tabs and line ends, which are dropped wherever they stand. -/
def isDropped (c : Char) : Bool := c == '\t' || c == '\n' || c == '\r'

/-- Controls and the space, which are skipped before the rest. -/
def isSkipped (c : Char) : Bool := c.toNat ≤ 0x20

/-- An address as a browser reads it. -/
def browserText (text : List Char) : List Char :=
  (text.filter fun c => !isDropped c).dropWhile isSkipped

/-- A name that a letter-only scheme may have. -/
structure IsLetterName (name : List Char) : Prop where
  letter : ∃ c, name.head? = some c ∧ c.isAlpha = true
  spelled : ∀ c ∈ name, isSchemeCharacter c = true

def IsWebName (name : List Char) : Prop :=
  name.map Char.toLower ∈ ["http".toList, "https".toList]

section

variable {text scheme : List Char} {c : Char}

theorem hasLetterScheme_iff :
    HasLetterScheme text scheme ↔
      IsLetterName scheme ∧ ∃ rest, text = scheme ++ ':' :: rest := by
  constructor
  · intro has
    exact ⟨⟨has.letter, has.spelled⟩, has.colon⟩
  · intro parts
    obtain ⟨name, colon⟩ := parts
    exact ⟨colon, name.letter, name.spelled⟩

theorem isSkipped_of_isDropped (dropped : isDropped c = true) : isSkipped c = true := by
  simp only [isDropped, Bool.or_eq_true, beq_iff_eq] at dropped
  rcases dropped with (rfl | rfl) | rfl <;> decide

theorem isSkipped_of_isAlpha (letter : c.isAlpha = true) : isSkipped c = false := by
  rw [Unicode.isAlpha_iff] at letter
  simp [isSkipped]
  omega

theorem browserText_of_visible (visible : ∀ c ∈ text, isSkipped c = false) :
    browserText text = text := by
  have kept : text.filter (fun c => !isDropped c) = text := by
    refine List.filter_eq_self.mpr fun c member => ?_
    rw [Bool.not_eq_true', ← Bool.not_eq_true]
    intro dropped
    have skipped := isSkipped_of_isDropped dropped
    rw [visible c member] at skipped
    cases skipped
  rw [browserText, kept]
  cases text with
  | nil => rfl
  | cons first later =>
      have shown := visible first List.mem_cons_self
      exact List.dropWhile_cons_of_neg (by simp [shown])

/-- A name at the start of what a browser reads is what it reads of the text in
front of the colon. -/
theorem hasLetterScheme_browserText_iff :
    HasLetterScheme (browserText text) scheme ↔
      IsLetterName scheme ∧ ∃ front rest, text = front ++ ':' :: rest ∧
        browserText front = scheme := by
  rw [hasLetterScheme_iff]
  refine and_congr_right fun name => ?_
  obtain ⟨first, head, letter⟩ := name.letter
  obtain ⟨later, rfl⟩ := List.head?_eq_some_iff.mp head
  have shown : ¬ isSkipped first = true := by simp [isSkipped_of_isAlpha letter]
  constructor
  · intro colon
    obtain ⟨rest, read⟩ := colon
    -- the cut in front of the colon is pulled back through both steps to the text
    let kept := text.filter fun c => !isDropped c
    have cut : kept = (kept.takeWhile isSkipped ++ first :: later) ++ ':' :: rest := by
      rw [List.append_assoc, ← read]
      exact List.takeWhile_append_dropWhile.symm
    obtain ⟨before, behind, rfl, onBefore, onBehind⟩ := List.filter_eq_append_iff.mp cut
    obtain ⟨dropped, after, rfl, allDropped, _, _⟩ := List.filter_eq_cons_iff.mp onBehind
    refine ⟨before ++ dropped, after, by simp, ?_⟩
    have nothing : dropped.filter (fun c => !isDropped c) = [] :=
      List.filter_eq_nil_iff.mpr allDropped
    rw [browserText, List.filter_append, onBefore, nothing, List.append_nil,
      List.dropWhile_append_of_pos fun c member => List.mem_takeWhile_imp member,
      List.dropWhile_cons_of_neg shown]
  · intro parts
    obtain ⟨front, rest, rfl, read⟩ := parts
    refine ⟨rest.filter fun c => !isDropped c, ?_⟩
    have colonKept : (!isDropped ':') = true := by decide
    rw [browserText] at read ⊢
    rw [List.filter_append, List.filter_cons, if_pos colonKept, List.dropWhile_append, read]
    rfl

/-- Only a character that is skipped in or before a name keeps it from being the
scheme of the text itself. -/
theorem HasWebShape.browser_schemes_iff (shape : HasWebShape text) :
    (∀ scheme, HasLetterScheme (browserText text) scheme → IsWebName scheme) ↔
      ∀ front rest, text = front ++ ':' :: rest → (∃ c ∈ front, isSkipped c = true) →
        IsLetterName (browserText front) → IsWebName (browserText front) := by
  simp only [hasLetterScheme_browserText_iff]
  constructor
  · intro onlyWeb front rest cut _ name
    exact onlyWeb _ ⟨name, front, rest, cut, rfl⟩
  · intro hiddenWeb scheme found
    obtain ⟨name, front, rest, cut, rfl⟩ := found
    by_cases hidden : ∃ c ∈ front, isSkipped c = true
    · exact hiddenWeb front rest cut hidden name
    · have visible : ∀ c ∈ front, isSkipped c = false := by simpa using hidden
      rw [browserText_of_visible visible] at name ⊢
      exact shape.2 front (hasLetterScheme_iff.mpr ⟨name, rest, cut⟩)

/-- Characters that are skipped do not hide a denied prefix that follows them. -/
theorem containsDenied_of_skipped {lead rest : List Char} {denied : String}
    (skipped : ∀ c ∈ lead, isSkipped c = true) (member : denied ∈ deniedPrefixes)
    (starts : denied.toList <+: rest.map plainLetter) : ContainsDenied (lead ++ rest) := by
  obtain ⟨behind, same⟩ := starts
  obtain ⟨word, after, rfl, plain, _⟩ := List.map_eq_append_iff.mp same.symm
  refine ⟨[], lead, word, after, by simp, by simp [StartsLine], ?_, denied, member, plain⟩
  intro c inLead
  have bound := skipped c inLead
  simp only [isSkipped, decide_eq_true_eq] at bound
  simp [Unicode.isAsciiWord]
  omega

end

/-- The schemes that a browser finds in an accepted candidate are those of web
addresses, unless a character that is skipped stands in or before one.  Where such
characters only stand before, no denied prefix follows them. -/
theorem browser_schemes_of_accepted {candidate : String}
    (accepted : (RuleSet.builtin.evaluate candidate).isAccepted = true) :
    ((∀ scheme, HasLetterScheme (browserText candidate.toList) scheme → IsWebName scheme) ↔
        ∀ front rest, candidate.toList = front ++ ':' :: rest →
          (∃ c ∈ front, isSkipped c = true) →
            IsLetterName (browserText front) → IsWebName (browserText front)) ∧
      ∀ lead rest, candidate.toList = lead ++ rest → (∀ c ∈ lead, isSkipped c = true) →
        ∀ denied ∈ deniedPrefixes, ¬ denied.toList <+: rest.map plainLetter := by
  have acceptable := builtin_isAccepted_iff.mp accepted
  refine ⟨acceptable.webShape.browser_schemes_iff, ?_⟩
  intro lead rest cut skipped denied member starts
  apply acceptable.notDenied
  rw [cut]
  exact containsDenied_of_skipped skipped member starts

theorem browser_schemes_of_accepted_space :
    (RuleSet.builtin.evaluate " data:x").isAccepted = true ∧
      (¬ ∀ scheme, HasLetterScheme (browserText " data:x".toList) scheme →
        IsWebName scheme) ∧
      ∀ denied ∈ deniedPrefixes, ¬ denied.toList <+: "data:x".toList.map plainLetter := by
  have accepted : (RuleSet.builtin.evaluate " data:x").isAccepted = true := by
    rw [builtin_rules]
    decide +kernel
  obtain ⟨schemes, notDenied⟩ := browser_schemes_of_accepted accepted
  refine ⟨accepted, ?_, notDenied [' '] "data:x".toList (by decide) (by simp [isSkipped])⟩
  rw [schemes]
  intro onlyWeb
  have hidden : ∃ c ∈ " data".toList, isSkipped c = true := ⟨' ', by decide, by decide⟩
  have web := onlyWeb " data".toList ['x'] (by decide) hidden
    ⟨⟨'d', by decide, by decide⟩, List.all_eq_true.mp (by decide)⟩
  exact absurd web (by unfold IsWebName; decide)

/-- A tab inside a name hides it from every rule. -/
theorem browser_schemes_of_inner_tab :
    ¬ ∀ candidate : String, (RuleSet.builtin.evaluate candidate).isAccepted = true →
      ∀ scheme, HasLetterScheme (browserText candidate.toList) scheme → IsWebName scheme := by
  intro onlyWeb
  have accepted : (RuleSet.builtin.evaluate "java\tscript:x").isAccepted = true := by
    rw [builtin_rules]
    decide +kernel
  have found : HasLetterScheme (browserText "java\tscript:x".toList) "javascript".toList :=
    { colon := ⟨['x'], by decide⟩
      letter := ⟨'j', by decide, by decide⟩
      spelled := List.all_eq_true.mp (by decide) }
  have web := onlyWeb "java\tscript:x" accepted "javascript".toList found
  exact absurd web (by unfold IsWebName; decide)

end Catalogue

end LinkVetting
