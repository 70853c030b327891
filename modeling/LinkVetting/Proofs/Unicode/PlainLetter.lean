import LinkVetting.Unicode.CaseFold

/-!
# Plain letters

Tokens are written in small ASCII letters, hyphens and colons.  For these the
case variants of the folding table are the two ASCII cases, with U+017F for `s`
and U+212A for `k`, and nothing else.
-/

namespace LinkVetting.Unicode

/-- The small ASCII letter that a character is a case variant of; any other
character stands for itself. -/
def plainLetter (c : Char) : Char :=
  if c = '\u017f' then 's' else if c = '\u212a' then 'k' else c.toLower

/-- The characters that tokens are written with. -/
def tokenAlphabet : List Char := "abcdefghijklmnopqrstuvwxyz-:".toList

/-- Whether a text is written in that alphabet. -/
def isToken (text : List Char) : Bool := text.all fun c => tokenAlphabet.contains c

theorem isToken_cons_iff {c : Char} {text : List Char} :
    isToken (c :: text) = true ↔ c ∈ tokenAlphabet ∧ isToken text = true := by
  simp [isToken]

theorem mem_tokenAlphabet {text : List Char} {c : Char} (spelled : isToken text = true)
    (member : c ∈ text) : c ∈ tokenAlphabet :=
  List.contains_iff_mem.mp (List.all_eq_true.mp spelled c member)

theorem toNat_toLower (c : Char) :
    c.toLower.toNat =
      if 0x41 ≤ c.toNat ∧ c.toNat ≤ 0x5A then c.toNat + 0x20 else c.toNat := by
  unfold Char.toLower
  split
  · rename_i capital
    have bounds : 0x41 ≤ c.toNat ∧ c.toNat ≤ 0x5A := by
      simpa [UInt32.le_iff_toNat_le] using capital
    rw [if_pos bounds, ← Char.toNat_val, UInt32.toNat_add]
    have small : c.toNat + 0x20 < 2 ^ 32 := by omega
    simpa using Nat.mod_eq_of_lt small
  · rename_i other
    have bounds : ¬ (0x41 ≤ c.toNat ∧ c.toNat ≤ 0x5A) := by
      simpa [UInt32.le_iff_toNat_le] using other
    rw [if_neg bounds]

theorem isLower_iff {c : Char} : c.isLower = true ↔ 0x61 ≤ c.toNat ∧ c.toNat ≤ 0x7A := by
  have small : c.isLower = (decide (c.val ≥ 'a'.val) && decide (c.val ≤ 'z'.val)) := rfl
  simp [small, UInt32.le_iff_toNat_le]

theorem isAlpha_iff {c : Char} :
    c.isAlpha = true ↔
      0x41 ≤ c.toNat ∧ c.toNat ≤ 0x5A ∨ 0x61 ≤ c.toNat ∧ c.toNat ≤ 0x7A := by
  have letters : c.isAlpha = (decide (c.val ≥ 'A'.val ∧ c.val ≤ 'Z'.val) || c.isLower) := rfl
  rw [letters, Bool.or_eq_true, isLower_iff]
  simp [UInt32.le_iff_toNat_le]

/-- Only a small letter has another character as a case variant in ASCII. -/
theorem eq_of_toLower_eq {c other : Char} (notSmall : c.isLower = false)
    (same : other.toLower = c) : other = c := by
  have code := toNat_toLower other
  rw [same] at code
  by_cases capital : 0x41 ≤ other.toNat ∧ other.toNat ≤ 0x5A
  · rw [if_pos capital] at code
    have small : c.isLower = true := isLower_iff.mpr (by omega)
    rw [notSmall] at small
    cases small
  · rw [if_neg capital] at code
    exact (Char.toNat_inj.mp code).symm

theorem eq_of_plainLetter_eq {c other : Char} (notSmall : c.isLower = false)
    (same : plainLetter other = c) : other = c := by
  unfold plainLetter at same
  split at same
  · subst same
    cases notSmall
  · split at same
    · subst same
      cases notSmall
    · exact eq_of_toLower_eq notSmall same

theorem toLower_toLower (c : Char) : c.toLower.toLower = c.toLower := by
  apply Char.toNat_inj.mp
  rw [toNat_toLower c.toLower, toNat_toLower c]
  split
  · rw [if_neg (by omega)]
  · rfl

theorem plainLetter_toLower (c : Char) : plainLetter c.toLower = plainLetter c := by
  by_cases longS : c = '\u017f'
  · subst longS
    rfl
  · by_cases kelvin : c = '\u212a'
    · subst kelvin
      rfl
    · have notLongS : c.toLower ≠ '\u017f' :=
        fun same => longS (eq_of_toLower_eq (by decide) same)
      have notKelvin : c.toLower ≠ '\u212a' :=
        fun same => kelvin (eq_of_toLower_eq (by decide) same)
      rw [plainLetter, plainLetter, if_neg notLongS, if_neg notKelvin, if_neg longS,
        if_neg kelvin, toLower_toLower]

private theorem plainLetter_of_variant {token : Char} {code : Nat}
    (member : token ∈ tokenAlphabet) (variant : code ∈ caseVariants token.toNat) :
    plainLetter (Char.ofNat code) = token := by
  have checked : (tokenAlphabet.all fun token => (caseVariants token.toNat).all
      fun code => plainLetter (Char.ofNat code) == token) = true := by
    decide +kernel
  have onToken := List.all_eq_true.mp checked token member
  exact beq_iff_eq.mp (List.all_eq_true.mp onToken code variant)

private theorem toNat_mem_caseVariants {token : Char} (member : token ∈ tokenAlphabet) :
    token.toNat ∈ caseVariants token.toNat := by
  have checked : (tokenAlphabet.all fun token =>
      (caseVariants token.toNat).contains token.toNat) = true := by
    decide +kernel
  exact List.contains_iff_mem.mp (List.all_eq_true.mp checked token member)

private theorem capital_mem_caseVariants {token : Char} (member : token ∈ tokenAlphabet)
    (letter : 0x61 ≤ token.toNat) :
    token.toNat - 0x20 ∈ caseVariants token.toNat := by
  have checked : (tokenAlphabet.all fun token => decide (token.toNat < 0x61) ||
      (caseVariants token.toNat).contains (token.toNat - 0x20)) = true := by
    decide +kernel
  have onToken := List.all_eq_true.mp checked token member
  have notSmall : decide (token.toNat < 0x61) = false := by
    simpa using letter
  rw [notSmall, Bool.false_or] at onToken
  exact List.contains_iff_mem.mp onToken

theorem mem_caseVariants_iff {c token : Char} (member : token ∈ tokenAlphabet) :
    c.toNat ∈ caseVariants token.toNat ↔ plainLetter c = token := by
  constructor
  · intro variant
    have plain := plainLetter_of_variant member variant
    rwa [Char.ofNat_toNat] at plain
  · intro plain
    unfold plainLetter at plain
    split at plain
    · rename_i longS
      subst longS plain
      decide +kernel
    · split at plain
      · rename_i kelvin
        subst kelvin plain
        decide +kernel
      · have code := toNat_toLower c
        rw [plain] at code
        split at code
        · rename_i capital
          have variant := capital_mem_caseVariants member (by omega)
          have unchanged : token.toNat - 0x20 = c.toNat := by omega
          rwa [unchanged] at variant
        · rw [← code]
          exact toNat_mem_caseVariants member

end LinkVetting.Unicode
