import Mathlib.Tactic.SplitIfs
import LinkVetting.Json.Printer
import LinkVetting.Json.Reader
import LinkVetting.Proofs.Text.Runs

/-!
# Reading texts and numbers back

Every character is read back from the form in which a string holds it, and every
whole number that is kept exactly is read back from its digits.
-/

namespace LinkVetting.Json

/-! ## Strings -/

section

variable {read later rest text : List Char} {c : Char}

theorem readStringFrom_escape (escape : readEscape later = .ok (c, rest)) :
    readStringFrom read ('\\' :: later) = readStringFrom (c :: read) rest := by
  rw [readStringFrom]
  split
  · rename_i other after answer
    rw [escape] at answer
    cases answer
    rfl
  · rename_i fault answer
    rw [escape] at answer
    cases answer

theorem readStringFrom_visible (noQuote : c ≠ '"') (noBackslash : c ≠ '\\')
    (visible : 0x20 ≤ c.toNat) :
    readStringFrom read (c :: rest) = readStringFrom (c :: read) rest := by
  rw [readStringFrom]
  · exact if_neg (Nat.not_lt.mpr visible)
  · exact noQuote
  · exact noBackslash

theorem hexValue?_hexDigit : ∀ n < 16, hexValue? (hexDigit n) = some n := by decide

/-- A control that has no short escape is read back from its code. -/
theorem readEscape_code (control : c.toNat < 0x20) :
    readEscape ('u' :: '0' :: '0' :: hexDigit (c.toNat / 16) :: hexDigit (c.toNat % 16) ::
        rest) = .ok (c, rest) := by
  have high := hexValue?_hexDigit (c.toNat / 16) (by omega)
  have low := hexValue?_hexDigit (c.toNat % 16) (by omega)
  have zero : hexValue? '0' = some 0 := by decide
  have code : ((0 * 16 + 0) * 16 + c.toNat / 16) * 16 + c.toNat % 16 = c.toNat := by omega
  have hex : readHex ('0' :: '0' :: hexDigit (c.toNat / 16) :: hexDigit (c.toNat % 16) ::
      rest) = .ok (c.toNat, rest) := by
    simp only [readHex, zero, high, low, code]
  have noLow : ¬(0xDC00 ≤ c.toNat ∧ c.toNat ≤ 0xDFFF) := by omega
  have noHigh : ¬(0xD800 ≤ c.toNat ∧ c.toNat ≤ 0xDBFF) := by omega
  simp [readEscape, readCode, hex, bind, Except.bind, noLow, noHigh, pure, Except.pure]

theorem readStringFrom_escapedChar :
    readStringFrom read (escapedChar c ++ rest) = readStringFrom (c :: read) rest := by
  rw [escapedChar]
  split_ifs with quote backslash visible back feed line carriage tab
  · rw [eq_of_beq quote]
    exact readStringFrom_escape rfl
  · rw [eq_of_beq backslash]
    exact readStringFrom_escape rfl
  · refine readStringFrom_visible ?_ ?_ visible
    · simpa using quote
    · simpa using backslash
  · rw [eq_of_beq back]
    exact readStringFrom_escape rfl
  · rw [eq_of_beq feed]
    exact readStringFrom_escape rfl
  · rw [eq_of_beq line]
    exact readStringFrom_escape rfl
  · rw [eq_of_beq carriage]
    exact readStringFrom_escape rfl
  · rw [eq_of_beq tab]
    exact readStringFrom_escape rfl
  · exact readStringFrom_escape (readEscape_code (Nat.lt_of_not_le visible))

theorem readStringFrom_escaped :
    readStringFrom read (text.flatMap escapedChar ++ '"' :: rest) =
      .ok (read.reverse ++ text, rest) := by
  induction text generalizing read with
  | nil => simp [readStringFrom]
  | cons c text induction =>
      rw [List.flatMap_cons, List.append_assoc, readStringFrom_escapedChar, induction]
      simp

theorem readString_escaped {text : String} :
    readString (text.toList.flatMap escapedChar ++ '"' :: rest) = .ok (text.toList, rest) :=
  readStringFrom_escaped

end

/-! ## Numbers -/

/-- What may follow a value: the end of the text, or a character that ends an
item or a member. -/
def EndsValue : List Char → Prop
  | [] => True
  | c :: _ => c = ',' ∨ c = ']' ∨ c = '\x7d'

/-- What may follow a number: nothing that would be read as a part of it. -/
def EndsNumber (rest : List Char) : Prop :=
  ∀ c ∈ rest.head?, c.isDigit = false ∧ c ≠ '.' ∧ c ≠ 'e' ∧ c ≠ 'E'

section

variable {digits rest : List Char} {value n : Nat}

theorem EndsValue.endsNumber (ends : EndsValue rest) : EndsNumber rest := by
  intro c first
  cases rest with
  | nil => cases first
  | cons next later =>
      obtain rfl := Option.some.inj first
      rcases ends with rfl | rfl | rfl
      · decide
      · decide
      · decide

theorem splitDigits_append (allDigits : ∀ c ∈ digits, c.isDigit = true)
    (ends : EndsNumber rest) : splitDigits (digits ++ rest) = (digits, rest) := by
  have noDigit : ∀ c ∈ rest.head?, c.isDigit = false := fun c first => (ends c first).1
  rw [splitDigits, Text.takeWhile_append_of_ends allDigits noDigit,
    Text.dropWhile_append_of_ends allDigits noDigit]

theorem accumulate_of_le (bounded : Nat.ofDigitChars 10 digits value ≤ greatestNatural) :
    accumulate value digits = (Nat.ofDigitChars 10 digits value, []) := by
  induction digits generalizing value with
  | nil => rfl
  | cons c later induction =>
      rw [Nat.ofDigitChars_cons] at bounded ⊢
      have next : value * 10 + (c.toNat - 0x30) = 10 * value + (c.toNat - '0'.toNat) := by
        rw [Nat.mul_comm]
        rfl
      -- more digits do not make a number smaller
      have kept : 10 * value + (c.toNat - '0'.toNat) ≤ greatestNatural := by
        refine Nat.le_trans ?_ bounded
        rw [Nat.ofDigitChars_eq_ofDigitChars_zero]
        exact Nat.le_trans (Nat.le_mul_of_pos_left _ (Nat.pow_pos (by decide)))
          (Nat.le_add_right _ _)
      rw [accumulate]
      simp only [next]
      rw [if_neg (Nat.not_lt.mpr kept)]
      exact induction bounded

theorem head_toDigits (positive : 0 < n) :
    ∃ c later, Nat.toDigits 10 n = c :: later ∧ c ≠ '0' := by
  induction n using Nat.strongRecOn with
  | ind n induction =>
      by_cases small : n < 10
      · refine ⟨n.digitChar, [], Nat.toDigits_of_lt_base small, ?_⟩
        have nonzero : ∀ n < 10, 0 < n → n.digitChar ≠ '0' := by decide
        exact nonzero n small positive
      · obtain ⟨c, later, digits, nonzero⟩ :=
          induction (n / 10) (by omega) (by omega)
        refine ⟨c, later ++ [(n % 10).digitChar], ?_, nonzero⟩
        rw [Nat.toDigits_of_base_le (by decide) (by omega), digits, List.cons_append]

theorem isDigit_toDigits : ∀ c ∈ Nat.toDigits 10 n, c.isDigit = true :=
  fun _ member => Nat.isDigit_of_mem_toDigits (by decide) (by decide) member

theorem readNumber_zero {negative : Bool} (ends : EndsNumber rest) :
    readNumber negative ('0' :: rest) = .ok (wholeNumber negative 0, rest) := by
  cases rest with
  | nil => rfl
  | cons c later =>
      obtain ⟨noDigit, noPoint, noSmall, noCapital⟩ := ends c rfl
      simp [readNumber, noDigit, noPoint, noSmall, noCapital]

theorem readNumber_repr {negative : Bool} (bounded : n ≤ greatestNatural)
    (ends : EndsNumber rest) :
    readNumber negative ((Nat.repr n).toList ++ rest) =
      .ok (wholeNumber negative n, rest) := by
  rw [Nat.toList_repr]
  rcases Nat.eq_zero_or_pos n with rfl | positive
  · exact readNumber_zero ends
  · have split := @splitDigits_append _ rest (@isDigit_toDigits n) ends
    have kept : accumulate 0 (Nat.toDigits 10 n) = (n, []) := by
      have same := @Nat.ofDigitChars_ten_toDigits n
      rw [accumulate_of_le (Nat.le_trans (Nat.le_of_eq same) bounded), same]
    have allDigits := @isDigit_toDigits n
    obtain ⟨c, later, digits, nonzero⟩ := head_toDigits positive
    rw [digits] at split kept allDigits ⊢
    have isDigit := allDigits c List.mem_cons_self
    rw [List.cons_append] at split ⊢
    rw [readNumber]
    · simp only [isDigit, Bool.not_true, Bool.false_eq_true, if_false, split, kept]
      split
      · exact absurd rfl (ends _ rfl).2.1
      · exact absurd rfl (ends _ rfl).2.2.1
      · exact absurd rfl (ends _ rfl).2.2.2
      · rfl
    · exact nonzero

end

end LinkVetting.Json
