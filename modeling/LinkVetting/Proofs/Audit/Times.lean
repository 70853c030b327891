import Mathlib.Tactic.SplitIfs
import LinkVetting.Proofs.Text.Runs
import LinkVetting.Timestamp

/-!
# Points in time are read back

Every part of a point in time is written with digits enough to be told from what
follows, so the text of a point in time is read as that point in time.  Years beyond
four digits stand behind a sign, and a fraction of a second has as many groups of
digits as it needs.
-/

namespace LinkVetting.Timestamp

/-! ## Digits -/

section

variable {width n : Nat} {digits rest : List Char} {c : Char}

theorem digitsValue_eq : digitsValue digits = Nat.ofDigitChars 10 digits 0 := by
  have step : (fun (value : Nat) (c : Char) => value * 10 + (c.toNat - 0x30)) =
      fun value c => 10 * value + (c.toNat - '0'.toNat) := by
    funext value c
    rw [Nat.mul_comm]
    rfl
  rw [digitsValue, Nat.ofDigitChars, step]

theorem isDigit_of_mem_paddedChars (member : c ∈ paddedChars width n) : c.isDigit = true := by
  rw [paddedChars, Nat.toList_repr] at member
  rcases List.mem_append.mp member with zero | digit
  · rw [List.eq_of_mem_replicate zero]
    decide
  · exact Nat.isDigit_of_mem_toDigits (by decide) (by decide) digit

theorem digitsValue_paddedChars : digitsValue (paddedChars width n) = n := by
  have zeros (count : Nat) : Nat.ofDigitChars 10 (List.replicate count '0') 0 = 0 := by
    induction count with
    | zero => rfl
    | succ count induction => rwa [List.replicate_succ, Nat.ofDigitChars_cons]
  rw [digitsValue_eq, paddedChars, Nat.ofDigitChars_append, zeros, Nat.toList_repr,
    Nat.ofDigitChars_ten_toDigits]

theorem length_paddedChars (positive : 0 < width) (fits : n < Nat.pow 10 width) :
    (paddedChars width n).length = width := by
  have short := (@Nat.length_toDigits_le_iff 10 n width (by decide) positive).mpr fits
  rw [paddedChars, List.length_append, List.length_replicate, Nat.toList_repr]
  omega

/-- Digits are read up to the given width, or to where no more of them follow. -/
theorem readNumber_digits (nonempty : digits ≠ []) (allDigits : ∀ c ∈ digits, c.isDigit = true)
    (short : digits.length ≤ width)
    (ends : digits.length = width ∨ ∀ c ∈ rest.head?, c.isDigit = false) :
    readNumber width (digits ++ rest) = .ok (digitsValue digits, rest) := by
  have read : ((digits ++ rest).take width).takeWhile Char.isDigit = digits := by
    rw [List.take_append, List.take_of_length_le short]
    refine Text.takeWhile_append_of_ends allDigits fun c first => ?_
    rw [List.head?_take] at first
    split at first
    · cases first
    · rename_i room
      exact ends.resolve_left (by omega) c first
  obtain ⟨c, later, rfl⟩ := List.exists_cons_of_ne_nil nonempty
  have digit := allDigits c List.mem_cons_self
  rw [List.cons_append] at read ⊢
  simp only [readNumber, digit, read, Bool.not_true, Bool.false_eq_true, if_false]
  rw [← List.cons_append, List.drop_left]

theorem paddedChars_ne_nil : paddedChars width n ≠ [] := by
  rw [paddedChars, Nat.toList_repr]
  exact List.append_ne_nil_of_right_ne_nil _ Nat.toDigits_ne_nil

theorem readNumber_paddedChars (positive : 0 < width) (fits : n < Nat.pow 10 width) :
    readNumber width (paddedChars width n ++ rest) = .ok (n, rest) := by
  have length := length_paddedChars positive fits
  rw [readNumber_digits paddedChars_ne_nil (fun c => isDigit_of_mem_paddedChars)
    (Nat.le_of_eq length) (Or.inl length), digitsValue_paddedChars]

/-! ## Parts -/

theorem dropSpace_cons (visible : Unicode.isSpace c.toNat = false) :
    dropSpace (c :: rest) = c :: rest := by
  rw [dropSpace, List.dropWhile_cons_of_neg (by simp [visible])]

theorem isSpace_of_isDigit (digit : c.isDigit = true) : Unicode.isSpace c.toNat = false := by
  have bounds := Char.isDigit_iff_toNat.mp digit
  have checked : ∀ code < 0x3A, 0x30 ≤ code → Unicode.isSpace code = false := by decide +kernel
  exact checked c.toNat (Nat.lt_succ_of_le bounds.2) bounds.1

theorem head_paddedChars : ∃ c later, paddedChars width n = c :: later ∧ c.isDigit = true := by
  obtain ⟨c, later, chars⟩ := List.exists_cons_of_ne_nil (@paddedChars_ne_nil width n)
  refine ⟨c, later, chars, @isDigit_of_mem_paddedChars width n c ?_⟩
  rw [chars]
  exact List.mem_cons_self

theorem dropSpace_paddedChars : dropSpace (paddedChars width n ++ rest) =
    paddedChars width n ++ rest := by
  obtain ⟨c, later, chars, digit⟩ := @head_paddedChars width n
  rw [chars, List.cons_append, dropSpace_cons (isSpace_of_isDigit digit)]

theorem readPart_paddedChars {least greatest : Nat} (atLeast : least ≤ n)
    (atMost : n ≤ greatest) (fits : n < 100) :
    readPart least greatest (paddedChars 2 n ++ rest) = .ok (n, rest) := by
  have within : ¬ (n < least ∨ greatest < n) := by omega
  rw [readPart, dropSpace_paddedChars, readNumber_paddedChars (by decide) fits]
  simp [bind, Except.bind, pure, Except.pure, within]

theorem readMark_cons (visible : Unicode.isSpace c.toNat = false) :
    readMark c (c :: rest) = .ok rest := by
  rw [readMark, dropSpace_cons visible]
  simp

theorem readNumber_signedYear :
    readNumber (paddedChars 4 n ++ '-' :: rest).length (paddedChars 4 n ++ '-' :: rest) =
      .ok (n, '-' :: rest) := by
  rw [readNumber_digits paddedChars_ne_nil (fun c => isDigit_of_mem_paddedChars),
    digitsValue_paddedChars]
  · rw [List.length_append]
    exact Nat.le_add_right _ _
  · exact Or.inr (by simp)

theorem readYear_yearChars {year : Int} (atLeast : Date.firstYear ≤ year)
    (atMost : year ≤ Date.lastYear) :
    readYear (yearChars year ++ '-' :: rest) = .ok (year, '-' :: rest) := by
  have lowest : Date.firstYear = -262143 := rfl
  have highest : Date.lastYear = 262142 := rfl
  have limit : greatestYear = 2147483647 := rfl
  rw [yearChars]
  split_ifs with plain negative
  · simp only [Bool.and_eq_true, decide_eq_true_eq] at plain
    have fits : year.toNat < 10000 := by omega
    have same : (year.toNat : Int) = year := Int.toNat_of_nonneg plain.1
    have read := @readNumber_paddedChars 4 year.toNat ('-' :: rest) (by decide) fits
    obtain ⟨c, later, chars, digit⟩ := @head_paddedChars 4 year.toNat
    rw [readYear, dropSpace_paddedChars]
    rw [chars, List.cons_append] at read ⊢
    split
    · rename_i minus
      cases minus
      cases digit
    · rename_i plus
      cases plus
      cases digit
    · simp [read, bind, Except.bind, pure, Except.pure, same]
  · have same : -(year.natAbs : Int) = year := by omega
    have within : ¬ year.natAbs > greatestYear + 1 := by omega
    rw [readYear, List.cons_append, dropSpace_cons (by decide)]
    simp only [readNumber_signedYear, bind, Except.bind, pure, Except.pure, within, same,
      if_false]
  · simp only [Bool.and_eq_true, decide_eq_true_eq] at plain
    have same : (year.natAbs : Int) = year := by omega
    have within : ¬ year.natAbs > greatestYear := by omega
    rw [readYear, List.cons_append, dropSpace_cons (by decide)]
    simp only [readNumber_signedYear, bind, Except.bind, pure, Except.pure, within, same,
      if_false]

theorem readFraction_paddedChars (positive : 0 < width) (short : width ≤ 9)
    (fits : n < Nat.pow 10 width) (ends : ∀ c ∈ rest.head?, c.isDigit = false) :
    readFraction ('.' :: paddedChars width n ++ rest) =
      .ok (n * Nat.pow 10 (9 - width), rest) := by
  have length := length_paddedChars positive fits
  have read : readNumber 9 (paddedChars width n ++ rest) = .ok (n, rest) := by
    rw [readNumber_digits paddedChars_ne_nil (fun c => isDigit_of_mem_paddedChars)
      (Nat.le_trans (Nat.le_of_eq length) short) (Or.inr ends), digitsValue_paddedChars]
  have stops : rest.dropWhile Char.isDigit = rest :=
    @Text.dropWhile_append_of_ends _ _ [] rest (List.forall_mem_nil _) ends
  have count : (paddedChars width n ++ rest).length - rest.length = width := by
    rw [List.length_append, length, Nat.add_sub_cancel]
  rw [List.cons_append, readFraction]
  simp only [read, bind, Except.bind, pure, Except.pure, count, stops]

theorem readFraction_fractionChars (small : n < 1000000000) :
    readFraction (fractionChars n ++ ['Z']) = .ok (n, ['Z']) := by
  have threeDigits : Nat.pow 10 3 = 1000 := rfl
  have sixDigits : Nat.pow 10 6 = 1000000 := rfl
  rw [fractionChars]
  split_ifs with nothing thousandths millionths
  · rw [nothing]
    rfl
  · have whole : n / 1000000 * Nat.pow 10 (9 - 3) = n :=
      Nat.div_mul_cancel (Nat.dvd_of_mod_eq_zero thousandths)
    rw [readFraction_paddedChars (by decide) (by decide) (by omega) (by simp), whole]
  · have whole : n / 1000 * Nat.pow 10 (9 - 6) = n :=
      Nat.div_mul_cancel (Nat.dvd_of_mod_eq_zero millionths)
    rw [readFraction_paddedChars (by decide) (by decide) (by omega) (by simp), whole]
  · have whole : n * Nat.pow 10 (9 - 9) = n := Nat.mul_one n
    rw [readFraction_paddedChars (by decide) (by decide) small (by simp), whole]

end

/-! ## The whole -/

theorem daysInMonth_le (year : Int) (month : Nat) : daysInMonth year month ≤ 31 := by
  rw [daysInMonth]
  split_ifs <;> decide

section

variable {time : Timestamp}

theorem ofLocal_self : ofLocal time.date time.clock 0 = .ok time := by
  obtain ⟨date, ⟨hour, minute, second, nanosecond⟩, dateValid, clockValid⟩ := time
  have bounds := clockValid
  simp only [Clock.isValid, Bool.and_eq_true, decide_eq_true_eq] at bounds
  have notBefore : ¬ ((hour : Int) * 60 + minute - 0 < 0) := by omega
  have notAfter : ¬ ((hour : Int) * 60 + minute - 0 ≥ minutesPerDay) := by
    rw [minutesPerDay]
    omega
  have ofDay : (((hour : Int) * 60 + minute - 0) % minutesPerDay).toNat =
      hour * 60 + minute := by
    rw [minutesPerDay]
    omega
  have hours : (hour * 60 + minute) / 60 = hour := by omega
  have minutes : (hour * 60 + minute) % 60 = minute := by omega
  have near : ¬ Int.natAbs 0 ≥ minutesPerDay := by decide
  simp only [ofLocal, dateValid, clockValid, Bool.not_true, Bool.or_self, near,
    decide_false, Bool.false_eq_true, if_false, notBefore, notAfter, ofDay, hours, minutes,
    and_self, dite_true]

/-- The text of a point in time is read as that point in time. -/
theorem read_chars : read time.chars = .ok time := by
  have dateValid := time.date_valid
  have clockValid := time.clock_valid
  simp only [Date.isValid, Clock.isValid, Bool.and_eq_true, decide_eq_true_eq]
    at dateValid clockValid
  obtain ⟨⟨⟨⟨⟨firstYear, lastYear⟩, firstMonth⟩, lastMonth⟩, firstDay⟩, lastDay⟩ := dateValid
  obtain ⟨⟨⟨hour, minute⟩, second⟩, nanosecond⟩ := clockValid
  have month31 := daysInMonth_le time.date.year time.date.month
  have hyphen {rest : List Char} := @readMark_cons rest '-' (by decide)
  have colon {rest : List Char} := @readMark_cons rest ':' (by decide)
  have divider {rest : List Char} : readDivider ('T' :: rest) = .ok rest := rfl
  have offset : readOffset (dropSpace ['Z']) = .ok (0, []) := rfl
  simp only [read, chars, secondChars, List.append_assoc, List.cons_append]
  simp only [bind, Except.bind,
    readYear_yearChars firstYear lastYear, hyphen, colon, divider,
    @readPart_paddedChars time.date.month _ 1 12 firstMonth lastMonth (by omega),
    @readPart_paddedChars time.date.day _ 1 31 firstDay (by omega) (by omega),
    @readPart_paddedChars time.clock.hour _ 0 23 (by omega) (by omega) (by omega),
    @readPart_paddedChars time.clock.minute _ 0 59 (by omega) (by omega) (by omega),
    @readPart_paddedChars time.clock.second _ 0 60 (by omega) (by omega) (by omega),
    readFraction_fractionChars nanosecond, offset]
  exact ofLocal_self

end

end LinkVetting.Timestamp
