import Mathlib.Tactic.SplitIfs
import LinkVetting.Text.Utf8

/-!
# Decoded text is its encoding

A character is read only from the bytes that encode it.  So a byte string that
decodes to a text is the encoding of that text, and no line feed comes out of
bytes that hold none.
-/

namespace LinkVetting.Text.Utf8

/-! ## Encodings by range -/

section

variable {code : Nat}

theorem toNat_charOfNat (valid : code.isValidChar) : (Char.ofNat code).toNat = code := by
  rw [Char.ofNat, dif_pos valid]
  rfl

theorem encodeChar_one (small : code < 0x80) :
    encodeChar (Char.ofNat code) = [code.toUInt8] := by
  have same := @toNat_charOfNat code (Or.inl (by omega))
  simp [encodeChar, same, small]

theorem encodeChar_two (atLeast : 0x80 ≤ code) (below : code < 0x800) :
    encodeChar (Char.ofNat code) =
      [(0xC0 + code / 0x40).toUInt8, (0x80 + code % 0x40).toUInt8] := by
  have same := @toNat_charOfNat code (Or.inl (by omega))
  simp [encodeChar, same, Nat.not_lt.mpr atLeast, below]

theorem encodeChar_three (atLeast : 0x800 ≤ code) (below : code < 0x10000)
    (valid : code.isValidChar) :
    encodeChar (Char.ofNat code) =
      [(0xE0 + code / 0x1000).toUInt8, (0x80 + code / 0x40 % 0x40).toUInt8,
        (0x80 + code % 0x40).toUInt8] := by
  have same := toNat_charOfNat valid
  have notOne : ¬code < 0x80 := by omega
  simp [encodeChar, same, notOne, Nat.not_lt.mpr atLeast, below]

theorem encodeChar_four (atLeast : 0x10000 ≤ code) (valid : code.isValidChar) :
    encodeChar (Char.ofNat code) =
      [(0xF0 + code / 0x40000).toUInt8, (0x80 + code / 0x1000 % 0x40).toUInt8,
        (0x80 + code / 0x40 % 0x40).toUInt8, (0x80 + code % 0x40).toUInt8] := by
  have same := toNat_charOfNat valid
  have notOne : ¬code < 0x80 := by omega
  have notTwo : ¬code < 0x800 := by omega
  simp [encodeChar, same, notOne, notTwo, Nat.not_lt.mpr atLeast]

end

/-! ## One character -/

section

variable {first second third fourth : UInt8} {rest later : List UInt8} {c : Char}

theorem toUInt8_eq {n : Nat} {byte : UInt8} (same : n = byte.toNat) : n.toUInt8 = byte := by
  subst same
  exact UInt8.ofNat_toNat

theorem isContinuation_iff {byte : UInt8} :
    isContinuation byte = true ↔ 0x80 ≤ byte.toNat ∧ byte.toNat ≤ 0xBF := by
  simp [isContinuation, UInt8.le_iff_toNat_le]

/-- What the second byte of a longer character says about its code: no overlong
form, no surrogate, nothing past the last character. -/
theorem isSecond_iff :
    isSecond first second = true ↔
      (0x80 ≤ second.toNat ∧ second.toNat ≤ 0xBF) ∧
        (first.toNat = 0xE0 → 0xA0 ≤ second.toNat) ∧
          (first.toNat = 0xED → second.toNat ≤ 0x9F) ∧
            (first.toNat = 0xF0 → 0x90 ≤ second.toNat) ∧
              (first.toNat = 0xF4 → second.toNat ≤ 0x8F) := by
  simp only [isSecond, isContinuation, UInt8.le_iff_toNat_le, ← UInt8.toNat_inj,
    UInt8.reduceToNat]
  split_ifs
  all_goals
    simp only [Bool.and_eq_true, decide_eq_true_eq]
    omega

theorem encodeChar_of_decodeFirst (decoded : decodeFirst first rest = (some c, later)) :
    first :: rest = encodeChar c ++ later := by
  have firstBound := first.toNat_lt
  revert decoded
  fun_cases decodeFirst first rest with
  | case1 _ ascii =>
      intro decoded
      cases decoded
      have small : first.toNat < 0x80 := UInt8.lt_iff_toNat_lt.mp ascii
      rw [encodeChar_one small, toUInt8_eq rfl]
      rfl
  | case2 _ range second rest continues =>
      intro decoded
      cases decoded
      simp only [Bool.and_eq_true, decide_eq_true_eq, UInt8.le_iff_toNat_le,
        UInt8.reduceToNat] at range
      have ⟨low, high⟩ := isContinuation_iff.mp continues
      have rebuilt : first.toNat % 0x20 * 0x40 + payload second =
          (first.toNat - 0xC0) * 0x40 + (second.toNat - 0x80) := by
        rw [payload]
        omega
      rw [rebuilt, encodeChar_two (by omega) (by omega), @toUInt8_eq _ first (by omega),
        @toUInt8_eq _ second (by omega)]
      rfl
  | case5 _ _ range second allowed third rest continues =>
      intro decoded
      cases decoded
      simp only [Bool.and_eq_true, decide_eq_true_eq, UInt8.le_iff_toNat_le,
        UInt8.reduceToNat] at range
      have ⟨⟨secondLow, secondHigh⟩, overlong, surrogate, _⟩ := isSecond_iff.mp allowed
      have ⟨low, high⟩ := isContinuation_iff.mp continues
      have rebuilt : first.toNat % 0x10 * 0x1000 + payload second * 0x40 + payload third =
          (first.toNat - 0xE0) * 0x1000 + (second.toNat - 0x80) * 0x40 +
            (third.toNat - 0x80) := by
        rw [payload, payload]
        omega
      rw [rebuilt, encodeChar_three (by omega) (by omega)
        (by simp only [Nat.isValidChar]; omega), @toUInt8_eq _ first (by omega),
        @toUInt8_eq _ second (by omega), @toUInt8_eq _ third (by omega)]
      rfl
  | case10 _ _ _ range second allowed third continues fourth rest ends =>
      intro decoded
      cases decoded
      simp only [Bool.and_eq_true, decide_eq_true_eq, UInt8.le_iff_toNat_le,
        UInt8.reduceToNat] at range
      have ⟨⟨secondLow, secondHigh⟩, _, _, overlong, last⟩ := isSecond_iff.mp allowed
      have ⟨thirdLow, thirdHigh⟩ := isContinuation_iff.mp continues
      have ⟨low, high⟩ := isContinuation_iff.mp ends
      have rebuilt : first.toNat % 0x08 * 0x40000 + payload second * 0x1000 +
            payload third * 0x40 + payload fourth =
          (first.toNat - 0xF0) * 0x40000 + (second.toNat - 0x80) * 0x1000 +
            (third.toNat - 0x80) * 0x40 + (fourth.toNat - 0x80) := by
        rw [payload, payload, payload]
        omega
      rw [rebuilt, encodeChar_four (by omega) (by simp only [Nat.isValidChar]; omega),
        @toUInt8_eq _ first (by omega), @toUInt8_eq _ second (by omega),
        @toUInt8_eq _ third (by omega), @toUInt8_eq _ fourth (by omega)]
      rfl
  | _ =>
      intro decoded
      cases decoded

end

/-! ## Texts -/

section

variable {bytes : List UInt8} {text : List Char}

/-- A byte string that decodes to a text is the encoding of that text. -/
theorem encode_of_decode? (decoded : decode? bytes = some text) : encode text = bytes := by
  rw [decode?] at decoded
  induction bytes using pieces.induct generalizing text with
  | case1 =>
      rw [pieces] at decoded
      cases decoded
      rfl
  | case2 first rest induction =>
      rw [pieces, List.mapM_cons] at decoded
      obtain ⟨c, read, others⟩ := Option.bind_eq_some_iff.mp decoded
      obtain ⟨laterText, laterRead, same⟩ := Option.bind_eq_some_iff.mp others
      cases same
      have whole : decodeFirst first rest = (some c, (decodeFirst first rest).2) :=
        Prod.ext read rfl
      rw [encode_cons, induction laterRead, ← encodeChar_of_decodeFirst whole]

theorem lineFeed_mem_of_decode? (decoded : decode? bytes = some text)
    (member : '\n' ∈ text) : 0x0A ∈ bytes := by
  rw [← encode_of_decode? decoded, encode]
  exact List.mem_flatMap.mpr ⟨'\n', member, by decide⟩

/-- A byte of ASCII encodes its own character and is part of no other. -/
theorem toNat_eq_of_mem_encodeChar {byte : UInt8} {c : Char} (ascii : byte.toNat < 0x80)
    (member : byte ∈ encodeChar c) : c.toNat = byte.toNat := by
  have valid : c.toNat < 0xD800 ∨ 0xDFFF < c.toNat ∧ c.toNat < 0x110000 := c.valid
  simp only [encodeChar] at member
  split_ifs at member with one two three
  · simp only [List.mem_singleton, ← UInt8.toNat_inj] at member
    simp at member
    omega
  all_goals
    simp only [List.mem_cons, List.not_mem_nil, or_false, ← UInt8.toNat_inj] at member
    simp at member
    omega

theorem lineFeed_mem_of_encode (member : 0x0A ∈ encode text) : '\n' ∈ text := by
  obtain ⟨c, inText, inChar⟩ := List.mem_flatMap.mp member
  have code := toNat_eq_of_mem_encodeChar (by decide) inChar
  rwa [← Char.toNat_inj.mp (code.trans rfl : c.toNat = '\n'.toNat)]

end

end LinkVetting.Text.Utf8
