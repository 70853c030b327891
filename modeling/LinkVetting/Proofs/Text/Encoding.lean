import Mathlib.Data.List.Basic
import LinkVetting.Proofs.Text.Decoding

/-!
# Encoded text decodes to itself

What encodes a character is read as that character, whatever follows it.  So the
encoding of a text decodes to the text, and its last byte ends its last character.
-/

namespace LinkVetting.Text.Utf8

/-! ## Reading by range -/

section

variable {first second third fourth : UInt8} {rest : List UInt8}

theorem decodeFirst_one (ascii : first.toNat < 0x80) :
    decodeFirst first rest = (some (Char.ofNat first.toNat), rest) := by
  simp only [decodeFirst, UInt8.lt_iff_toNat_lt, UInt8.reduceToNat, ascii, if_true]

theorem decodeFirst_two (low : 0xC2 ≤ first.toNat) (high : first.toNat ≤ 0xDF)
    (continues : isContinuation second = true) :
    decodeFirst first (second :: rest) =
      (some (Char.ofNat (first.toNat % 0x20 * 0x40 + payload second)), rest) := by
  have notOne : ¬ first.toNat < 0x80 := by omega
  simp only [decodeFirst, UInt8.lt_iff_toNat_lt, UInt8.le_iff_toNat_le, UInt8.reduceToNat,
    notOne, low, high, continues, decide_true, Bool.and_self, if_true, if_false]

theorem decodeFirst_three (low : 0xE0 ≤ first.toNat) (high : first.toNat ≤ 0xEF)
    (allowed : isSecond first second = true) (continues : isContinuation third = true) :
    decodeFirst first (second :: third :: rest) =
      (some (Char.ofNat (first.toNat % 0x10 * 0x1000 + payload second * 0x40 +
        payload third)), rest) := by
  have notOne : ¬ first.toNat < 0x80 := by omega
  have notTwo : ¬ first.toNat ≤ 0xDF := by omega
  simp only [decodeFirst, UInt8.lt_iff_toNat_lt, UInt8.le_iff_toNat_le, UInt8.reduceToNat,
    notOne, notTwo, low, high, allowed, continues, decide_true, decide_false, Bool.and_false,
    Bool.and_self, Bool.false_eq_true, if_true, if_false]

theorem decodeFirst_four (low : 0xF0 ≤ first.toNat) (high : first.toNat ≤ 0xF4)
    (allowed : isSecond first second = true) (continues : isContinuation third = true)
    (ends : isContinuation fourth = true) :
    decodeFirst first (second :: third :: fourth :: rest) =
      (some (Char.ofNat (first.toNat % 0x08 * 0x40000 + payload second * 0x1000 +
        payload third * 0x40 + payload fourth)), rest) := by
  have notOne : ¬ first.toNat < 0x80 := by omega
  have notTwo : ¬ first.toNat ≤ 0xDF := by omega
  have notThree : ¬ first.toNat ≤ 0xEF := by omega
  simp only [decodeFirst, UInt8.lt_iff_toNat_lt, UInt8.le_iff_toNat_le, UInt8.reduceToNat,
    notOne, notTwo, notThree, low, high, allowed, continues, ends, decide_true, decide_false,
    Bool.and_false, Bool.and_self, Bool.false_eq_true, if_true, if_false]

end

/-! ## One character -/

theorem toNat_toUInt8 {n : Nat} (small : n < 0x100) : n.toUInt8.toNat = n := by
  simpa using Nat.mod_eq_of_lt small

theorem decodeFirst_encodeChar (c : Char) (rest : List UInt8) :
    ∃ first tail, encodeChar c = first :: tail ∧
      decodeFirst first (tail ++ rest) = (some c, rest) := by
  have valid : c.toNat < 0xD800 ∨ 0xDFFF < c.toNat ∧ c.toNat < 0x110000 := c.valid
  have rebuilt {code : Nat} (same : code = c.toNat) : Char.ofNat code = c := by
    rw [same, Char.ofNat_toNat]
  rw [encodeChar]
  by_cases one : c.toNat < 0x80
  · have first := @toNat_toUInt8 c.toNat (by omega)
    refine ⟨_, _, if_pos one, ?_⟩
    rw [List.nil_append, decodeFirst_one (by omega), rebuilt first]
  rw [if_neg one]
  by_cases two : c.toNat < 0x800
  · have first := @toNat_toUInt8 (0xC0 + c.toNat / 0x40) (by omega)
    have second := @toNat_toUInt8 (0x80 + c.toNat % 0x40) (by omega)
    refine ⟨_, _, if_pos two, ?_⟩
    rw [List.singleton_append, decodeFirst_two (by omega) (by omega)
      (isContinuation_iff.mpr (by omega)), payload, rebuilt (by omega)]
  rw [if_neg two]
  by_cases three : c.toNat < 0x10000
  · have first := @toNat_toUInt8 (0xE0 + c.toNat / 0x1000) (by omega)
    have second := @toNat_toUInt8 (0x80 + c.toNat / 0x40 % 0x40) (by omega)
    have third := @toNat_toUInt8 (0x80 + c.toNat % 0x40) (by omega)
    refine ⟨_, _, if_pos three, ?_⟩
    rw [List.cons_append, List.singleton_append, decodeFirst_three (by omega) (by omega)
      (isSecond_iff.mpr (by omega)) (isContinuation_iff.mpr (by omega)), payload, payload,
      rebuilt (by omega)]
  rw [if_neg three]
  have first := @toNat_toUInt8 (0xF0 + c.toNat / 0x40000) (by omega)
  have second := @toNat_toUInt8 (0x80 + c.toNat / 0x1000 % 0x40) (by omega)
  have third := @toNat_toUInt8 (0x80 + c.toNat / 0x40 % 0x40) (by omega)
  have fourth := @toNat_toUInt8 (0x80 + c.toNat % 0x40) (by omega)
  refine ⟨_, _, rfl, ?_⟩
  rw [List.cons_append, List.cons_append, List.singleton_append,
    decodeFirst_four (by omega) (by omega) (isSecond_iff.mpr (by omega))
      (isContinuation_iff.mpr (by omega)) (isContinuation_iff.mpr (by omega)), payload,
    payload, payload, rebuilt (by omega)]

theorem encodeChar_ne_nil {c : Char} : encodeChar c ≠ [] := by
  obtain ⟨first, tail, bytes, _⟩ := decodeFirst_encodeChar c []
  rw [bytes]
  exact List.cons_ne_nil first tail

/-! ## Texts -/

section

variable {text : List Char}

theorem pieces_encode : pieces (encode text) = text.map some := by
  induction text with
  | nil => rw [encode_nil, pieces, List.map_nil]
  | cons c text induction =>
      obtain ⟨first, tail, bytes, read⟩ := decodeFirst_encodeChar c (encode text)
      rw [encode_cons, bytes, List.cons_append, pieces, read, induction, List.map_cons]

/-- The encoding of a text decodes to the text. -/
theorem decode?_encode : decode? (encode text) = some text := by
  rw [decode?, pieces_encode]
  induction text with
  | nil => rfl
  | cons c text induction =>
      rw [List.map_cons, List.mapM_cons, induction]
      rfl

theorem encode_ne_nil (nonempty : text ≠ []) : encode text ≠ [] := by
  cases text with
  | nil => exact absurd rfl nonempty
  | cons c later =>
      rw [encode_cons]
      exact List.append_ne_nil_of_left_ne_nil encodeChar_ne_nil _

theorem getLast?_of_encode (last : (encode text).getLast? = some 0x0D) :
    text.getLast? = some '\r' := by
  rcases List.eq_nil_or_concat text with rfl | ⟨front, c, rfl⟩
  · cases last
  · rw [List.concat_eq_append] at last ⊢
    rw [encode_append, encode_cons, encode_nil, List.append_nil,
      List.getLast?_append_of_ne_nil _ encodeChar_ne_nil] at last
    have code := toNat_eq_of_mem_encodeChar (by decide) (List.mem_of_getLast? last)
    rw [List.getLast?_concat, Char.toNat_inj.mp (code.trans rfl : c.toNat = '\r'.toNat)]

end

end LinkVetting.Text.Utf8
