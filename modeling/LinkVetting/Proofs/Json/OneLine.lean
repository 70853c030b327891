import Mathlib.Tactic.SplitIfs
import LinkVetting.Json.Printer

/-!
# Compact JSON on one line

The compact form of a value holds no control character, whatever its texts hold.
So it does not break the line of the text that it is written into.
-/

namespace LinkVetting.Json

/-- A text without the controls below U+0020. -/
def HasNoControls (text : List Char) : Prop := ∀ c ∈ text, 0x20 ≤ c.toNat

namespace HasNoControls

instance {text : List Char} : Decidable (HasNoControls text) :=
  List.decidableBAll (fun c : Char => 0x20 ≤ c.toNat) text

variable {front back text : List Char} {c : Char}

@[simp]
theorem nil : HasNoControls [] := by simp [HasNoControls]

@[simp]
theorem cons_iff : HasNoControls (c :: text) ↔ 0x20 ≤ c.toNat ∧ HasNoControls text := by
  simp [HasNoControls]

@[simp]
theorem append_iff :
    HasNoControls (front ++ back) ↔ HasNoControls front ∧ HasNoControls back := by
  simp [HasNoControls, or_imp, forall_and]

theorem of_subset (free : HasNoControls text) (subset : front ⊆ text) :
    HasNoControls front :=
  fun c member => free c (subset member)

theorem replicate {count : Nat} (visible : 0x20 ≤ c.toNat) :
    HasNoControls (List.replicate count c) := by
  intro other member
  rw [List.eq_of_mem_replicate member]
  exact visible

theorem lineFeed_notMem (free : HasNoControls text) : '\n' ∉ text := by
  intro member
  have visible := free '\n' member
  revert visible
  decide

end HasNoControls

/-! ## Texts and numbers -/

theorem toNat_hexDigit : ∀ n < 16, 0x20 ≤ (hexDigit n).toNat := by decide

theorem hasNoControls_escapedChar {c : Char} : HasNoControls (escapedChar c) := by
  rw [escapedChar]
  split_ifs with quote backslash visible
  · decide
  · decide
  · simpa using visible
  · decide
  · decide
  · decide
  · decide
  · decide
  · -- the two digits of a control code are below 2 and below 16
    have high := toNat_hexDigit (c.toNat / 16) (by omega)
    have low := toNat_hexDigit (c.toNat % 16) (by omega)
    simp only [HasNoControls.cons_iff, high, low, HasNoControls.nil, and_true]
    decide

theorem hasNoControls_stringChars {text : String} : HasNoControls (stringChars text) := by
  have body : HasNoControls (text.toList.flatMap escapedChar) := by
    intro c member
    obtain ⟨source, _, escaped⟩ := List.mem_flatMap.mp member
    exact hasNoControls_escapedChar c escaped
  rw [stringChars, HasNoControls.append_iff, HasNoControls.cons_iff]
  exact ⟨⟨by decide, body⟩, by decide⟩

theorem hasNoControls_repr {n : Nat} : HasNoControls (Nat.repr n).toList := by
  intro c member
  rw [Nat.toList_repr] at member
  have digit := Nat.isDigit_of_mem_toDigits (by decide) (by decide) member
  have atLeast : '0'.toNat ≤ c.toNat := (Char.isDigit_iff_toNat.mp digit).1
  exact Nat.le_trans (by decide) atLeast

theorem hasNoControls_signChars {value : Decimal.Binary64} :
    HasNoControls (signChars value) := by
  rw [signChars]
  split
  · decide
  · decide

theorem hasNoControls_plainFloatChars {value : Decimal.Binary64} :
    HasNoControls (plainFloatChars value) := by
  have digits := @hasNoControls_repr value.shortest.digits
  have zeros {count : Nat} : HasNoControls (List.replicate count '0') :=
    HasNoControls.replicate (by decide)
  simp only [plainFloatChars, HasNoControls.append_iff]
  refine ⟨hasNoControls_signChars, ?_⟩
  split
  · decide
  · split
    · simp only [HasNoControls.append_iff]
      exact ⟨⟨by decide, zeros⟩, digits⟩
    · -- both parts are cut from the digits with zeros behind them
      have padded {count : Nat} : HasNoControls ((Nat.repr value.shortest.digits).toList ++
          List.replicate count '0') := HasNoControls.append_iff.mpr ⟨digits, zeros⟩
      simp only [HasNoControls.append_iff]
      refine ⟨⟨padded.of_subset (List.take_subset _ _), by decide⟩, ?_⟩
      split
      · decide
      · exact padded.of_subset (List.drop_subset _ _)

theorem hasNoControls_scientificChars {value : Decimal.Binary64} :
    HasNoControls (scientificChars value) := by
  have digits := @hasNoControls_repr value.shortest.digits
  simp only [scientificChars, HasNoControls.append_iff]
  refine ⟨⟨⟨⟨hasNoControls_signChars, ?_⟩, ?_⟩, ?_⟩, hasNoControls_repr⟩
  · exact digits.of_subset (List.take_subset _ _)
  · split
    · exact HasNoControls.nil
    · exact HasNoControls.cons_iff.mpr ⟨by decide, digits.of_subset (List.tail_sublist _).subset⟩
  · split
    · decide
    · decide

theorem Number.hasNoControls_chars {value : Number} : HasNoControls value.chars := by
  cases value with
  | natural magnitude => exact hasNoControls_repr
  | negative magnitude =>
      exact HasNoControls.cons_iff.mpr ⟨by decide, hasNoControls_repr⟩
  | float value =>
      simp only [Number.chars, floatChars]
      split
      · exact hasNoControls_plainFloatChars
      · exact hasNoControls_scientificChars

/-! ## Values -/

/-- The compact form of items that follow others, each behind a comma. -/
def laterItems : List Json → List Char
  | [] => []
  | item :: later => ',' :: compactChars item ++ laterItems later

/-- The compact form of members that follow others, each behind a comma. -/
def laterMembers : List (String × Json) → List Char
  | [] => []
  | (name, value) :: later =>
      ',' :: stringChars name ++ ':' :: compactChars value ++ laterMembers later

theorem compactItems_cons {item : Json} {later : List Json} :
    compactItems (item :: later) = compactChars item ++ laterItems later := by
  induction later generalizing item with
  | nil => simp [compactItems, laterItems]
  | cons next later induction => simp [compactItems, laterItems, induction]

theorem compactMembers_cons {name : String} {value : Json}
    {later : List (String × Json)} :
    compactMembers ((name, value) :: later) =
      stringChars name ++ ':' :: compactChars value ++ laterMembers later := by
  induction later generalizing name value with
  | nil => simp [compactMembers, laterMembers]
  | cons next later induction =>
      obtain ⟨nextName, nextValue⟩ := next
      simp [compactMembers, laterMembers, induction]

mutual

/-- The compact form of a value holds no control character. -/
theorem hasNoControls_compactChars (value : Json) : HasNoControls value.compactChars := by
  cases value with
  | null => decide
  | bool value =>
      cases value with
      | false => decide
      | true => decide
  | number value => exact Number.hasNoControls_chars
  | string text => exact hasNoControls_stringChars
  | array items =>
      rw [compactChars, HasNoControls.append_iff, HasNoControls.cons_iff]
      refine ⟨⟨by decide, ?_⟩, by decide⟩
      cases items with
      | nil => exact HasNoControls.nil
      | cons item later =>
          rw [compactItems_cons, HasNoControls.append_iff]
          exact ⟨hasNoControls_compactChars item, hasNoControls_laterItems later⟩
  | object members =>
      rw [compactChars, HasNoControls.append_iff, HasNoControls.cons_iff]
      refine ⟨⟨by decide, ?_⟩, by decide⟩
      cases members with
      | nil => exact HasNoControls.nil
      | cons member later =>
          obtain ⟨name, value⟩ := member
          rw [compactMembers_cons]
          simp only [HasNoControls.append_iff, HasNoControls.cons_iff]
          exact ⟨⟨hasNoControls_stringChars, by decide, hasNoControls_compactChars value⟩,
            hasNoControls_laterMembers later⟩

theorem hasNoControls_laterItems (items : List Json) : HasNoControls (laterItems items) := by
  cases items with
  | nil => exact HasNoControls.nil
  | cons item later =>
      simp only [laterItems, HasNoControls.append_iff, HasNoControls.cons_iff]
      exact ⟨⟨by decide, hasNoControls_compactChars item⟩, hasNoControls_laterItems later⟩

theorem hasNoControls_laterMembers (members : List (String × Json)) :
    HasNoControls (laterMembers members) := by
  cases members with
  | nil => exact HasNoControls.nil
  | cons member later =>
      obtain ⟨name, value⟩ := member
      simp only [laterMembers, HasNoControls.append_iff, HasNoControls.cons_iff]
      exact ⟨⟨⟨by decide, hasNoControls_stringChars⟩, by decide,
        hasNoControls_compactChars value⟩, hasNoControls_laterMembers later⟩

end

end LinkVetting.Json
