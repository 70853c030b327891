import LinkVetting.Proofs.Json.ScalarReading
import LinkVetting.Uuid

/-!
# Identifiers are read back

An identifier is printed in five groups of hexadecimal digits.  The length of its text is
that of the form in groups alone, and the groups without their hyphens are its digits.
-/

namespace LinkVetting.Uuid

theorem ofGroups?_joined {first second third fourth fifth : List Char}
    (firstLength : first.length = 8) (secondLength : second.length = 4)
    (thirdLength : third.length = 4) (fourthLength : fourth.length = 4)
    (fifthLength : fifth.length = 12) :
    ofGroups? (first ++ '-' :: second ++ '-' :: third ++ '-' :: fourth ++ '-' :: fifth) =
      ofDigits? (first ++ second ++ third ++ fourth ++ fifth) := by
  simp [ofGroups?, List.drop_append, List.getElem?_append, firstLength, secondLength,
    thirdLength, fourthLength, fifthLength, List.drop_of_length_le]

theorem digitOf?_digitChar (digit : Fin 16) : digitOf? (digitChar digit) = some digit := by
  simp [digitOf?, digitChar, Json.hexValue?_hexDigit digit.val digit.isLt, digit.isLt]

theorem mapM_digitOf?_digitChar {digits : List (Fin 16)} :
    (digits.map digitChar).mapM digitOf? = some digits := by
  induction digits with
  | nil => rfl
  | cons digit digits induction =>
      rw [List.map_cons, List.mapM_cons, digitOf?_digitChar, induction]
      rfl

section

variable {id : Uuid}

theorem ofDigits?_digits : ofDigits? (id.digits.map digitChar) = some id := by
  simp only [ofDigits?, mapM_digitOf?_digitChar, id.length_eq, dite_true]

theorem ofText?_chars : ofText? id.chars = some id := by
  let written := id.digits.map digitChar
  have whole : written.take 8 ++ (written.drop 8).take 4 ++ (written.drop 12).take 4 ++
      (written.drop 16).take 4 ++ written.drop 20 = written := by
    rw [← List.take_add, ← List.take_add, ← List.take_add, List.take_append_drop]
  have size : id.chars.length = 36 := by
    simp [chars, id.length_eq]
  rw [ofText?, size]
  change ofGroups? id.chars = some id
  rw [chars, ofGroups?_joined (by simp [id.length_eq]) (by simp [id.length_eq])
    (by simp [id.length_eq]) (by simp [id.length_eq]) (by simp [id.length_eq])]
  exact (congrArg ofDigits? whole).trans ofDigits?_digits

theorem read_chars : read id.chars = .ok id := by
  rw [read, ofText?_chars]

end

end LinkVetting.Uuid
