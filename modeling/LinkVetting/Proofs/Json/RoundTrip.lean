import LinkVetting.Proofs.Json.Layout
import LinkVetting.Proofs.Json.OneLine

/-!
# Reading printed JSON back

The compact and the indented form of a value are two layouts of it.  So a value that fits
is read back from both, with the members of its objects sorted by name.
-/

namespace LinkVetting.Json

/-! ## Compact form -/

namespace Layout

/-- No blanks at all. -/
def compact : Layout where
  gap _ := []
  space := []
  gap_blank _ := List.forall_mem_nil _
  space_blank := List.forall_mem_nil _

@[simp]
theorem gap_compact {depth : Nat} : compact.gap depth = [] := rfl

@[simp]
theorem space_compact : compact.space = [] := rfl

mutual

theorem chars_compact (depth : Nat) (value : Json) :
    compact.chars depth value = value.compactChars := by
  cases value with
  | null => rfl
  | bool value =>
      cases value with
      | false => rfl
      | true => rfl
  | number value => rfl
  | string text => rfl
  | array items =>
      cases items with
      | nil => rfl
      | cons item later =>
          rw [chars, compactChars, compactItems_cons, chars_compact (depth + 1) item,
            laterItems_compact (depth + 1) later]
          simp
  | object members =>
      cases members with
      | nil => rfl
      | cons member later =>
          obtain ⟨name, value⟩ := member
          rw [chars, compactChars, compactMembers_cons, chars_compact (depth + 1) value,
            laterMembers_compact (depth + 1) later]
          simp

theorem laterItems_compact (depth : Nat) (items : List Json) :
    compact.laterItems depth items = Json.laterItems items := by
  cases items with
  | nil => rfl
  | cons item later =>
      rw [laterItems, Json.laterItems, chars_compact depth item, laterItems_compact depth later]
      simp

theorem laterMembers_compact (depth : Nat) (members : List (String × Json)) :
    compact.laterMembers depth members = Json.laterMembers members := by
  cases members with
  | nil => rfl
  | cons member later =>
      obtain ⟨name, value⟩ := member
      rw [laterMembers, Json.laterMembers, chars_compact depth value,
        laterMembers_compact depth later]
      simp

end

end Layout

/-- What it means for a value to be read back at some depth: with enough fuel,
and wherever it ends. -/
def ReadsBack (depth : Nat) (value : Json) : Prop :=
  ∀ fuel rest, value.compactChars.length ≤ fuel → EndsValue rest →
    readValue fuel depth (value.compactChars ++ rest) = .ok (value.sorted, rest)

theorem readsBack_of_fits {depth : Nat} {value : Json} (fits : Fits depth value) :
    ReadsBack depth value := by
  intro fuel rest enough ends
  have readsBack : Layout.compact.ReadsBack depth value := Layout.readsBack_of_fits fits
  rw [← Layout.chars_compact 0] at enough ⊢
  exact readsBack 0 fuel rest enough ends.endsNumber

/-- The compact form of a value that fits is read as that value, its members
sorted. -/
theorem read_compactChars {value : Json} (fits : Fits depthLimit value) :
    Json.read value.compactChars = .ok value.sorted := by
  have read := @Layout.read_chars Layout.compact 0 [] value fits (List.forall_mem_nil _)
  rw [List.append_nil, Layout.chars_compact] at read
  exact read

section

variable {rest : List Char} {name : String} {value : Json} {later : List (String × Json)}

theorem endsValue_laterMembers :
    EndsValue (laterMembers later ++ '\x7d' :: rest) := by
  cases later with
  | nil => exact Or.inr (Or.inr rfl)
  | cons member later => exact Or.inl rfl

theorem nextMember_laterMembers :
    nextMember false (laterMembers ((name, value) :: later) ++ '\x7d' :: rest) =
      .ok (some (name.toList.flatMap escapedChar ++
        '"' :: ':' :: (value.compactChars ++ (laterMembers later ++ '\x7d' :: rest)))) := by
  simp only [laterMembers, stringChars, List.cons_append, List.append_assoc, List.nil_append]
  exact @nextMember_later [] _ (List.forall_mem_nil _)

theorem nextMember_compactMembers :
    nextMember true (compactMembers ((name, value) :: later) ++ '\x7d' :: rest) =
      .ok (some (name.toList.flatMap escapedChar ++
        '"' :: ':' :: (value.compactChars ++ (laterMembers later ++ '\x7d' :: rest)))) := by
  rw [compactMembers_cons]
  simp only [stringChars, List.cons_append, List.append_assoc, List.nil_append]
  exact @nextMember_first [] _ (List.forall_mem_nil _)

end

/-! ## Indented form -/

namespace Layout

/-- Every item and member on a line of its own. -/
def indented : Layout where
  gap := indentation
  space := [' ']
  gap_blank depth := by
    refine List.forall_mem_cons.mpr ⟨by decide, fun c member => ?_⟩
    rw [List.eq_of_mem_replicate member]
    decide
  space_blank := by
    refine List.forall_mem_singleton.mpr ?_
    decide

@[simp]
theorem gap_indented {depth : Nat} : indented.gap depth = indentation depth := rfl

@[simp]
theorem space_indented : indented.space = [' '] := rfl

mutual

theorem chars_indented (depth : Nat) (value : Json) :
    indented.chars depth value = value.indentedChars depth := by
  cases value with
  | null => rfl
  | bool value =>
      cases value with
      | false => rfl
      | true => rfl
  | number value => rfl
  | string text => rfl
  | array items =>
      cases items with
      | nil => rfl
      | cons item later =>
          have body := laterItems_indented (depth + 1) later item (chars_indented (depth + 1) item)
          simp [chars, indentedChars, ← body]
  | object members =>
      cases members with
      | nil => rfl
      | cons member later =>
          obtain ⟨name, value⟩ := member
          have body := laterMembers_indented (depth + 1) later name value
            (chars_indented (depth + 1) value)
          simp [chars, indentedChars, ← body]

theorem laterItems_indented (depth : Nat) (later : List Json) (item : Json)
    (first : indented.chars depth item = item.indentedChars depth) :
    indentation depth ++ indented.chars depth item ++ indented.laterItems depth later =
      indentedItems depth (item :: later) := by
  cases later with
  | nil => simp [laterItems, indentedItems, first]
  | cons next later =>
      have others := laterItems_indented depth later next (chars_indented depth next)
      simp [laterItems, indentedItems, ← others, first]

theorem laterMembers_indented (depth : Nat) (later : List (String × Json)) (name : String)
    (value : Json) (first : indented.chars depth value = value.indentedChars depth) :
    indentation depth ++ stringChars name ++ [':', ' '] ++ indented.chars depth value ++
        indented.laterMembers depth later =
      indentedMembers depth ((name, value) :: later) := by
  cases later with
  | nil => simp [laterMembers, indentedMembers, first]
  | cons next later =>
      obtain ⟨nextName, nextValue⟩ := next
      have others := laterMembers_indented depth later nextName nextValue
        (chars_indented depth nextValue)
      simp [laterMembers, indentedMembers, ← others, first]

end

end Layout

/-- The indented form of a value that fits is read as that value, its members sorted, also
with blanks behind it. -/
theorem read_indentedChars {depth : Nat} {value : Json} {blanks : List Char}
    (fits : Fits depthLimit value) (blank : IsBlankText blanks) :
    Json.read (value.indentedChars depth ++ blanks) = .ok value.sorted := by
  rw [← Layout.chars_indented]
  exact Layout.read_chars fits blank

end LinkVetting.Json
