import LinkVetting.Proofs.Json.ScalarReading

/-!
# Reading JSON back from any layout

Blanks between the signs of a JSON text mean nothing.  A value that nests no deeper than
a reader allows, and whose numbers are whole and kept exactly, is read back wherever the
blanks stand, with the members of its objects sorted by name.
-/

namespace LinkVetting.Json

mutual

/-- A value as it is read back: the members of every object are sorted by name,
each name once. -/
def sorted : Json → Json
  | .null => .null
  | .bool value => .bool value
  | .number value => .number value
  | .string text => .string text
  | .array items => .array (sortedItems items)
  | .object members => ofMembers (sortedMembers members)

def sortedItems : List Json → List Json
  | [] => []
  | item :: later => sorted item :: sortedItems later

def sortedMembers : List (String × Json) → List (String × Json)
  | [] => []
  | (name, value) :: later => (name, sorted value) :: sortedMembers later

end

/-- The values that can be read back: they nest at most so deep, and their
numbers are whole and kept exactly. -/
inductive Fits : (depth : Nat) → Json → Prop where
  | null {depth : Nat} : Fits depth .null
  | bool {depth : Nat} {value : Bool} : Fits depth (.bool value)
  | natural {depth n : Nat} : n ≤ greatestNatural → Fits depth (.number (.natural n))
  | negative {depth n : Nat} : 0 < n → n ≤ greatestNegative →
      Fits depth (.number (.negative n))
  | string {depth : Nat} {text : String} : Fits depth (.string text)
  | array {depth : Nat} {items : List Json} :
      (∀ item ∈ items, Fits depth item) → Fits (depth + 1) (.array items)
  | object {depth : Nat} {members : List (String × Json)} :
      (∀ member ∈ members, Fits depth member.2) → Fits (depth + 1) (.object members)

/-! ## Blanks -/

/-- A text that holds nothing but blanks. -/
def IsBlankText (blanks : List Char) : Prop := ∀ c ∈ blanks, isBlank c = true

section

variable {blanks rest : List Char} {c : Char} {fuel depth : Nat}

theorem dropBlanks_cons (visible : isBlank c = false) :
    dropBlanks (c :: rest) = c :: rest := by
  simp [dropBlanks, visible]

theorem dropBlanks_append (blank : IsBlankText blanks) :
    dropBlanks (blanks ++ rest) = dropBlanks rest :=
  List.dropWhile_append_of_pos blank

theorem not_isBlank_of_isDigit (digit : c.isDigit = true) : isBlank c = false := by
  cases blank : isBlank c with
  | false => rfl
  | true =>
      simp only [isBlank, Bool.or_eq_true, beq_iff_eq] at blank
      rcases blank with ((rfl | rfl) | rfl) | rfl
      · cases digit
      · cases digit
      · cases digit
      · cases digit

theorem readValue_blanks (blank : IsBlankText blanks) (enough : 0 < fuel) :
    readValue fuel depth (blanks ++ rest) = readValue fuel depth rest := by
  obtain ⟨fuel, rfl⟩ := Nat.exists_eq_add_one_of_ne_zero (Nat.ne_of_gt enough)
  rw [readValue, dropBlanks_append blank, readValue]

theorem endsNumber_blanks (blank : IsBlankText blanks) (ends : EndsNumber rest) :
    EndsNumber (blanks ++ rest) := by
  cases blanks with
  | nil => exact ends
  | cons c later =>
      intro other first
      obtain rfl := Option.some.inj first
      have isBlank := blank c List.mem_cons_self
      simp only [Json.isBlank, Bool.or_eq_true, beq_iff_eq] at isBlank
      rcases isBlank with ((rfl | rfl) | rfl) | rfl
      · decide
      · decide
      · decide
      · decide

end

/-- Where blanks stand in a text: at every depth before an item or a member and before
the end of what holds it, and behind the colons. -/
structure Layout where
  gap : (depth : Nat) → List Char
  space : List Char
  gap_blank : ∀ depth, IsBlankText (gap depth)
  space_blank : IsBlankText space

namespace Layout

mutual

/-- The text of a value at a depth. -/
def chars (layout : Layout) (depth : Nat) : Json → List Char
  | .null => ['n', 'u', 'l', 'l']
  | .bool true => ['t', 'r', 'u', 'e']
  | .bool false => ['f', 'a', 'l', 's', 'e']
  | .number value => value.chars
  | .string text => stringChars text
  | .array [] => ['[', ']']
  | .array (item :: later) =>
      '[' :: layout.gap (depth + 1) ++ layout.chars (depth + 1) item ++
        layout.laterItems (depth + 1) later ++ layout.gap depth ++ [']']
  | .object [] => ['\x7b', '\x7d']
  | .object ((name, value) :: later) =>
      '\x7b' :: layout.gap (depth + 1) ++ stringChars name ++ ':' :: layout.space ++
        layout.chars (depth + 1) value ++ layout.laterMembers (depth + 1) later ++
        layout.gap depth ++ ['\x7d']

/-- The text of items that follow others. -/
def laterItems (layout : Layout) (depth : Nat) : List Json → List Char
  | [] => []
  | item :: later =>
      ',' :: layout.gap depth ++ layout.chars depth item ++ layout.laterItems depth later

/-- The text of members that follow others. -/
def laterMembers (layout : Layout) (depth : Nat) : List (String × Json) → List Char
  | [] => []
  | (name, value) :: later =>
      ',' :: layout.gap depth ++ stringChars name ++ ':' :: layout.space ++
        layout.chars depth value ++ layout.laterMembers depth later

end

end Layout

/-! ## Signs between values -/

section

variable {fuel depth : Nat} {blanks front rest text : List Char} {c : Char} {isFirst : Bool}

theorem nextItem_later (blank : IsBlankText blanks) (visible : isBlank c = false)
    (noBracket : c ≠ ']') :
    nextItem false (',' :: (blanks ++ c :: rest)) = .ok (some (c :: rest)) := by
  rw [nextItem, dropBlanks_cons (by decide)]
  simp only [dropBlanks_append blank, dropBlanks_cons visible, Bool.false_eq_true, if_false]
  split
  · rename_i nothing
    cases nothing
  · rename_i bracket
    cases bracket
    exact absurd rfl noBracket
  · rfl

theorem nextItem_first (blank : IsBlankText blanks) (visible : isBlank c = false)
    (noBracket : c ≠ ']') (noComma : c ≠ ',') :
    nextItem true (blanks ++ c :: rest) = .ok (some (c :: rest)) := by
  rw [nextItem, dropBlanks_append blank, dropBlanks_cons visible]
  split
  · rename_i nothing
    cases nothing
  · rename_i bracket
    cases bracket
    exact absurd rfl noBracket
  · rename_i comma
    cases comma
    exact absurd rfl noComma
  · rfl

theorem nextItem_end (blank : IsBlankText blanks) :
    nextItem isFirst (blanks ++ ']' :: rest) = .ok none := by
  rw [nextItem, dropBlanks_append blank, dropBlanks_cons (by decide)]
  rfl

theorem nextMember_later (blank : IsBlankText blanks) :
    nextMember false (',' :: (blanks ++ '"' :: rest)) = .ok (some rest) := by
  rw [nextMember, dropBlanks_cons (by decide)]
  simp [dropBlanks_append blank, dropBlanks_cons (show isBlank '"' = false by decide)]

theorem nextMember_first (blank : IsBlankText blanks) :
    nextMember true (blanks ++ '"' :: rest) = .ok (some rest) := by
  rw [nextMember, dropBlanks_append blank, dropBlanks_cons (by decide)]
  rfl

theorem nextMember_end (blank : IsBlankText blanks) :
    nextMember isFirst (blanks ++ '\x7d' :: rest) = .ok none := by
  rw [nextMember, dropBlanks_append blank, dropBlanks_cons (by decide)]
  rfl

theorem readColon_cons : readColon (':' :: rest) = .ok rest := by
  rw [readColon, dropBlanks_cons (by decide)]
  rfl

theorem readItems_item {before : List Json} {item : Json}
    (next : nextItem isFirst text = .ok (some front))
    (read : readValue fuel depth front = .ok (item, rest)) :
    readItems (fuel + 1) depth isFirst before text =
      readItems fuel depth false (item :: before) rest := by
  simp [readItems, next, read, bind, Except.bind]

theorem readMembers_member {before : List (String × Json)} {name : String} {value : Json}
    (next : nextMember isFirst text =
      .ok (some (name.toList.flatMap escapedChar ++ '"' :: ':' :: front)))
    (read : readValue fuel depth front = .ok (value, rest)) :
    readMembers (fuel + 1) depth isFirst before text =
      readMembers fuel depth false (insert name value before) rest := by
  simp [readMembers, next, readString_escaped, readColon_cons, read, bind, Except.bind]

theorem readItems_end {before : List Json} (blank : IsBlankText blanks) :
    readItems (fuel + 1) depth isFirst before (blanks ++ ']' :: rest) =
      .ok (before.reverse, rest) := by
  rw [readItems, nextItem_end blank]
  simp only [dropBlanks_append blank, dropBlanks_cons (show isBlank ']' = false by decide)]
  rfl

theorem readMembers_end {before : List (String × Json)} (blank : IsBlankText blanks) :
    readMembers (fuel + 1) depth isFirst before (blanks ++ '\x7d' :: rest) =
      .ok (before, rest) := by
  rw [readMembers, nextMember_end blank]
  simp only [dropBlanks_append blank, dropBlanks_cons (show isBlank '\x7d' = false by decide)]
  rfl

theorem readValue_array {items : List Json}
    (read : readItems fuel depth true [] text = .ok (items, rest)) :
    readValue (fuel + 1) (depth + 1) ('[' :: text) = .ok (.array items, rest) := by
  rw [readValue, dropBlanks_cons (by decide)]
  simp [read, bind, Except.bind, pure, Except.pure]

theorem readValue_object {members : List (String × Json)}
    (read : readMembers fuel depth true [] text = .ok (members, rest)) :
    readValue (fuel + 1) (depth + 1) ('\x7b' :: text) = .ok (.object members, rest) := by
  rw [readValue, dropBlanks_cons (by decide)]
  simp [read, bind, Except.bind, pure, Except.pure]

theorem readValue_digits {number : Number} {later : List Char} (digit : c.isDigit = true)
    (read : readNumber false (c :: later) = .ok (number, rest)) :
    readValue (fuel + 1) depth (c :: later) = .ok (.number number, rest) := by
  have other {letter : Char} (notDigit : letter.isDigit = false) : c ≠ letter := by
    rintro rfl
    rw [digit] at notDigit
    cases notDigit
  rw [readValue, dropBlanks_cons (not_isBlank_of_isDigit digit)]
  split
  · rename_i nothing
    cases nothing
  · rename_i same
    exact absurd (List.cons.inj same).1 (other rfl)
  · rename_i same
    exact absurd (List.cons.inj same).1 (other rfl)
  · rename_i same
    exact absurd (List.cons.inj same).1 (other rfl)
  · rename_i same
    exact absurd (List.cons.inj same).1 (other rfl)
  · rename_i same
    exact absurd (List.cons.inj same).1 (other rfl)
  · rename_i same
    exact absurd (List.cons.inj same).1 (other rfl)
  · rename_i same
    exact absurd (List.cons.inj same).1 (other rfl)
  · rename_i same
    obtain ⟨rfl, rfl⟩ := List.cons.inj same
    simp [digit, read, bind, Except.bind, pure, Except.pure]

end

/-! ## Values -/

namespace Layout

/-- A value is read back from a layout, at any depth of it: with enough fuel, and
wherever it ends. -/
def ReadsBack (layout : Layout) (allowed : Nat) (value : Json) : Prop :=
  ∀ depth fuel rest, (layout.chars depth value).length ≤ fuel → EndsNumber rest →
    readValue fuel allowed (layout.chars depth value ++ rest) = .ok (value.sorted, rest)

section

variable {layout : Layout} {depth allowed fuel : Nat} {blanks rest : List Char}

/-- A value begins with a character that is neither a blank nor the end of
anything. -/
theorem head_chars {value : Json} (fits : Fits allowed value) :
    ∃ c later, layout.chars depth value = c :: later ∧
      isBlank c = false ∧ c ≠ ']' ∧ c ≠ ',' := by
  cases fits with
  | null => exact ⟨_, _, rfl, by decide, by decide, by decide⟩
  | @bool _ value =>
      cases value with
      | false => exact ⟨_, _, rfl, by decide, by decide, by decide⟩
      | true => exact ⟨_, _, rfl, by decide, by decide, by decide⟩
  | @natural _ n bounded =>
      have allDigits := @isDigit_toDigits n
      rw [chars, Number.chars, Nat.toList_repr]
      cases digits : Nat.toDigits 10 n with
      | nil => exact absurd digits Nat.toDigits_ne_nil
      | cons c later =>
          rw [digits] at allDigits
          have digit := allDigits c List.mem_cons_self
          refine ⟨c, later, rfl, not_isBlank_of_isDigit digit, ?_, ?_⟩
          · rintro rfl
            cases digit
          · rintro rfl
            cases digit
  | negative positive bounded => exact ⟨_, _, rfl, by decide, by decide, by decide⟩
  | string => exact ⟨_, _, rfl, by decide, by decide, by decide⟩
  | @array _ items fits =>
      cases items with
      | nil => exact ⟨_, _, rfl, by decide, by decide, by decide⟩
      | cons item later => exact ⟨_, _, rfl, by decide, by decide, by decide⟩
  | @object _ members fits =>
      cases members with
      | nil => exact ⟨_, _, rfl, by decide, by decide, by decide⟩
      | cons member later => exact ⟨_, _, rfl, by decide, by decide, by decide⟩

theorem endsNumber_laterItems {items : List Json} (blank : IsBlankText blanks) :
    EndsNumber (layout.laterItems depth items ++ (blanks ++ ']' :: rest)) := by
  have ends : EndsValue (']' :: rest) := Or.inr (Or.inl rfl)
  cases items with
  | nil =>
      rw [laterItems, List.nil_append]
      exact endsNumber_blanks blank ends.endsNumber
  | cons item later => exact EndsValue.endsNumber (Or.inl rfl)

theorem endsNumber_laterMembers {members : List (String × Json)} (blank : IsBlankText blanks) :
    EndsNumber (layout.laterMembers depth members ++ (blanks ++ '\x7d' :: rest)) := by
  have ends : EndsValue ('\x7d' :: rest) := Or.inr (Or.inr rfl)
  cases members with
  | nil =>
      rw [laterMembers, List.nil_append]
      exact endsNumber_blanks blank ends.endsNumber
  | cons member later => exact EndsValue.endsNumber (Or.inl rfl)

theorem readItems_laterItems {items before : List Json}
    (fits : ∀ item ∈ items, Fits allowed item)
    (readsBack : ∀ item ∈ items, layout.ReadsBack allowed item)
    (blank : IsBlankText blanks)
    (enough : (layout.laterItems depth items).length < fuel) :
    readItems fuel allowed false before
        (layout.laterItems depth items ++ (blanks ++ ']' :: rest)) =
      .ok (before.reverse ++ sortedItems items, rest) := by
  induction items generalizing fuel before with
  | nil =>
      obtain ⟨fuel, rfl⟩ := Nat.exists_eq_add_one_of_ne_zero (Nat.ne_zero_of_lt enough)
      rw [laterItems, List.nil_append, readItems_end blank, sortedItems, List.append_nil]
  | cons item later induction =>
      obtain ⟨fuel, rfl⟩ := Nat.exists_eq_add_one_of_ne_zero (Nat.ne_zero_of_lt enough)
      obtain ⟨c, others, first, visible, noBracket, _⟩ :=
        @head_chars layout depth _ _ (fits item List.mem_cons_self)
      have next : nextItem false
          (layout.laterItems depth (item :: later) ++ (blanks ++ ']' :: rest)) =
          .ok (some (layout.chars depth item ++
            (layout.laterItems depth later ++ (blanks ++ ']' :: rest)))) := by
        rw [laterItems, first]
        simpa using nextItem_later (layout.gap_blank depth) visible noBracket
      simp only [laterItems, List.cons_append, List.length_cons, List.length_append]
        at enough
      rw [readItems_item next (readsBack item List.mem_cons_self depth fuel _ (by omega)
        (endsNumber_laterItems blank))]
      rw [induction (fun other member => fits other (List.mem_cons_of_mem item member))
        (fun other member => readsBack other (List.mem_cons_of_mem item member)) (by omega)]
      simp [sortedItems]

theorem readMembers_laterMembers {members before : List (String × Json)}
    (readsBack : ∀ member ∈ members, layout.ReadsBack allowed member.2)
    (blank : IsBlankText blanks)
    (enough : (layout.laterMembers depth members).length < fuel) :
    readMembers fuel allowed false before
        (layout.laterMembers depth members ++ (blanks ++ '\x7d' :: rest)) =
      .ok ((sortedMembers members).foldl (fun sorted (name, value) =>
        insert name value sorted) before, rest) := by
  induction members generalizing fuel before with
  | nil =>
      obtain ⟨fuel, rfl⟩ := Nat.exists_eq_add_one_of_ne_zero (Nat.ne_zero_of_lt enough)
      rw [laterMembers, List.nil_append, readMembers_end blank]
      rfl
  | cons member later induction =>
      obtain ⟨fuel, rfl⟩ := Nat.exists_eq_add_one_of_ne_zero (Nat.ne_zero_of_lt enough)
      obtain ⟨name, value⟩ := member
      have next : nextMember false
          (layout.laterMembers depth ((name, value) :: later) ++ (blanks ++ '\x7d' :: rest)) =
          .ok (some (name.toList.flatMap escapedChar ++
            '"' :: ':' :: (layout.space ++ (layout.chars depth value ++
              (layout.laterMembers depth later ++ (blanks ++ '\x7d' :: rest)))))) := by
        simpa [laterMembers, stringChars] using nextMember_later (layout.gap_blank depth)
      simp only [laterMembers, List.cons_append, List.length_cons, List.length_append]
        at enough
      have valueReadsBack : layout.ReadsBack allowed value :=
        readsBack (name, value) List.mem_cons_self
      have read := valueReadsBack depth fuel _ (by omega)
        (@endsNumber_laterMembers layout depth blanks rest later blank)
      rw [← readValue_blanks layout.space_blank (by omega)] at read
      rw [readMembers_member next read]
      rw [induction (fun other member => readsBack other (List.mem_cons_of_mem _ member))
        (by omega)]
      rfl

theorem readItems_first {item : Json} {later : List Json}
    (fits : ∀ other ∈ item :: later, Fits allowed other)
    (readsBack : ∀ other ∈ item :: later, layout.ReadsBack allowed other)
    (blank : IsBlankText blanks)
    (enough : (layout.chars depth item ++ layout.laterItems depth later).length < fuel) :
    readItems fuel allowed true [] (layout.gap depth ++ (layout.chars depth item ++
        (layout.laterItems depth later ++ (blanks ++ ']' :: rest)))) =
      .ok (sortedItems (item :: later), rest) := by
  obtain ⟨fuel, rfl⟩ := Nat.exists_eq_add_one_of_ne_zero (Nat.ne_zero_of_lt enough)
  obtain ⟨c, others, first, visible, noBracket, noComma⟩ :=
    @head_chars layout depth _ _ (fits item List.mem_cons_self)
  have someChars : 0 < (layout.chars depth item).length := by simp [first]
  rw [List.length_append] at enough
  have next : nextItem true (layout.gap depth ++ (layout.chars depth item ++
      (layout.laterItems depth later ++ (blanks ++ ']' :: rest)))) =
      .ok (some (layout.chars depth item ++
        (layout.laterItems depth later ++ (blanks ++ ']' :: rest)))) := by
    rw [first]
    exact nextItem_first (layout.gap_blank depth) visible noBracket noComma
  rw [readItems_item next (readsBack item List.mem_cons_self depth fuel _ (by omega)
    (endsNumber_laterItems blank))]
  rw [readItems_laterItems (fun other member => fits other (List.mem_cons_of_mem item member))
    (fun other member => readsBack other (List.mem_cons_of_mem item member)) blank (by omega)]
  rfl

theorem readMembers_first {name : String} {value : Json} {later : List (String × Json)}
    (readsBack : ∀ member ∈ (name, value) :: later, layout.ReadsBack allowed member.2)
    (blank : IsBlankText blanks)
    (enough : (layout.chars depth value ++ layout.laterMembers depth later).length + 1 < fuel) :
    readMembers fuel allowed true [] (layout.gap depth ++ (stringChars name ++
        ':' :: (layout.space ++ (layout.chars depth value ++
          (layout.laterMembers depth later ++ (blanks ++ '\x7d' :: rest)))))) =
      .ok ((sortedMembers ((name, value) :: later)).foldl (fun sorted (name, value) =>
        insert name value sorted) [], rest) := by
  obtain ⟨fuel, rfl⟩ := Nat.exists_eq_add_one_of_ne_zero (Nat.ne_zero_of_lt enough)
  have next : nextMember true (layout.gap depth ++ (stringChars name ++
      ':' :: (layout.space ++ (layout.chars depth value ++
        (layout.laterMembers depth later ++ (blanks ++ '\x7d' :: rest)))))) =
      .ok (some (name.toList.flatMap escapedChar ++
        '"' :: ':' :: (layout.space ++ (layout.chars depth value ++
          (layout.laterMembers depth later ++ (blanks ++ '\x7d' :: rest)))))) := by
    simpa [stringChars] using nextMember_first (layout.gap_blank depth)
  rw [List.length_append] at enough
  have valueReadsBack : layout.ReadsBack allowed value :=
    readsBack (name, value) List.mem_cons_self
  have read := valueReadsBack depth fuel _ (by omega)
    (@endsNumber_laterMembers layout depth blanks rest later blank)
  rw [← readValue_blanks layout.space_blank (by omega)] at read
  rw [readMembers_member next read]
  rw [readMembers_laterMembers
    (fun other member => readsBack other (List.mem_cons_of_mem _ member)) blank (by omega)]
  rfl

theorem readsBack_number {number : Number} (fits : Fits allowed (.number number)) :
    layout.ReadsBack allowed (.number number) := by
  intro depth fuel rest enough ends
  cases fits with
  | @natural _ n bounded =>
      have read := @readNumber_repr rest n false bounded ends
      have allDigits := @isDigit_toDigits n
      rw [chars, Number.chars] at enough ⊢
      rw [Nat.toList_repr] at enough read ⊢
      cases digits : Nat.toDigits 10 n with
      | nil => exact absurd digits Nat.toDigits_ne_nil
      | cons c later =>
          rw [digits] at allDigits read enough
          obtain ⟨fuel, rfl⟩ := Nat.exists_eq_add_one_of_ne_zero (Nat.ne_zero_of_lt enough)
          exact readValue_digits (allDigits c List.mem_cons_self) read
  | @negative _ n positive bounded =>
      have exact : n ≤ greatestNatural := Nat.le_trans bounded (by decide)
      have whole : wholeNumber true n = .negative n := by
        simp [wholeNumber, Nat.ne_of_gt positive, Nat.not_lt.mpr bounded]
      have read := @readNumber_repr rest n true exact ends
      rw [whole] at read
      rw [chars, Number.chars] at enough ⊢
      obtain ⟨fuel, rfl⟩ := Nat.exists_eq_add_one_of_ne_zero (Nat.ne_zero_of_lt enough)
      rw [List.cons_append, readValue, dropBlanks_cons (by decide)]
      simp only [read, bind, Except.bind, pure, Except.pure, sorted]

theorem readsBack_array {items : List Json} (fits : ∀ item ∈ items, Fits allowed item)
    (readsBack : ∀ item ∈ items, layout.ReadsBack allowed item) :
    layout.ReadsBack (allowed + 1) (.array items) := by
  intro depth fuel rest enough _
  cases items with
  | nil =>
      obtain ⟨fuel, rfl⟩ := Nat.exists_eq_add_of_le' (show 2 ≤ fuel from enough)
      exact readValue_array (@readItems_end fuel allowed [] rest true [] (List.forall_mem_nil _))
  | cons item later =>
      simp only [chars, List.cons_append, List.length_cons, List.length_append] at enough
      obtain ⟨fuel, rfl⟩ : ∃ less, fuel = less + 1 :=
        Nat.exists_eq_add_one_of_ne_zero (by omega)
      have read := @readItems_first layout (depth + 1) allowed fuel (layout.gap depth) rest
        item later fits readsBack (layout.gap_blank depth) (by rw [List.length_append]; omega)
      simpa [chars, sorted] using readValue_array read

theorem readsBack_object {members : List (String × Json)}
    (readsBack : ∀ member ∈ members, layout.ReadsBack allowed member.2) :
    layout.ReadsBack (allowed + 1) (.object members) := by
  intro depth fuel rest enough _
  cases members with
  | nil =>
      obtain ⟨fuel, rfl⟩ := Nat.exists_eq_add_of_le' (show 2 ≤ fuel from enough)
      exact readValue_object
        (@readMembers_end fuel allowed [] rest true [] (List.forall_mem_nil _))
  | cons member later =>
      obtain ⟨name, value⟩ := member
      simp only [chars, List.cons_append, List.length_cons, List.length_append] at enough
      obtain ⟨fuel, rfl⟩ : ∃ less, fuel = less + 1 :=
        Nat.exists_eq_add_one_of_ne_zero (by omega)
      have read := @readMembers_first layout (depth + 1) allowed fuel (layout.gap depth) rest
        name value later readsBack (layout.gap_blank depth) (by rw [List.length_append]; omega)
      simpa [chars, sorted, ofMembers] using readValue_object read

/-- A value that fits is read back from every layout. -/
theorem readsBack_of_fits {value : Json} (fits : Fits allowed value) :
    layout.ReadsBack allowed value := by
  induction fits with
  | null =>
      intro depth fuel rest enough _
      obtain ⟨fuel, rfl⟩ := Nat.exists_eq_add_one_of_ne_zero (Nat.ne_zero_of_lt enough)
      rfl
  | @bool _ value =>
      intro depth fuel rest enough _
      cases value with
      | false =>
          obtain ⟨fuel, rfl⟩ := Nat.exists_eq_add_one_of_ne_zero (Nat.ne_zero_of_lt enough)
          rfl
      | true =>
          obtain ⟨fuel, rfl⟩ := Nat.exists_eq_add_one_of_ne_zero (Nat.ne_zero_of_lt enough)
          rfl
  | natural bounded => exact readsBack_number (.natural bounded)
  | negative positive bounded => exact readsBack_number (.negative positive bounded)
  | @string _ text =>
      intro depth fuel rest enough _
      rw [chars, stringChars] at enough ⊢
      obtain ⟨fuel, rfl⟩ := Nat.exists_eq_add_one_of_ne_zero (Nat.ne_zero_of_lt enough)
      have read := @readString_escaped rest text
      rw [List.append_assoc, List.cons_append, readValue, dropBlanks_cons (by decide)]
      simp [read, bind, Except.bind, pure, Except.pure, sorted]
  | array fits induction => exact readsBack_array fits induction
  | object _ induction => exact readsBack_object induction

/-- The text of a value that fits is read as that value, its members sorted; blanks
behind it do not matter. -/
theorem read_chars {value : Json} (fits : Fits depthLimit value) (blank : IsBlankText blanks) :
    Json.read (layout.chars depth value ++ blanks) = .ok value.sorted := by
  have ends : EndsNumber blanks := by
    have nothing : EndsNumber [] := EndsValue.endsNumber trivial
    simpa using endsNumber_blanks blank nothing
  have ended : dropBlanks blanks = [] := by
    simpa [dropBlanks] using @dropBlanks_append blanks [] blank
  have readsBack : layout.ReadsBack depthLimit value := readsBack_of_fits fits
  have whole := readsBack depth (2 * (layout.chars depth value ++ blanks).length + 2) blanks
    (by rw [List.length_append]; omega) ends
  rw [Json.read, whole]
  simp [bind, Except.bind, finish, ended]

end

end Layout

end LinkVetting.Json
