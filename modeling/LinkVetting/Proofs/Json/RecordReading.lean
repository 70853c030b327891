import LinkVetting.Json.Decoder
import LinkVetting.Proofs.Json.RoundTrip

/-!
# Records are read back

A decoder of a record takes the members of an object one by one into a draft.  Where
each member is decoded and its field has not been given before, the compact form of the
object is read as the record of the last draft.
-/

namespace LinkVetting.Json

/-! ## Parts of records -/

section

variable {α : Type} {rest : List Char} {text : String} {value : α}

theorem decodeString_stringChars {expected : String} :
    decodeString expected (stringChars text ++ rest) = .ok (text.toList, rest) := by
  rw [stringChars, List.append_assoc, List.cons_append, decodeString,
    dropBlanks_cons (by decide)]
  exact readString_escaped

theorem decodeText_stringChars {expected : String} {read : List Char → Except String α}
    {chars : List Char} (reads : read chars = .ok value) :
    decodeText expected read (stringChars (String.ofList chars) ++ rest) =
      .ok (value, rest) := by
  rw [decodeText, decodeString_stringChars, String.toList_ofList]
  simp only [bind, Except.bind, reads]
  rfl

theorem decodeChoice_stringChars {choices : List (String × α)}
    (listed : choices.lookup text = some value) :
    decodeChoice choices (stringChars text ++ rest) = .ok (value, rest) := by
  rw [stringChars, List.append_assoc, List.cons_append, decodeChoice,
    dropBlanks_cons (by decide)]
  simp only [decodeName, readString_escaped, List.singleton_append, bind, Except.bind,
    String.ofList_toList, listed]
  rfl

/-- What is given for an option and does not begin like `null` is the value itself. -/
theorem decodeOption_some {decode : List Char → Except Fault (α × List Char)} {c : Char}
    {later : List Char} (visible : isBlank c = false) (other : c ≠ 'n')
    (decoded : decode (c :: later) = .ok (value, rest)) :
    decodeOption decode (c :: later) = .ok (some value, rest) := by
  rw [decodeOption, dropBlanks_cons visible]
  split
  · rename_i same
    exact absurd (List.cons.inj same).1 other
  · simp only [decoded, bind, Except.bind, pure, Except.pure]

end

namespace RecordKind

variable {δ ρ : Type} {kind : RecordKind δ ρ}

/-- The members of an object take a draft to another one: each is decoded by the field of
its name, which the draft before it does not hold. -/
inductive Takes (kind : RecordKind δ ρ) : δ → List (String × Json) → δ → Prop where
  | nil {draft : δ} : Takes kind draft [] draft
  | cons {draft next last : δ} {name : String} {value : Json}
      {later : List (String × Json)} {field : Field δ} :
      kind.fields.find? (·.name = name) = some field → field.isGiven draft = false →
        (∀ rest, EndsValue rest →
          field.decode draft (value.compactChars ++ rest) = .ok (next, rest)) →
          Takes kind next later last → Takes kind draft ((name, value) :: later) last

theorem Takes.append {draft next last : δ} {front back : List (String × Json)}
    (first : kind.Takes draft front next) (second : kind.Takes next back last) :
    kind.Takes draft (front ++ back) last := by
  induction first with
  | nil => exact second
  | cons named missing decodes _ induction =>
      exact .cons named missing decodes (induction second)

section

variable {fuel : Nat} {draft next last : δ} {rest : List Char} {members : List (String × Json)}

theorem decodeMembers_member {isFirst : Bool} {field : Field δ} {name : String}
    {text body : List Char}
    (reached : nextMember isFirst text =
      .ok (some (name.toList.flatMap escapedChar ++ '"' :: ':' :: (body ++ rest))))
    (named : kind.fields.find? (·.name = name) = some field)
    (missing : field.isGiven draft = false)
    (decoded : field.decode draft (body ++ rest) = .ok (next, rest)) :
    kind.decodeMembers (fuel + 1) isFirst draft text =
      kind.decodeMembers fuel false next rest := by
  rw [decodeMembers]
  simp only [reached, bind, Except.bind, readString_escaped, String.ofList_toList, named,
    missing, Bool.false_eq_true, if_false, readColon_cons, decoded]

theorem decodeMembers_end {isFirst : Bool} :
    kind.decodeMembers (fuel + 1) isFirst draft ('\x7d' :: rest) =
      .ok (draft, '\x7d' :: rest) := by
  have ended : nextMember isFirst ('\x7d' :: rest) = .ok none :=
    @nextMember_end [] rest isFirst (List.forall_mem_nil _)
  rw [decodeMembers, ended]
  simp only [bind, Except.bind, dropBlanks_cons (show isBlank '\x7d' = false by decide)]
  rfl

theorem decodeMembers_laterMembers (takes : kind.Takes draft members last)
    (enough : (laterMembers members).length < fuel) :
    kind.decodeMembers fuel false draft (laterMembers members ++ '\x7d' :: rest) =
      .ok (last, '\x7d' :: rest) := by
  induction takes generalizing fuel with
  | nil =>
      obtain ⟨fuel, rfl⟩ := Nat.exists_eq_add_one_of_ne_zero (Nat.ne_zero_of_lt enough)
      exact decodeMembers_end
  | @cons draft next last name value later field named missing decodes _ induction =>
      obtain ⟨fuel, rfl⟩ := Nat.exists_eq_add_one_of_ne_zero (Nat.ne_zero_of_lt enough)
      simp only [laterMembers, List.cons_append, List.length_cons, List.length_append] at enough
      rw [decodeMembers_member nextMember_laterMembers named missing
        (decodes _ endsValue_laterMembers), induction (by omega)]

theorem decodeMembers_compactMembers (takes : kind.Takes draft members last)
    (enough : (compactMembers members).length < fuel) :
    kind.decodeMembers fuel true draft (compactMembers members ++ '\x7d' :: rest) =
      .ok (last, '\x7d' :: rest) := by
  obtain ⟨fuel, rfl⟩ := Nat.exists_eq_add_one_of_ne_zero (Nat.ne_zero_of_lt enough)
  cases takes with
  | nil => exact decodeMembers_end
  | @cons _ next _ name value later field named missing decodes takes =>
      rw [compactMembers_cons] at enough
      simp only [List.length_append, List.length_cons] at enough
      rw [decodeMembers_member nextMember_compactMembers named missing
        (decodes _ endsValue_laterMembers), decodeMembers_laterMembers takes (by omega)]

/-- The compact form of an object is decoded as the record of the draft that its members
make. -/
theorem decode_compactChars {record : ρ} (takes : kind.Takes kind.blank members last)
    (completes : kind.complete last = .ok record) :
    kind.decode ((Json.object members).compactChars ++ rest) = .ok (record, rest) := by
  rw [compactChars, List.append_assoc, List.cons_append, List.singleton_append, decode,
    dropBlanks_cons (by decide)]
  have enough : (compactMembers members).length <
      (compactMembers members ++ '\x7d' :: rest).length + 1 := by
    rw [List.length_append]
    omega
  simp only [decodeMembers_compactMembers takes enough, bind, Except.bind, completes]
  rfl

end

end RecordKind

end LinkVetting.Json
