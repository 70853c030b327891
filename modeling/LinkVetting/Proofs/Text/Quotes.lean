import LinkVetting.Json.Reader
import LinkVetting.Text.Quoted

/-!
# Quoted text is read back

A reader of quoted text undoes the escapes, and it accepts a text only if the first
quote that no backslash escapes is its end.  What is quoted is read back by it, so no two
texts have the same quoted form.  Everything in this form is printable, which no control
and no line break is.
-/

namespace LinkVetting.Text

/-! ## The reader -/

/-- The character that a sign behind a backslash stands for. -/
def shortEscape? : Char → Option Char
  | '0' => some '\x00'
  | 't' => some '\t'
  | 'r' => some '\r'
  | 'n' => some '\n'
  | '\\' => some '\\'
  | '"' => some '"'
  | _ => none

/-- What has been read of the next character. -/
inductive Unread where
  | nothing
  | backslash
  /-- A backslash and the letter of an escape by code. -/
  | letter
  /-- An escape by code up to some of its digits, which have a value. -/
  | digits (value : Nat)

/-- Reads quoted text behind its opening quote.  Nothing may follow the closing one. -/
def unquoteFrom : Unread → List Char → Option (List Char)
  | _, [] => none
  | .nothing, c :: rest =>
    if c = '"' then if rest.isEmpty then some [] else none
    else if c = '\\' then unquoteFrom .backslash rest
    else (unquoteFrom .nothing rest).map (c :: ·)
  | .backslash, c :: rest =>
    if c = 'u' then unquoteFrom .letter rest
    else match shortEscape? c with
      | some escaped => (unquoteFrom .nothing rest).map (escaped :: ·)
      | none => none
  | .letter, c :: rest => if c = '\x7b' then unquoteFrom (.digits 0) rest else none
  | .digits value, c :: rest =>
    if c = '\x7d' then (unquoteFrom .nothing rest).map (Char.ofNat value :: ·)
    else match Json.hexValue? c with
      | some digit => unquoteFrom (.digits (16 * value + digit)) rest
      | none => none

/-- The text that a quoted text shows. -/
def unquote? : List Char → Option (List Char)
  | [] => none
  | c :: rest => if c = '"' then unquoteFrom .nothing rest else none

/-- The places of the double quotes that no backslash escapes; the text begins at the given
place. -/
def bareQuotes (place : Nat) : List Char → List Nat
  | [] => []
  | [c] => if c = '"' then [place] else []
  | c :: next :: rest =>
    if c = '\\' then bareQuotes (place + 2) rest
    else if c = '"' then place :: bareQuotes (place + 1) (next :: rest)
    else bareQuotes (place + 1) (next :: rest)

/-! ## Hexadecimal digits -/

theorem exists_hexDigits (n : Nat) : ∃ digits : List Nat,
    hexDigits n = digits.map Nat.digitChar ∧ (∀ digit ∈ digits, digit < 16) ∧
      digits.foldl (fun value digit => 16 * value + digit) 0 = n := by
  induction n using Nat.strongRecOn with
  | ind n induction =>
      by_cases small : n < 16
      · refine ⟨[n], Nat.toDigits_of_lt_base small, ?_, ?_⟩
        · simpa using small
        · simp
      · obtain ⟨digits, spelled, bounded, value⟩ := induction (n / 16) (by omega)
        refine ⟨digits ++ [n % 16], ?_, ?_, ?_⟩
        · rw [hexDigits] at spelled ⊢
          rw [Nat.toDigits_of_base_le (by omega) (by omega), spelled, List.map_append]
          rfl
        · intro digit member
          rcases List.mem_append.mp member with earlier | last
          · exact bounded digit earlier
          · rw [List.mem_singleton.mp last]
            omega
        · rw [List.foldl_append, value]
          simp only [List.foldl_cons, List.foldl_nil]
          omega

theorem hexValue?_digitChar : ∀ digit < 16, Json.hexValue? (Nat.digitChar digit) = some digit := by
  decide

theorem digitChar_ne_brace : ∀ digit < 16, Nat.digitChar digit ≠ '\x7d' := by decide

/-! ## One quoted character -/

/-- The forms in which a character is quoted. -/
inductive QuotedAs : Char → List Char → Prop where
  | short {c sign : Char} : shortEscape? sign = some c → QuotedAs c ['\\', sign]
  | code {c : Char} {digits : List Nat} : (∀ digit ∈ digits, digit < 16) →
      digits.foldl (fun value digit => 16 * value + digit) 0 = c.toNat →
      QuotedAs c ('\\' :: 'u' :: '\x7b' :: (digits.map Nat.digitChar ++ ['\x7d']))
  | itself {c : Char} : Unicode.isPrintable c.toNat = true → c ≠ '"' → c ≠ '\\' →
      QuotedAs c [c]

theorem quotedAs_quotedChar (c : Char) : QuotedAs c (quotedChar c) := by
  rw [quotedChar]
  split
  · rename_i zero
    rw [eq_of_beq zero]
    exact .short rfl
  split
  · rename_i tab
    rw [eq_of_beq tab]
    exact .short rfl
  split
  · rename_i carriage
    rw [eq_of_beq carriage]
    exact .short rfl
  split
  · rename_i line
    rw [eq_of_beq line]
    exact .short rfl
  split
  · rename_i backslash
    rw [eq_of_beq backslash]
    exact .short rfl
  split
  · rename_i quote
    rw [eq_of_beq quote]
    exact .short rfl
  split
  · obtain ⟨digits, spelled, bounded, value⟩ := exists_hexDigits c.toNat
    rw [spelled]
    exact .code bounded value
  · rename_i _ _ _ _ backslash quote visible
    refine .itself ?_ ?_ ?_
    · simp only [Bool.or_eq_true, Bool.not_eq_true', not_or] at visible
      simpa using visible.2
    · simpa using quote
    · simpa using backslash

theorem sign_of_shortEscape? {c sign : Char} (escape : shortEscape? sign = some c) :
    sign ∈ ['0', 't', 'r', 'n', '\\', '"'] := by
  rw [shortEscape?.eq_def] at escape
  split at escape <;> simp_all

section

variable {c : Char} {form rest : List Char} {place value : Nat} {digits : List Nat}

theorem unquoteFrom_digits (bounded : ∀ digit ∈ digits, digit < 16) :
    unquoteFrom (.digits value) (digits.map Nat.digitChar ++ rest) =
      unquoteFrom (.digits (digits.foldl (fun value digit => 16 * value + digit) value))
        rest := by
  induction digits generalizing value with
  | nil => rfl
  | cons digit digits induction =>
      have small := bounded digit List.mem_cons_self
      have later : ∀ digit ∈ digits, digit < 16 := fun digit member =>
        bounded digit (List.mem_cons_of_mem _ member)
      rw [List.map_cons, List.cons_append, unquoteFrom, if_neg (digitChar_ne_brace digit small),
        hexValue?_digitChar digit small]
      exact induction later

theorem QuotedAs.unquoteFrom (quoted : QuotedAs c form) :
    unquoteFrom .nothing (form ++ rest) = (unquoteFrom .nothing rest).map (c :: ·) := by
  cases quoted with
  | @short sign escape =>
      have notLetter : sign ≠ 'u' := by
        rintro rfl
        cases escape
      simp [Text.unquoteFrom, notLetter, escape]
  | code bounded value =>
      have opened (later : List Char) :
          Text.unquoteFrom .nothing ('\\' :: 'u' :: '\x7b' :: later) =
            Text.unquoteFrom (.digits 0) later := rfl
      rw [List.cons_append, List.cons_append, List.cons_append, opened, List.append_assoc,
        unquoteFrom_digits bounded, value, List.singleton_append, Text.unquoteFrom, if_pos rfl,
        Char.ofNat_toNat]
  | itself _ noQuote noBackslash =>
      rw [List.singleton_append, Text.unquoteFrom, if_neg noQuote, if_neg noBackslash]

/-- Characters that are neither quotes nor backslashes hold no quote and escape none. -/
theorem bareQuotes_plain {front : List Char}
    (plain : ∀ c ∈ front, c ≠ '"' ∧ c ≠ '\\') (someRest : rest ≠ []) :
    bareQuotes place (front ++ rest) = bareQuotes (place + front.length) rest := by
  induction front generalizing place with
  | nil => rfl
  | cons c front induction =>
      obtain ⟨noQuote, noBackslash⟩ := plain c List.mem_cons_self
      have later := @induction (place + 1) fun c member => plain c (List.mem_cons_of_mem _ member)
      obtain ⟨next, others, more⟩ : ∃ next others, front ++ rest = next :: others := by
        apply List.exists_cons_of_ne_nil
        simp [someRest]
      rw [List.cons_append, more, bareQuotes, if_neg noBackslash, if_neg noQuote, ← more, later,
        List.length_cons, Nat.add_assoc, Nat.add_comm 1]

theorem bareQuotes_escape {sign : Char} :
    bareQuotes place ('\\' :: sign :: rest) = bareQuotes (place + 2) rest := by
  rw [bareQuotes, if_pos rfl]

theorem digitChar_plain : ∀ digit < 16, Nat.digitChar digit ≠ '"' ∧ Nat.digitChar digit ≠ '\\' := by
  decide

theorem QuotedAs.bareQuotes (quoted : QuotedAs c form) (someRest : rest ≠ []) :
    bareQuotes place (form ++ rest) = bareQuotes (place + form.length) rest := by
  cases quoted with
  | short _ => exact bareQuotes_escape
  | @code digits bounded _ =>
      have plain : ∀ c ∈ '\x7b' :: (digits.map Nat.digitChar ++ ['\x7d']),
          c ≠ '"' ∧ c ≠ '\\' := by
        simp only [List.forall_mem_cons, List.forall_mem_append, List.forall_mem_map,
          List.not_mem_nil, false_implies, implies_true, and_true]
        exact ⟨by decide, fun digit member => digitChar_plain digit (bounded digit member),
          by decide⟩
      rw [List.cons_append, List.cons_append, bareQuotes_escape, bareQuotes_plain plain someRest]
      congr 1
      simp only [List.length_cons]
      omega
  | itself _ noQuote noBackslash =>
      apply bareQuotes_plain _ someRest
      intro other member
      rw [List.mem_singleton.mp member]
      exact ⟨noQuote, noBackslash⟩

theorem isPrintable_digitChar :
    ∀ digit < 16, Unicode.isPrintable (Nat.digitChar digit).toNat = true := by
  decide

theorem QuotedAs.isPrintable (quoted : QuotedAs c form) :
    ∀ shown ∈ form, Unicode.isPrintable shown.toNat = true := by
  cases quoted with
  | @short sign escape =>
      have printable : (['0', 't', 'r', 'n', '\\', '"'].all fun sign =>
          Unicode.isPrintable sign.toNat) = true := by
        decide
      simp only [List.forall_mem_cons, List.not_mem_nil, false_implies, implies_true, and_true]
      exact ⟨by decide, List.all_eq_true.mp printable sign (sign_of_shortEscape? escape)⟩
  | code bounded _ =>
      simp only [List.forall_mem_cons, List.forall_mem_append, List.forall_mem_map,
        List.not_mem_nil, false_implies, implies_true, and_true]
      refine ⟨by decide, by decide, by decide, fun digit member => ?_, by decide⟩
      exact isPrintable_digitChar digit (bounded digit member)
  | itself printable _ _ =>
      intro shown member
      rwa [List.mem_singleton.mp member]

end

/-! ## Quoted text -/

section

variable {text : List Char}

theorem unquoteFrom_quotedBody :
    unquoteFrom .nothing (quotedBody text ++ ['"']) = some text := by
  induction text with
  | nil => rfl
  | cons c text induction =>
      rw [quotedBody] at induction ⊢
      rw [List.flatMap_cons, List.append_assoc, (quotedAs_quotedChar c).unquoteFrom, induction]
      rfl

/-- A quoted text is read back. -/
theorem unquote?_quotedChars : unquote? (quotedChars text) = some text := by
  rw [quotedChars, List.cons_append, unquote?, if_pos rfl]
  exact unquoteFrom_quotedBody

theorem bareQuotes_quotedBody {place : Nat} :
    bareQuotes place (quotedBody text ++ ['"']) = [place + (quotedBody text).length] := by
  induction text generalizing place with
  | nil => rfl
  | cons c text induction =>
      rw [quotedBody] at induction ⊢
      rw [List.flatMap_cons, List.append_assoc,
        (quotedAs_quotedChar c).bareQuotes (by simp), induction, List.length_append,
        Nat.add_assoc]

/-- The quotes at both ends are the only bare ones. -/
theorem bareQuotes_quotedChars :
    bareQuotes 0 (quotedChars text) = [0, (quotedChars text).length - 1] := by
  obtain ⟨next, others, more⟩ : ∃ next others, quotedBody text ++ ['"'] = next :: others := by
    apply List.exists_cons_of_ne_nil
    simp
  have noBackslash : '"' ≠ '\\' := by decide
  rw [quotedChars, List.cons_append, more, bareQuotes, if_neg noBackslash, if_pos rfl, ← more,
    bareQuotes_quotedBody]
  simp [Nat.add_comm]

theorem isPrintable_of_mem_quotedChars {shown : Char} (member : shown ∈ quotedChars text) :
    Unicode.isPrintable shown.toNat = true := by
  rw [quotedChars, quotedBody, List.mem_append, List.mem_cons, List.mem_flatMap] at member
  rcases member with (rfl | ⟨c, _, inForm⟩) | last
  · decide
  · exact (quotedAs_quotedChar c).isPrintable shown inForm
  · rw [List.mem_singleton.mp last]
    decide

end

theorem visible_of_isPrintable {c : Char} (printable : Unicode.isPrintable c.toNat = true) :
    Unicode.control.mem c.toNat = false ∧ c ∉ ['\n', '\r', '\u2028', '\u2029'] := by
  constructor
  · rw [← Bool.not_eq_true]
    intro control
    have low : c.toNat < 0xA0 := by
      simp [Unicode.control, Unicode.Runs.mem] at control
      omega
    have unprintable : ∀ code < 0xA0, Unicode.control.mem code = true →
        Unicode.isPrintable code = false := by
      decide +kernel
    rw [unprintable c.toNat low control] at printable
    cases printable
  · intro lineBreak
    have checked : (['\n', '\r', '\u2028', '\u2029'].all fun c =>
        !Unicode.isPrintable c.toNat) = true := by
      decide +kernel
    have unprintable := List.all_eq_true.mp checked c lineBreak
    rw [printable] at unprintable
    cases unprintable

/-- A text is shown in quotes: on one line without controls, between the only two quotes
that are not escaped, and in a form that it can be read back from. -/
structure ShownInQuotes (text shown : String) : Prop where
  visible : ∀ c ∈ shown.toList,
    Unicode.control.mem c.toNat = false ∧ c ∉ ['\n', '\r', '\u2028', '\u2029']
  opens : shown.toList.head? = some '"'
  closes : shown.toList.getLast? = some '"'
  delimited : bareQuotes 0 shown.toList = [0, shown.toList.length - 1]
  readBack : unquote? shown.toList = some text.toList

theorem shownInQuotes_quoted {text : String} : ShownInQuotes text (quoted text) := by
  have chars : (quoted text).toList = quotedChars text.toList := String.toList_ofList
  constructor
  · intro c member
    rw [chars] at member
    exact visible_of_isPrintable (isPrintable_of_mem_quotedChars member)
  · rw [chars]
    rfl
  · rw [chars, quotedChars, List.getLast?_concat]
  · rw [chars]
    exact bareQuotes_quotedChars
  · rw [chars]
    exact unquote?_quotedChars

theorem ShownInQuotes.unique {text other shown : String} (first : ShownInQuotes text shown)
    (second : ShownInQuotes other shown) : other = text := by
  have same := second.readBack.symm.trans first.readBack
  exact String.toList_inj.mp (Option.some.inj same)

end LinkVetting.Text
