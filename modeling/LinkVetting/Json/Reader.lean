import LinkVetting.Json.Fault

/-!
# Reading JSON

Every reader takes the text that is left and answers a value with the text after it, or the first
fault. Arrays and objects may be nested `depthLimit` deep; what is skipped may be nested deeper.

Fractions are read in two rounded steps: the digits become the nearest binary value, which is then
multiplied or divided by a power of ten.
-/

namespace LinkVetting.Json

/-- A fault right before the rest of the text. -/
def failAt {α : Type} (kind : FaultKind) (rest : List Char) : Except Fault α :=
  .error { kind, rest }

/-- A fault after the first byte of the rest, if there is one. -/
def failAfter {α : Type} (kind : FaultKind) (rest : List Char) : Except Fault α :=
  .error { kind, rest, ahead := 1 }

/-- How deep arrays and objects may be nested. -/
def depthLimit : Nat := 127

def isBlank (c : Char) : Bool := c == ' ' || c == '\n' || c == '\t' || c == '\r'

def dropBlanks (text : List Char) : List Char := text.dropWhile isBlank

/-! ## Strings -/

def hexValue? (c : Char) : Option Nat :=
  let code := c.toNat
  if 0x30 ≤ code && code ≤ 0x39 then some (code - 0x30)
  else if 0x41 ≤ code && code ≤ 0x46 then some (code - 0x37)
  else if 0x61 ≤ code && code ≤ 0x66 then some (code - 0x57)
  else none

def readHex (text : List Char) : Except Fault (Nat × List Char) :=
  match text with
  | a :: b :: c :: d :: rest =>
    match hexValue? a, hexValue? b, hexValue? c, hexValue? d with
    | some a, some b, some c, some d => .ok (((a * 16 + b) * 16 + c) * 16 + d, rest)
    | _, _, _, _ => .error { kind := .escapeInvalid, rest := text, ahead := 4 }
  | _ =>
    if Text.Utf8.size text ≥ 4 then .error { kind := .escapeInvalid, rest := text, ahead := 4 }
    else failAt .stringUnfinished []

def readLowSurrogate (high : Nat) : List Char → Except Fault (Char × List Char)
  | '\\' :: 'u' :: text => do
    let (low, rest) ← readHex text
    if low < 0xDC00 || 0xDFFF < low then failAt .loneSurrogate rest
    else return (Char.ofNat ((high - 0xD800) * 0x400 + (low - 0xDC00) + 0x10000), rest)
  | ['\\'] => failAt .stringUnfinished []
  | '\\' :: rest => failAfter .surrogateUnpaired rest
  | [] => failAt .stringUnfinished []
  | rest => failAfter .surrogateUnpaired rest

/-- Reads the code after a backslash and `u`. A character outside the first plane is written as a
pair of surrogates. -/
def readCode (text : List Char) : Except Fault (Char × List Char) := do
  let (code, rest) ← readHex text
  if 0xDC00 ≤ code && code ≤ 0xDFFF then failAt .loneSurrogate rest
  else if 0xD800 ≤ code && code ≤ 0xDBFF then readLowSurrogate code rest
  else return (Char.ofNat code, rest)

def readEscape : List Char → Except Fault (Char × List Char)
  | [] => failAt .stringUnfinished []
  | 'u' :: rest => readCode rest
  | '"' :: rest => .ok ('"', rest)
  | '\\' :: rest => .ok ('\\', rest)
  | '/' :: rest => .ok ('/', rest)
  | 'b' :: rest => .ok ('\x08', rest)
  | 'f' :: rest => .ok ('\x0c', rest)
  | 'n' :: rest => .ok ('\n', rest)
  | 'r' :: rest => .ok ('\r', rest)
  | 't' :: rest => .ok ('\t', rest)
  | rest => failAfter .escapeInvalid rest

theorem readHex_length {text rest : List Char} {code : Nat}
    (read : readHex text = .ok (code, rest)) : rest.length < text.length := by
  unfold readHex at read
  split at read
  · split at read
    · simp only [Except.ok.injEq, Prod.mk.injEq] at read
      obtain ⟨_, rfl⟩ := read
      simp only [List.length_cons]
      omega
    · simp at read
  · split at read <;> simp [failAt] at read

theorem readCode_length {text rest : List Char} {c : Char} (read : readCode text = .ok (c, rest)) :
    rest.length < text.length := by
  unfold readCode at read
  cases hex : readHex text with
  | error fault => simp [hex, bind, Except.bind] at read
  | ok answer =>
    obtain ⟨code, later⟩ := answer
    have shorter := readHex_length hex
    simp only [hex, bind, Except.bind] at read
    split at read
    · simp [failAt] at read
    · split at read
      · unfold readLowSurrogate at read
        split at read
        · rename_i inner
          cases second : readHex inner with
          | error fault => simp [second, bind, Except.bind] at read
          | ok answer =>
            obtain ⟨low, last⟩ := answer
            have := readHex_length second
            simp only [second, bind, Except.bind] at read
            split at read
            · simp [failAt] at read
            · simp only [pure, Except.pure, Except.ok.injEq, Prod.mk.injEq] at read
              obtain ⟨_, rfl⟩ := read
              simp only [List.length_cons] at shorter
              omega
        all_goals simp [failAt, failAfter] at read
      · simp only [pure, Except.pure, Except.ok.injEq, Prod.mk.injEq] at read
        obtain ⟨_, rfl⟩ := read
        exact shorter

theorem readEscape_length {text rest : List Char} {c : Char}
    (read : readEscape text = .ok (c, rest)) : rest.length < text.length := by
  unfold readEscape at read
  split at read
  · simp [failAt] at read
  · have := readCode_length read
    simp only [List.length_cons]
    omega
  all_goals
    first
      | (simp only [Except.ok.injEq, Prod.mk.injEq] at read
         obtain ⟨_, rfl⟩ := read
         simp)
      | simp [failAfter] at read

/-- Reads the rest of a string, its closing quote included. `read` holds the characters before,
last first. -/
def readStringFrom (read : List Char) (text : List Char) : Except Fault (List Char × List Char) :=
  match text with
  | [] => failAt .stringUnfinished []
  | '"' :: rest => .ok (read.reverse, rest)
  | '\\' :: later =>
    match escape : readEscape later with
    | .ok (c, rest) =>
      have := readEscape_length escape
      readStringFrom (c :: read) rest
    | .error fault => .error fault
  | c :: rest =>
    if c.toNat < 0x20 then failAfter .controlCharacter (c :: rest)
    else readStringFrom (c :: read) rest
termination_by text.length
decreasing_by
  · simp only [List.length_cons]
    omega
  · simp

/-- Reads a string whose opening quote has been read. -/
def readString (text : List Char) : Except Fault (List Char × List Char) := readStringFrom [] text

/-! ## Numbers -/

/-- The greatest natural number that is kept exactly. -/
def greatestNatural : Nat := Nat.pow 2 64 - 1

/-- The magnitude of the least negative number that is kept exactly. -/
def greatestNegative : Nat := Nat.pow 2 63

/-- The digits at the start of a text, and the text after them. -/
def splitDigits (text : List Char) : List Char × List Char :=
  (text.takeWhile Char.isDigit, text.dropWhile Char.isDigit)

/-- Adds digits to a number as long as the number is kept exactly; answers also the digits that
are left. -/
def accumulate (value : Nat) : List Char → Nat × List Char
  | [] => (value, [])
  | c :: later =>
    let next := value * 10 + (c.toNat - 0x30)
    if next > greatestNatural then (value, c :: later) else accumulate next later

/-- The value `significand * 10 ^ exponent`, rounded twice; absent when it is too large. -/
def scaled? (significand : Nat) (exponent : Int) : Option Decimal.Binary64 :=
  match Decimal.Binary64.ofNat? significand with
  | none => none
  | some value =>
    match exponent with
    | .ofNat power =>
      if value.isZero then some value
      else if power > 308 then none
      else (Decimal.Binary64.powerOfTen? power).bind value.times?
    | .negSucc below =>
      let power := below + 1
      let divide (value : Decimal.Binary64) (power : Nat) : Option Decimal.Binary64 :=
        (Decimal.Binary64.powerOfTen? power).bind value.dividedBy?
      if power ≤ 308 then divide value power
      else (divide value 308).bind fun value =>
        if value.isZero then some value
        else if power ≤ 616 then divide value (power - 308)
        else (divide value 308).bind fun value =>
          if value.isZero || power > 924 then some .zero else divide value (power - 616)

def fraction (negative : Bool) (significand : Nat) (exponent : Int) (rest : List Char) :
    Except Fault (Number × List Char) :=
  match scaled? significand exponent with
  | some value => .ok (.float (value.withSign negative), rest)
  | none => failAt .numberTooLarge rest

/-- The greatest exponent that is looked at. -/
def greatestExponent : Nat := Nat.pow 2 31 - 1

/-- Reads the exponent of a number, whose letter comes first in the text. -/
def readExponent (negative : Bool) (significand : Nat) (start : Int) (text : List Char) :
    Except Fault (Number × List Char) :=
  let unsigned := text.tail
  let (down, digits) := match unsigned with
    | '+' :: rest => (false, rest)
    | '-' :: rest => (true, rest)
    | rest => (false, rest)
  match digits with
  | [] => failAt .valueUnfinished []
  | c :: _ =>
    if !c.isDigit then failAfter .numberInvalid digits
    else
      let (written, rest) := splitDigits digits
      let magnitude := written.foldl (fun value c => value * 10 + (c.toNat - 0x30)) 0
      if magnitude > greatestExponent then
        if significand != 0 && !down then
          let kept := written.foldl (fun (value, count) c =>
            if value > greatestExponent then (value, count)
            else (value * 10 + (c.toNat - 0x30), count + 1)) (0, 0)
          failAt .numberTooLarge (digits.drop kept.2)
        else .ok (.float (Decimal.Binary64.zero.withSign negative), rest)
      else
        let exponent := if down then start - magnitude else start + magnitude
        fraction negative significand exponent rest

/-- Reads what may follow the digits of a fraction. -/
def readFractionEnd (negative : Bool) (significand : Nat) (exponent : Int) (text : List Char) :
    Except Fault (Number × List Char) :=
  match text with
  | 'e' :: _ | 'E' :: _ => readExponent negative significand exponent text
  | _ => fraction negative significand exponent text

/-- Reads the digits after a decimal point, which comes first in the text. -/
def readFraction (negative : Bool) (significand : Nat) (exponent : Int) (text : List Char) :
    Except Fault (Number × List Char) :=
  let (written, rest) := splitDigits text.tail
  if written.isEmpty then
    match rest with
    | [] => failAt .valueUnfinished []
    | _ => failAfter .numberInvalid rest
  else
    let (value, dropped) := accumulate significand written
    let kept := written.length - dropped.length
    if kept == 0 && dropped.isEmpty then failAfter .numberInvalid rest
    else readFractionEnd negative value (exponent - kept) rest

/-- The whole number with a given sign, unless it is one that only a fraction can hold. -/
def wholeNumber (negative : Bool) (magnitude : Nat) : Number :=
  if !negative then .natural magnitude
  else if magnitude == 0 || magnitude > greatestNegative then
    match Decimal.Binary64.ofNat? magnitude with
    | some value => .float (value.withSign true)
    | none => .float (Decimal.Binary64.zero.withSign true)
  else .negative magnitude

def readNumber (negative : Bool) (text : List Char) : Except Fault (Number × List Char) :=
  match text with
  | [] => failAt .valueUnfinished []
  | '0' :: rest =>
    match rest with
    | c :: _ =>
      if c.isDigit then failAfter .numberInvalid rest
      else if c == '.' then readFraction negative 0 0 rest
      else if c == 'e' || c == 'E' then readExponent negative 0 0 rest
      else .ok (wholeNumber negative 0, rest)
    | [] => .ok (wholeNumber negative 0, [])
  | c :: _ =>
    if !c.isDigit then failAfter .numberInvalid text
    else
      let (written, rest) := splitDigits text
      let (value, dropped) := accumulate 0 written
      match rest with
      | '.' :: _ => readFraction negative value dropped.length rest
      | 'e' :: _ | 'E' :: _ => readExponent negative value dropped.length rest
      | _ =>
        if dropped.isEmpty then .ok (wholeNumber negative value, rest)
        else fraction negative value dropped.length rest

/-! ## Values -/

/-- Reads the rest of a word such as `null`. -/
def readWord : List Char → List Char → Except Fault (List Char)
  | [], text => .ok text
  | _ :: _, [] => failAt .valueUnfinished []
  | expected :: word, c :: rest =>
    if c == expected then readWord word rest else failAfter .wordExpected (c :: rest)

def readColon (text : List Char) : Except Fault (List Char) :=
  match dropBlanks text with
  | ':' :: rest => .ok rest
  | [] => failAt .objectUnfinished []
  | rest => failAfter .colonExpected rest

/-- Reads up to the next item of an array; nothing is answered at its end. -/
def nextItem (isFirst : Bool) (text : List Char) : Except Fault (Option (List Char)) :=
  match dropBlanks text with
  | [] => failAt .arrayUnfinished []
  | ']' :: _ => .ok none
  | ',' :: rest =>
    if isFirst then .ok (some (',' :: rest))
    else match dropBlanks rest with
      | [] => failAt .valueUnfinished []
      | ']' :: rest => failAfter .trailingComma (']' :: rest)
      | rest => .ok (some rest)
  | rest => if isFirst then .ok (some rest) else failAfter .itemEndExpected rest

/-- Reads up to the opening quote of the next name in an object, and past it; nothing is answered at
the end of the object. -/
def nextMember (isFirst : Bool) (text : List Char) : Except Fault (Option (List Char)) :=
  match dropBlanks text with
  | [] => failAt .objectUnfinished []
  | '\x7d' :: _ => .ok none
  | ',' :: rest =>
    if isFirst then failAfter .nameNotString (',' :: rest)
    else match dropBlanks rest with
      | [] => failAt .valueUnfinished []
      | '\x7d' :: rest => failAfter .trailingComma ('\x7d' :: rest)
      | '"' :: rest => .ok (some rest)
      | rest => failAfter .nameNotString rest
  | rest =>
    if !isFirst then failAfter .memberEndExpected rest
    else match rest with
      | '"' :: rest => .ok (some rest)
      | rest => failAfter .nameNotString rest

mutual

/-- Reads a value. The fuel bounds the number of steps, `depth` how deep the value may go. -/
def readValue : (fuel depth : Nat) → List Char → Except Fault (Json × List Char)
  | 0, _, text => failAt .valueUnfinished text
  | fuel + 1, depth, text =>
    match dropBlanks text with
    | [] => failAt .valueUnfinished []
    | 'n' :: rest => do return (Json.null, ← readWord ['u', 'l', 'l'] rest)
    | 't' :: rest => do return (Json.bool true, ← readWord ['r', 'u', 'e'] rest)
    | 'f' :: rest => do return (Json.bool false, ← readWord ['a', 'l', 's', 'e'] rest)
    | '-' :: rest => do
      let (value, rest) ← readNumber true rest
      return (Json.number value, rest)
    | '"' :: rest => do
      let (value, rest) ← readString rest
      return (Json.string (String.ofList value), rest)
    | '[' :: rest =>
      match depth with
      | 0 => failAfter .tooDeep ('[' :: rest)
      | depth + 1 => do
        let (items, rest) ← readItems fuel depth true [] rest
        return (Json.array items, rest)
    | '\x7b' :: rest =>
      match depth with
      | 0 => failAfter .tooDeep ('\x7b' :: rest)
      | depth + 1 => do
        let (members, rest) ← readMembers fuel depth true [] rest
        return (Json.object members, rest)
    | c :: rest =>
      if c.isDigit then do
        let (value, rest) ← readNumber false (c :: rest)
        return (Json.number value, rest)
      else failAfter .valueExpected (c :: rest)

/-- Reads the items of an array up to its end; `items` are those before, last first. -/
def readItems : (fuel depth : Nat) → (isFirst : Bool) → List Json → List Char →
    Except Fault (List Json × List Char)
  | 0, _, _, _, text => failAt .arrayUnfinished text
  | fuel + 1, depth, isFirst, items, text => do
    match ← nextItem isFirst text with
    | none => return (items.reverse, (dropBlanks text).tail)
    | some rest =>
      let (item, rest) ← readValue fuel depth rest
      readItems fuel depth false (item :: items) rest

/-- Reads the members of an object up to its end; `members` are those before, sorted. -/
def readMembers : (fuel depth : Nat) → (isFirst : Bool) → List (String × Json) → List Char →
    Except Fault (List (String × Json) × List Char)
  | 0, _, _, _, text => failAt .objectUnfinished text
  | fuel + 1, depth, isFirst, members, text => do
    match ← nextMember isFirst text with
    | none => return (members, (dropBlanks text).tail)
    | some rest =>
      let (name, rest) ← readString rest
      let rest ← readColon rest
      let (value, rest) ← readValue fuel depth rest
      readMembers fuel depth false (insert (String.ofList name) value members) rest

end

/-! ## Skipping -/

/-- Skips the rest of a string, its closing quote included. -/
def skipString : (fuel : Nat) → List Char → Except Fault (List Char)
  | 0, text => failAt .stringUnfinished text
  | _ + 1, [] => failAt .stringUnfinished []
  | _ + 1, '"' :: rest => .ok rest
  | fuel + 1, '\\' :: later =>
    match later with
    | [] => failAt .stringUnfinished []
    | 'u' :: rest => do
      let (_, rest) ← readHex rest
      skipString fuel rest
    | c :: rest =>
      if ['"', '\\', '/', 'b', 'f', 'n', 'r', 't'].contains c then skipString fuel rest
      else failAfter .escapeInvalid (c :: rest)
  | fuel + 1, c :: rest =>
    if c.toNat < 0x20 then failAt .controlCharacter (c :: rest) else skipString fuel rest

/-- Skips the exponent of a number, whose letter comes first in the text. -/
def skipExponent (text : List Char) : Except Fault (List Char) :=
  let digits := match text.tail with
    | '+' :: rest => rest
    | '-' :: rest => rest
    | rest => rest
  match digits with
  | [] => failAt .numberInvalid []
  | c :: _ =>
    if c.isDigit then .ok (splitDigits digits).2 else failAfter .numberInvalid digits

/-- Skips what may follow the whole part of a number. -/
def skipNumberEnd (text : List Char) : Except Fault (List Char) :=
  match text with
  | '.' :: later =>
    let (written, rest) := splitDigits later
    if written.isEmpty then failAfter .numberInvalid rest
    else match rest with
      | 'e' :: _ | 'E' :: _ => skipExponent rest
      | _ => .ok rest
  | 'e' :: _ | 'E' :: _ => skipExponent text
  | _ => .ok text

def skipNumber (text : List Char) : Except Fault (List Char) :=
  match text with
  | [] => failAt .numberInvalid []
  | '0' :: rest =>
    match rest with
    | c :: _ => if c.isDigit then failAfter .numberInvalid rest else skipNumberEnd rest
    | [] => .ok []
  | c :: _ =>
    if c.isDigit then skipNumberEnd (splitDigits text).2 else failAfter .numberInvalid text

mutual

def skipValue : (fuel : Nat) → List Char → Except Fault (List Char)
  | 0, text => failAt .valueUnfinished text
  | fuel + 1, text =>
    match dropBlanks text with
    | [] => failAt .valueUnfinished []
    | 'n' :: rest => readWord ['u', 'l', 'l'] rest
    | 't' :: rest => readWord ['r', 'u', 'e'] rest
    | 'f' :: rest => readWord ['a', 'l', 's', 'e'] rest
    | '-' :: rest => skipNumber rest
    | '"' :: rest => skipString (rest.length + 1) rest
    | '[' :: rest =>
      match dropBlanks rest with
      | [] => failAt .arrayUnfinished []
      | ']' :: rest => .ok rest
      | rest => skipItems fuel rest
    | '\x7b' :: rest =>
      match dropBlanks rest with
      | [] => failAt .objectUnfinished []
      | '\x7d' :: rest => .ok rest
      | rest => skipMembers fuel rest
    | c :: rest =>
      if c.isDigit then skipNumber (c :: rest) else failAfter .valueExpected (c :: rest)

/-- Skips the rest of an array, which begins with an item. -/
def skipItems : (fuel : Nat) → List Char → Except Fault (List Char)
  | 0, text => failAt .arrayUnfinished text
  | fuel + 1, text => do
    let rest ← skipValue fuel text
    match dropBlanks rest with
    | [] => failAt .arrayUnfinished []
    | ',' :: rest => skipItems fuel rest
    | ']' :: rest => return rest
    | rest => failAfter .itemEndExpected rest

/-- Skips the rest of an object, which begins with a name. -/
def skipMembers : (fuel : Nat) → List Char → Except Fault (List Char)
  | 0, text => failAt .objectUnfinished text
  | fuel + 1, text =>
    match dropBlanks text with
    | [] => failAt .objectUnfinished []
    | '"' :: rest => do
      let rest ← skipString (rest.length + 1) rest
      let rest ← readColon rest
      let rest ← skipValue fuel rest
      match dropBlanks rest with
      | [] => failAt .objectUnfinished []
      | ',' :: rest => skipMembers fuel rest
      | '\x7d' :: rest => return rest
      | rest => failAfter .memberEndExpected rest
    | rest => failAfter .nameNotString rest

end

def finish {α : Type} (value : α) (text : List Char) : Except Fault α :=
  match dropBlanks text with
  | [] => .ok value
  | rest => failAfter .trailingCharacters rest

def read (text : List Char) : Except Fault Json := do
  let (value, rest) ← readValue (2 * text.length + 2) depthLimit text
  finish value rest

end LinkVetting.Json
