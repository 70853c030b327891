/-!
# UTF-8

A byte string is read as a list of characters and broken pieces. A piece is broken where no
well-formed character begins; it takes as many bytes as still could have begun one, and at least
one byte. Strict decoding refuses broken pieces, lenient decoding replaces each by U+FFFD.
-/

namespace LinkVetting.Text.Utf8

def encodeChar (c : Char) : List UInt8 :=
  let code := c.toNat
  if code < 0x80 then [code.toUInt8]
  else if code < 0x800 then [(0xC0 + code / 0x40).toUInt8, (0x80 + code % 0x40).toUInt8]
  else if code < 0x10000 then
    [(0xE0 + code / 0x1000).toUInt8, (0x80 + code / 0x40 % 0x40).toUInt8,
      (0x80 + code % 0x40).toUInt8]
  else
    [(0xF0 + code / 0x40000).toUInt8, (0x80 + code / 0x1000 % 0x40).toUInt8,
      (0x80 + code / 0x40 % 0x40).toUInt8, (0x80 + code % 0x40).toUInt8]

def encode (text : List Char) : List UInt8 := text.flatMap encodeChar

/-- The number of bytes of a text. -/
def size (text : List Char) : Nat := text.foldl (fun total c => total + (encodeChar c).length) 0

def isContinuation (byte : UInt8) : Bool := 0x80 ≤ byte && byte ≤ 0xBF

/-- Whether a byte may come second after a given first byte. The bounds leave out overlong forms,
surrogates and codes past the last character. -/
def isSecond (first second : UInt8) : Bool :=
  if first = 0xE0 then 0xA0 ≤ second && second ≤ 0xBF
  else if first = 0xED then 0x80 ≤ second && second ≤ 0x9F
  else if first = 0xF0 then 0x90 ≤ second && second ≤ 0xBF
  else if first = 0xF4 then 0x80 ≤ second && second ≤ 0x8F
  else isContinuation second

/-- The payload of a continuation byte. -/
def payload (byte : UInt8) : Nat := byte.toNat % 0x40

/-- Reads one character, or nothing for a broken piece, and what follows it. -/
def decodeFirst (first : UInt8) (rest : List UInt8) : Option Char × List UInt8 :=
  if first < 0x80 then (some (Char.ofNat first.toNat), rest)
  else if 0xC2 ≤ first && first ≤ 0xDF then
    match rest with
    | second :: rest =>
      if isContinuation second then
        (some (Char.ofNat (first.toNat % 0x20 * 0x40 + payload second)), rest)
      else (none, second :: rest)
    | [] => (none, [])
  else if 0xE0 ≤ first && first ≤ 0xEF then
    match rest with
    | second :: rest =>
      if isSecond first second then
        match rest with
        | third :: rest =>
          if isContinuation third then
            (some (Char.ofNat
              (first.toNat % 0x10 * 0x1000 + payload second * 0x40 + payload third)), rest)
          else (none, third :: rest)
        | [] => (none, [])
      else (none, second :: rest)
    | [] => (none, [])
  else if 0xF0 ≤ first && first ≤ 0xF4 then
    match rest with
    | second :: rest =>
      if isSecond first second then
        match rest with
        | third :: rest =>
          if isContinuation third then
            match rest with
            | fourth :: rest =>
              if isContinuation fourth then
                (some (Char.ofNat
                  (first.toNat % 0x08 * 0x40000 + payload second * 0x1000 +
                    payload third * 0x40 + payload fourth)), rest)
              else (none, fourth :: rest)
            | [] => (none, [])
          else (none, third :: rest)
        | [] => (none, [])
      else (none, second :: rest)
    | [] => (none, [])
  else (none, rest)

theorem decodeFirst_length_le (first : UInt8) (rest : List UInt8) :
    (decodeFirst first rest).2.length ≤ rest.length := by
  unfold decodeFirst
  repeat' split
  all_goals simp_all
  all_goals omega

/-- The characters and broken pieces of a byte string. -/
def pieces : List UInt8 → List (Option Char)
  | [] => []
  | first :: rest => (decodeFirst first rest).1 :: pieces (decodeFirst first rest).2
termination_by bytes => bytes.length
decreasing_by
  have := decodeFirst_length_le first rest
  simp only [List.length_cons]
  omega

/-- The text of a byte string without broken pieces. -/
def decode? (bytes : List UInt8) : Option (List Char) := (pieces bytes).mapM id

/-- The text of a byte string, with U+FFFD for every broken piece. -/
def decodeLossy (bytes : List UInt8) : List Char :=
  (pieces bytes).map fun piece => piece.getD '\ufffd'

@[simp]
theorem encode_nil : encode [] = [] := rfl

@[simp]
theorem encode_cons (c : Char) (text : List Char) :
    encode (c :: text) = encodeChar c ++ encode text := rfl

theorem encode_append (front back : List Char) :
    encode (front ++ back) = encode front ++ encode back := by
  simp [encode]

end LinkVetting.Text.Utf8
