import LinkVetting.Yaml.Cursor
import LinkVetting.Yaml.Token

/-!
# Reading tags, anchors and directives

A tag names the type of a node. It is written in full between angle brackets, or as a handle and a
name; a directive at the start of a document says what the handle stands for. A byte of a tag may
be escaped by a percent sign and two hexadecimal digits.
-/

namespace LinkVetting.Yaml

def asciiBytes (text : List Char) : List UInt8 := Text.Utf8.encode text

/-! ## Names of tags -/

/-- Whether a character may stand in a tag; some may only in a tag written in full. -/
def isTagChar (isFull : Bool) (c : Char) : Bool :=
  isNameChar c || c == ';' || c == '/' || c == '?' || c == ':' || c == '@' || c == '&' ||
    c == '=' || c == '+' || c == '$' || c == '.' || c == '%' || c == '!' || c == '~' || c == '*' ||
    c == '\'' || c == '(' || c == ')' || (isFull && (c == ',' || c == '[' || c == ']'))

def readEscapedByte (construct : Construct) (start : Mark) (cursor : Cursor) :
    Except Fault (Nat × Cursor) :=
  if cursor.isAt '%' && cursor.holds 1 isHexDigit && cursor.holds 2 isHexDigit then
    .ok (digitsValue 16 ((cursor.rest.drop 1).take 2), cursor.skip 3)
  else cursor.fail .escapedByteInvalid construct start

/-- The number of bytes of a character with a given first byte. -/
def byteCount? (byte : Nat) : Option Nat :=
  if byte < 0x80 then some 1
  else if 0xC0 ≤ byte && byte < 0xE0 then some 2
  else if 0xE0 ≤ byte && byte < 0xF0 then some 3
  else if 0xF0 ≤ byte && byte < 0xF8 then some 4
  else none

def readTrailingBytes (construct : Construct) (start : Mark) :
    (count : Nat) → Cursor → Except Fault (List UInt8 × Cursor)
  | 0, cursor => .ok ([], cursor)
  | count + 1, cursor => do
    let (byte, after) ← readEscapedByte construct start cursor
    if 0x80 ≤ byte && byte < 0xC0 then
      let (bytes, after) ← readTrailingBytes construct start count after
      return (byte.toUInt8 :: bytes, after)
    else cursor.fail .trailingByteInvalid construct start

def readEscapedChar (construct : Construct) (start : Mark) (cursor : Cursor) :
    Except Fault (List UInt8 × Cursor) := do
  let (byte, after) ← readEscapedByte construct start cursor
  match byteCount? byte with
  | none => cursor.fail .leadingByteInvalid construct start
  | some count =>
    let (bytes, after) ← readTrailingBytes construct start (count - 1) after
    return (byte.toUInt8 :: bytes, after)

/-- Reads the characters of a tag; `fuel` bounds their number. -/
def readTagChars (isFull : Bool) (construct : Construct) (start : Mark) :
    (fuel : Nat) → Cursor → Except Fault (List UInt8 × Cursor)
  | 0, cursor => .ok ([], cursor)
  | fuel + 1, cursor =>
    match cursor.rest with
    | c :: _ =>
      if !isTagChar isFull c then .ok ([], cursor)
      else do
        let (bytes, cursor) ←
          if c == '%' then readEscapedChar construct start cursor
          else pure (asciiBytes [c], cursor.skip 1)
        let (later, cursor) ← readTagChars isFull construct start fuel cursor
        return (bytes ++ later, cursor)
    | [] => .ok ([], cursor)

/-- Reads the name of a tag after something that belongs to it and may be all of it. A zero byte
ends the name. -/
def readTagName (isFull : Bool) (construct : Construct) (start : Mark) (begun : Option (List UInt8))
    (cursor : Cursor) : Except Fault (List UInt8 × Cursor) := do
  let (bytes, after) ← readTagChars isFull construct start cursor.rest.length cursor
  if begun.isNone && after.mark.index == cursor.mark.index then
    after.fail .tagMissing construct start
  else return ((begun.getD [] ++ bytes).takeWhile (· != 0), after)

/-- The byte with which handles begin and end. -/
def exclamation : UInt8 := 0x21

def readTag (inFlow : Bool) (cursor : Cursor) : Except Fault (WrittenTag × Cursor) := do
  let start := cursor.mark
  let (tag, cursor) ←
    if cursor.holds 1 (· == '<') then
      let (name, cursor) ← readTagName true .tagText start none (cursor.skip 2)
      if cursor.isAt '>' then pure ({ handle := [], name : WrittenTag }, cursor.skip 1)
      else cursor.fail .tagNotEnded .tag start
    else
      let (letters, after) := (cursor.skip 1).span isNameChar
      if after.isAt '!' then
        let (name, cursor) ← readTagName false .tagText start none (after.skip 1)
        pure ({ handle := asciiBytes ('!' :: letters ++ ['!']), name }, cursor)
      else
        let (name, cursor) ← readTagName false .tagText start (some (asciiBytes letters)) after
        pure (if name.isEmpty then { handle := [], name := [exclamation] }
          else { handle := [exclamation], name }, cursor)
  if (inFlow && cursor.isAt ',') || cursor.isParted 0 then return (tag, cursor)
  else cursor.fail .tagNotParted .tag start

/-! ## Anchors -/

/-- Whether a character may come right after the name of an anchor. -/
def endsAnchor (c : Char) : Bool :=
  c == '?' || c == ':' || c == ',' || c == ']' || c == '\x7d' || c == '%' || c == '@' || c == '`'

/-- Reads the name of an anchor after its mark. -/
def readAnchorName (construct : Construct) (cursor : Cursor) :
    Except Fault (List Char × Cursor) :=
  let (name, after) := (cursor.skip 1).span isNameChar
  if name.isEmpty || !(after.isParted 0 || after.holds 0 endsAnchor) then
    after.fail .anchorNameInvalid construct cursor.mark
  else .ok (name, after)

/-! ## Directives -/

/-- The greatest number of digits of a part of a version. -/
def longestVersion : Nat := 9

def readVersionPart (start : Mark) (cursor : Cursor) : Except Fault (Nat × Cursor) :=
  let (digits, after) := cursor.span Char.isDigit
  if digits.length > longestVersion then
    (cursor.skip longestVersion).fail .versionTooLong .versionDirective start
  else if digits.isEmpty then after.fail .versionMissing .versionDirective start
  else .ok (digitsValue 10 digits, after)

def readVersion (start : Mark) (cursor : Cursor) : Except Fault (TokenKind × Cursor) := do
  let (major, cursor) ← readVersionPart start cursor.skipBlanks
  if cursor.isAt '.' then
    let (minor, cursor) ← readVersionPart start (cursor.skip 1)
    return (.version major minor, cursor)
  else cursor.fail .versionNotParted .versionDirective start

def readHandle (start : Mark) (cursor : Cursor) : Except Fault (List UInt8 × Cursor) :=
  if cursor.isAt '!' then
    let (letters, after) := (cursor.skip 1).span isNameChar
    if after.isAt '!' then .ok (asciiBytes ('!' :: letters ++ ['!']), after.skip 1)
    else if letters.isEmpty then .ok ([exclamation], after)
    else after.fail .handleNotBegun .endOfHandleInDirective start
  else cursor.fail .handleNotBegun .handleInDirective start

def readHandleDirective (start : Mark) (cursor : Cursor) : Except Fault (TokenKind × Cursor) := do
  let (handle, cursor) ← readHandle start cursor.skipBlanks
  if !cursor.holds 0 isBlank then cursor.fail .handleNotParted .handleDirective start
  else
    let (text, cursor) ← readTagName true .replacementInDirective start none cursor.skipBlanks
    if cursor.isParted 0 then return (.handle handle text, cursor)
    else cursor.fail .tagNotParted .handleDirective start

/-- Reads a directive with the end of its line. -/
def readDirective (cursor : Cursor) : Except Fault (TokenKind × Cursor) := do
  let start := cursor.mark
  let (name, cursor) := (cursor.skip 1).span isNameChar
  if name.isEmpty then cursor.fail .directiveNameMissing .directive start
  else if !cursor.isParted 0 then cursor.fail .directiveNameInvalid .directive start
  else
    let (kind, cursor) ←
      if name == ['Y', 'A', 'M', 'L'] then readVersion start cursor
      else if name == ['T', 'A', 'G'] then readHandleDirective start cursor
      else cursor.fail .directiveUnknown .directive start
    let cursor := cursor.skipBlanks.skipComment
    if cursor.isLineEnd then return (kind, cursor.readBreak.2)
    else cursor.fail .lineNotEnded .directive start

end LinkVetting.Yaml
