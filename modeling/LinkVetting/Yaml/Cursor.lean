import LinkVetting.Text.Utf8
import LinkVetting.Yaml.Fault

/-!
# Cursors

A cursor stands between two characters of a text and knows what is left of the text and where it
is. A line ends with a line feed, a carriage return, both, U+0085, U+2028 or U+2029.
-/

namespace LinkVetting.Yaml

/-! ## Kinds of characters -/

def isBreak (c : Char) : Bool :=
  c == '\n' || c == '\r' || c == '\u0085' || c == '\u2028' || c == '\u2029'

/-- Whether a character is a blank inside a line. -/
def isBlank (c : Char) : Bool := c == ' ' || c == '\t'

def isNameChar (c : Char) : Bool := c.isAlphanum || c == '_' || c == '-'

def isHexDigit (c : Char) : Bool :=
  c.isDigit || ('a' ≤ c && c ≤ 'f') || ('A' ≤ c && c ≤ 'F')

/-- The value of a hexadecimal digit. -/
def digitValue (c : Char) : Nat :=
  if c.isDigit then c.toNat - 0x30 else c.toLower.toNat - 0x57

/-- The value of digits in a given base. -/
def digitsValue (base : Nat) (digits : List Char) : Nat :=
  digits.foldl (fun value c => value * base + digitValue c) 0

def isAllowed (c : Char) : Bool :=
  let code := c.toNat
  c == '\t' || c == '\n' || c == '\r' || (0x20 ≤ code && code ≤ 0x7E) || code == 0x85 ||
    (0xA0 ≤ code && code ≤ 0xD7FF) || (0xE000 ≤ code && code ≤ 0xFFFD) || 0x10000 ≤ code

/-- The number of bytes before the first character that may not stand in a text. -/
def controlOffset? (text : List Char) : Option Nat :=
  if text.all isAllowed then none else some (Text.Utf8.size (text.takeWhile isAllowed))

/-! ## Cursors -/

/-- A place in a text with the text from there on. -/
structure Cursor where
  rest : List Char
  mark : Mark := {}
  deriving DecidableEq, Repr

namespace Cursor

def fail {α : Type} (cursor : Cursor) (problem : Problem) (construct : Construct) (start : Mark) :
    Except Fault α :=
  .error (.malformed problem cursor.mark (some { construct, start }))

/-- Whether the character that many places ahead is of a given kind. -/
def holds (cursor : Cursor) (ahead : Nat) (kind : Char → Bool) : Bool :=
  match cursor.rest[ahead]? with
  | some c => kind c
  | none => false

def isAt (cursor : Cursor) (c : Char) : Bool := cursor.holds 0 (· == c)

/-- Whether a blank, a line break or the end is that many places ahead. -/
def isParted (cursor : Cursor) (ahead : Nat) : Bool :=
  match cursor.rest[ahead]? with
  | some c => isBlank c || isBreak c
  | none => true

def isLineEnd (cursor : Cursor) : Bool :=
  match cursor.rest with
  | c :: _ => isBreak c
  | [] => true

def skip (cursor : Cursor) (count : Nat) : Cursor where
  rest := cursor.rest.drop count
  mark := { cursor.mark with
    index := cursor.mark.index + count, column := cursor.mark.column + count }

/-- The characters of a kind that come next, and the place after them. -/
def span (cursor : Cursor) (kind : Char → Bool) : List Char × Cursor :=
  let taken := cursor.rest.takeWhile kind
  (taken, cursor.skip taken.length)

/-- The place after the characters of a kind that come next. -/
def skipAll (cursor : Cursor) (kind : Char → Bool) : Cursor := (cursor.span kind).2

def skipBlanks (cursor : Cursor) : Cursor := cursor.skipAll isBlank

/-- The place after a comment, if one comes next. -/
def skipComment (cursor : Cursor) : Cursor :=
  if cursor.isAt '#' then cursor.skipAll fun c => !isBreak c else cursor

/-- The place at the start of the next line, after some characters. -/
def newLine (cursor : Cursor) (count : Nat) : Cursor where
  rest := cursor.rest.drop count
  mark := { index := cursor.mark.index + count, line := cursor.mark.line + 1, column := 0 }

/-- The line break that comes next, if one does, as it stands in the value of a scalar. -/
def readBreak (cursor : Cursor) : List Char × Cursor :=
  match cursor.rest with
  | '\r' :: '\n' :: _ => (['\n'], cursor.newLine 2)
  | c :: _ =>
    if c == '\u2028' || c == '\u2029' then ([c], cursor.newLine 1)
    else if isBreak c then (['\n'], cursor.newLine 1)
    else ([], cursor)
  | [] => ([], cursor)

/-- Whether a mark of three equal characters stands alone at the start of the line. -/
def isAtMarker (cursor : Cursor) (c : Char) : Bool :=
  cursor.mark.column == 0 && cursor.holds 0 (· == c) && cursor.holds 1 (· == c) &&
    cursor.holds 2 (· == c) && cursor.isParted 3

/-- Whether a mark that begins or ends a document comes next. -/
def isAtDocumentMarker (cursor : Cursor) : Bool := cursor.isAtMarker '-' || cursor.isAtMarker '.'

end Cursor

end LinkVetting.Yaml
