import LinkVetting.Yaml.Cursor
import LinkVetting.Yaml.Token

/-!
# Reading scalars

A quoted or plain scalar is made of words and gaps. A gap inside a line is kept; one line break in
a gap becomes a blank, and of several line breaks all but the first are kept. A block scalar is
made of lines with a common indentation; in the folded form, line breaks between lines of text fold
in the same way.
-/

namespace LinkVetting.Yaml

/-! ## Gaps -/

structure Gap where
  /-- The blanks of a gap inside a line. -/
  blanks : List Char := []
  /-- Whether the gap leads to another line. -/
  isBroken : Bool := false
  /-- The first line break. -/
  first : List Char := []
  /-- The line breaks after the first. -/
  further : List Char := []
  deriving DecidableEq, Repr

namespace Gap

/-- What is left of a gap in the value. -/
def text (gap : Gap) : List Char :=
  if !gap.isBroken then gap.blanks
  else if gap.first == ['\n'] then if gap.further.isEmpty then [' '] else gap.further
  else gap.first ++ gap.further

def addBreak (gap : Gap) (text : List Char) : Gap :=
  if gap.isBroken then { gap with further := gap.further ++ text }
  else { gap with isBroken := true, first := text }

/-- Reads a gap on. On a new line no tab may stand left of a given column. `fuel` bounds the number
of blanks and line breaks. -/
def read (start : Mark) (least : Nat) : (fuel : Nat) → Gap → Cursor → Except Fault (Gap × Cursor)
  | 0, gap, cursor => .ok (gap, cursor)
  | fuel + 1, gap, cursor =>
    match cursor.rest with
    | c :: _ =>
      if isBlank c then
        if gap.isBroken then
          if c == '\t' && cursor.mark.column < least then
            cursor.fail .plainTab .plainScalar start
          else read start least fuel gap (cursor.skip 1)
        else
          let (blanks, cursor) := cursor.span isBlank
          read start least fuel { gap with blanks } cursor
      else if isBreak c then
        let (text, cursor) := cursor.readBreak
        read start least fuel (gap.addBreak text) cursor
      else .ok (gap, cursor)
    | [] => .ok (gap, cursor)

end Gap

/-! ## Quoted scalars -/

def shortEscapes : List (Char × Char) := [
  ('0', '\x00'), ('a', '\x07'), ('b', '\x08'), ('t', '\t'), ('\t', '\t'), ('n', '\n'),
  ('v', '\x0b'), ('f', '\x0c'), ('r', '\r'), ('e', '\x1b'), (' ', ' '), ('"', '"'), ('/', '/'),
  ('\\', '\\'), ('N', '\u0085'), ('_', '\u00a0'), ('L', '\u2028'), ('P', '\u2029')]

/-- The number of hexadecimal digits after the letter of an escape. -/
def escapeDigits : List (Char × Nat) := [('x', 2), ('u', 4), ('U', 8)]

def readEscapeDigits (start : Mark) (count : Nat) (cursor : Cursor) :
    Except Fault (Char × Cursor) :=
  let digits := cursor.rest.take count
  let value := digitsValue 16 digits
  if digits.length < count || !digits.all isHexDigit then
    cursor.fail .hexExpected .escapeSequence start
  else if (0xD800 ≤ value && value ≤ 0xDFFF) || value > 0x10FFFF then
    cursor.fail .codeInvalid .escapeSequence start
  else .ok (Char.ofNat value, cursor.skip count)

def readEscape (start : Mark) (cursor : Cursor) : Except Fault (Char × Cursor) :=
  match cursor.rest[1]? with
  | none => cursor.fail .escapeUnknown .escapeSequence start
  | some letter =>
    match shortEscapes.lookup letter, escapeDigits.lookup letter with
    | some c, _ => .ok (c, cursor.skip 2)
    | none, some count => readEscapeDigits start count (cursor.skip 2)
    | none, none => cursor.fail .escapeUnknown .escapeSequence start

/-- Reads a word of a quoted scalar onto what has been read, last character first. Answers also
whether the word ended with an escaped line break. `fuel` bounds the length of the word. -/
def readQuotedWord (start : Mark) (quote : Char) :
    (fuel : Nat) → List Char → Cursor → Except Fault (List Char × Bool × Cursor)
  | 0, text, cursor => .ok (text, false, cursor)
  | fuel + 1, text, cursor =>
    match cursor.rest with
    | [] => .ok (text, false, cursor)
    | c :: _ =>
      if isBlank c || isBreak c then .ok (text, false, cursor)
      else if c == quote then
        if quote == '\'' && cursor.holds 1 (· == quote) then
          readQuotedWord start quote fuel (c :: text) (cursor.skip 2)
        else .ok (text, false, cursor)
      else if quote == '"' && c == '\\' then
        if cursor.holds 1 isBreak then .ok (text, true, (cursor.skip 1).readBreak.2)
        else
          match readEscape start cursor with
          | .ok (c, cursor) => readQuotedWord start quote fuel (c :: text) cursor
          | .error fault => .error fault
      else readQuotedWord start quote fuel (c :: text) (cursor.skip 1)

/-- Reads a quoted scalar after its opening quote onto what has been read, last character first.
`fuel` bounds the number of words. -/
def readQuotedFrom (start : Mark) (quote : Char) :
    (fuel : Nat) → List Char → Cursor → Except Fault (List Char × Cursor)
  | 0, _, cursor => cursor.fail .streamEnd .quotedScalar start
  | fuel + 1, text, cursor =>
    if cursor.isAtDocumentMarker then cursor.fail .documentMarker .quotedScalar start
    else if cursor.rest.isEmpty then cursor.fail .streamEnd .quotedScalar start
    else do
      let (text, isBroken, cursor) ← readQuotedWord start quote (cursor.rest.length + 1) text cursor
      if cursor.isAt quote then return (text.reverse, cursor.skip 1)
      else
        let (gap, cursor) ← Gap.read start 0 (cursor.rest.length + 1) { isBroken } cursor
        readQuotedFrom start quote fuel (gap.text.reverse ++ text) cursor

def readQuoted (quote : Char) (cursor : Cursor) : Except Fault (List Char × Cursor) :=
  readQuotedFrom cursor.mark quote (cursor.rest.length + 2) [] (cursor.skip 1)

/-! ## Plain scalars -/

/-- Whether a character has a meaning of its own between brackets. -/
def isFlowIndicator (c : Char) : Bool :=
  c == ',' || c == '[' || c == ']' || c == '\x7b' || c == '\x7d'

/-- Reads a word of a plain scalar onto what has been read, last character first. A colon ends the
word if it stands alone; between brackets it may not stand before another mark. `fuel` bounds the
length of the word. -/
def readPlainWord (start : Mark) (inFlow : Bool) :
    (fuel : Nat) → List Char → Cursor → Except Fault (List Char × Cursor)
  | 0, text, cursor => .ok (text, cursor)
  | fuel + 1, text, cursor =>
    match cursor.rest with
    | [] => .ok (text, cursor)
    | c :: _ =>
      if isBlank c || isBreak c then .ok (text, cursor)
      else if inFlow && c == ':' && cursor.holds 1 (fun c => isFlowIndicator c || c == '?') then
        cursor.fail .plainColon .plainScalar start
      else if (c == ':' && cursor.isParted 1) || (inFlow && isFlowIndicator c) then
        .ok (text, cursor)
      else readPlainWord start inFlow fuel (c :: text) (cursor.skip 1)

/-- Reads a plain scalar onto what has been read, last character first, with the gap that would
come before its next word. Answers also whether the scalar was left on a new line. Outside of
brackets the scalar ends before a line that begins left of a given column. `fuel` bounds the number
of words. -/
def readPlainFrom (start : Mark) (inFlow : Bool) (least : Nat) :
    (fuel : Nat) → List Char → Gap → Cursor → Except Fault (List Char × Bool × Cursor)
  | 0, text, gap, cursor => .ok (text.reverse, gap.isBroken, cursor)
  | fuel + 1, text, gap, cursor =>
    if cursor.isAtDocumentMarker || cursor.isAt '#' then
      .ok (text.reverse, gap.isBroken, cursor)
    else do
      let (word, after) ← readPlainWord start inFlow (cursor.rest.length + 1) [] cursor
      let (text, gap) :=
        if word.isEmpty then (text, gap) else (word ++ gap.text.reverse ++ text, {})
      if after.rest.isEmpty || !after.isParted 0 then return (text.reverse, gap.isBroken, after)
      else
        let (gap, after) ← Gap.read start least (after.rest.length + 1) {} after
        if !inFlow && after.mark.column < least then return (text.reverse, gap.isBroken, after)
        else readPlainFrom start inFlow least fuel text gap after

def readPlain (inFlow : Bool) (least : Nat) (cursor : Cursor) :
    Except Fault (List Char × Bool × Cursor) :=
  readPlainFrom cursor.mark inFlow least (cursor.rest.length + 1) [] {} cursor

/-! ## Block scalars -/

/-- What becomes of the line breaks at the end of a block scalar. -/
inductive Chomping where
  | strip
  | clip
  | keep
  deriving DecidableEq, Repr

/-- What the first line of a block scalar says about the others. -/
structure BlockHeader where
  chomping : Chomping := .clip
  /-- How much deeper the lines are indented than the block around them; zero if that is left
  open. -/
  increment : Nat := 0
  deriving DecidableEq, Repr

/-- Reads the sign for what becomes of the last line breaks. -/
def readChomping (cursor : Cursor) : Option (Chomping × Cursor) :=
  if cursor.isAt '+' then some (.keep, cursor.skip 1)
  else if cursor.isAt '-' then some (.strip, cursor.skip 1)
  else none

def readIncrement (start : Mark) (cursor : Cursor) : Except Fault (Nat × Cursor) :=
  match cursor.rest with
  | c :: _ =>
    if c == '0' then cursor.fail .indentationZero .blockScalar start
    else if c.isDigit then .ok (digitValue c, cursor.skip 1)
    else .ok (0, cursor)
  | [] => .ok (0, cursor)

/-- Reads the signs after the mark of a block scalar, which may stand in either order. -/
def readBlockHeader (start : Mark) (cursor : Cursor) : Except Fault (BlockHeader × Cursor) := do
  match readChomping cursor with
  | some (chomping, cursor) =>
    let (increment, cursor) ← readIncrement start cursor
    return ({ chomping, increment }, cursor)
  | none =>
    let (increment, cursor) ← readIncrement start cursor
    match if increment = 0 then none else readChomping cursor with
    | some (chomping, cursor) => return ({ chomping, increment }, cursor)
    | none => return ({ increment }, cursor)

/-- Reads indentation and empty lines up to a line with text; `breaks` are the line breaks so far
and `widest` the widest indentation so far. If no indentation is given, all blanks count. `fuel`
bounds the number of lines. -/
def readBlockBreaks (start : Mark) (indent : Option Nat) :
    (fuel : Nat) → (breaks : List Char) → (widest : Nat) → Cursor →
      Except Fault (List Char × Nat × Cursor)
  | 0, breaks, widest, cursor => .ok (breaks, widest, cursor)
  | fuel + 1, breaks, widest, cursor =>
    let blanks := (cursor.rest.takeWhile (· == ' ')).length
    let cursor := cursor.skip <| match indent with
      | some indent => min blanks (indent - cursor.mark.column)
      | none => blanks
    let widest := max widest cursor.mark.column
    let isShort := match indent with
      | some indent => cursor.mark.column < indent
      | none => true
    if isShort && cursor.isAt '\t' then cursor.fail .indentationTab .blockScalar start
    else if cursor.holds 0 isBreak then
      let (text, cursor) := cursor.readBreak
      readBlockBreaks start indent fuel (breaks ++ text) widest cursor
    else .ok (breaks, widest, cursor)

structure BlockText where
  /-- The text, last character first. -/
  text : List Char := []
  /-- The line break after the last line with text. -/
  lastBreak : List Char := []
  /-- The line breaks of the empty lines after it. -/
  emptyBreaks : List Char
  /-- Whether the last line with text began with a blank. -/
  isIndented : Bool := false

/-- What stands between the last line with text and the next one. -/
def BlockText.gap (block : BlockText) (isFolded isIndented : Bool) : List Char :=
  if isFolded && block.lastBreak == ['\n'] && !block.isIndented && !isIndented then
    if block.emptyBreaks.isEmpty then [' '] else block.emptyBreaks
  else block.lastBreak ++ block.emptyBreaks

/-- Reads the lines of a block scalar. `fuel` bounds their number. -/
def readBlockLines (start : Mark) (isFolded : Bool) (indent : Nat) :
    (fuel : Nat) → BlockText → Cursor → Except Fault (BlockText × Cursor)
  | 0, block, cursor => .ok (block, cursor)
  | fuel + 1, block, cursor =>
    if cursor.mark.column != indent || cursor.rest.isEmpty then .ok (block, cursor)
    else do
      let isIndented := cursor.holds 0 isBlank
      let gap := block.gap isFolded isIndented
      let (line, cursor) := cursor.span fun c => !isBreak c
      let (lastBreak, cursor) := cursor.readBreak
      let (emptyBreaks, _, cursor) ←
        readBlockBreaks start (some indent) (cursor.rest.length + 1) [] 0 cursor
      let text := line.reverse ++ gap.reverse ++ block.text
      readBlockLines start isFolded indent fuel
        { text, lastBreak, emptyBreaks, isIndented } cursor

def BlockText.value (block : BlockText) (chomping : Chomping) : List Char :=
  block.text.reverse ++ match chomping with
    | .strip => []
    | .clip => block.lastBreak
    | .keep => block.lastBreak ++ block.emptyBreaks

/-- Reads a block scalar; `least` is the first column right of the indentation around it. -/
def readBlock (isFolded : Bool) (least : Nat) (cursor : Cursor) :
    Except Fault (List Char × Cursor) := do
  let start := cursor.mark
  let (header, cursor) ← readBlockHeader start (cursor.skip 1)
  let cursor := cursor.skipBlanks.skipComment
  if !cursor.isLineEnd then cursor.fail .lineNotEnded .blockScalar start
  else
    let (_, cursor) := cursor.readBreak
    let given := if header.increment = 0 then none else some (least - 1 + header.increment)
    let (emptyBreaks, widest, cursor) ←
      readBlockBreaks start given (cursor.rest.length + 1) [] 0 cursor
    let indent := given.getD (max widest (max least 1))
    let (block, cursor) ←
      readBlockLines start isFolded indent (cursor.rest.length + 1) { emptyBreaks } cursor
    return (block.value header.chomping, cursor)

end LinkVetting.Yaml
