import LinkVetting.Yaml.Scalar
import LinkVetting.Yaml.Tag

/-!
# Streams of tokens

Tokens are found one after the other and wait in a queue, since a key is recognised only when the
colon after it is met: then a key token, and the start of a block mapping if one begins here, go
into the queue at the place where the key began. A key has to stand in one line and to be no longer
than a fixed number of characters.

Indentation counts outside of brackets only.
-/

namespace LinkVetting.Yaml

/-- A place at which a key may have begun. -/
structure KeyPlace where
  /-- The number of tokens before the key. -/
  number : Nat
  mark : Mark
  /-- Whether nothing but a key may stand there. -/
  isRequired : Bool
  deriving DecidableEq, Repr

/-- The tokens of a text as far as they have been found. -/
structure TokenStream where
  cursor : Cursor
  /-- The tokens that have been found and not been taken. -/
  queue : List Token := []
  /-- The number of tokens that have been taken. -/
  taken : Nat := 0
  /-- The columns of the open blocks, innermost first. -/
  indents : List Nat := []
  /-- The place at which a key may have begun, between the innermost brackets. -/
  key : Option KeyPlace := none
  /-- The places at which a key may have begun around the open brackets, innermost first. -/
  outerKeys : List (Option KeyPlace) := []
  /-- Whether a key may begin at the cursor. -/
  isKeyAllowed : Bool := true
  deriving Repr

namespace TokenStream

def ofText (text : List Char) : TokenStream := { cursor := { rest := text } }

def inFlow (stream : TokenStream) : Bool := !stream.outerKeys.isEmpty

def mark (stream : TokenStream) : Mark := stream.cursor.mark

/-- The first column right of the indentation of the innermost block. -/
def leastColumn (stream : TokenStream) : Nat :=
  match stream.indents with
  | indent :: _ => indent + 1
  | [] => 0

def refuse {α : Type} (stream : TokenStream) (problem : Problem) : Except Fault α :=
  .error (.malformed problem stream.mark none)

def push (stream : TokenStream) (token : Token) : TokenStream :=
  { stream with queue := stream.queue ++ [token] }

/-- A token that takes no room in the text. -/
def pushHere (stream : TokenStream) (kind : TokenKind) : TokenStream :=
  stream.push { kind, start := stream.mark, stop := stream.mark }

/-- A token up to another cursor, which moves there. -/
def pushUpTo (stream : TokenStream) (kind : TokenKind) (after : Cursor) : TokenStream :=
  { stream.push { kind, start := stream.mark, stop := after.mark } with cursor := after }

def pushChars (stream : TokenStream) (kind : TokenKind) (count : Nat) : TokenStream :=
  stream.pushUpTo kind (stream.cursor.skip count)

/-! ## Keys -/

/-- The greatest number of characters of a key. -/
def longestKey : Nat := 1024

/-- Whether it is too late for the colon of a key. -/
def isLate (stream : TokenStream) (key : KeyPlace) : Bool :=
  key.mark.line < stream.mark.line || key.mark.index + longestKey < stream.mark.index

/-- The fault of a key that has to be there and is not. -/
def colonMissing {α : Type} (stream : TokenStream) (key : KeyPlace) : Except Fault α :=
  stream.cursor.fail .colonMissing .simpleKey key.mark

/-- Gives up the keys whose colon would be too late. -/
def dropLateKeys (stream : TokenStream) : Except Fault TokenStream :=
  let isLost (key : KeyPlace) : Bool := stream.isLate key && key.isRequired
  match (stream.outerKeys.reverse ++ [stream.key]).findSome? (·.filter isLost) with
  | some key => stream.colonMissing key
  | none =>
    let kept (key : Option KeyPlace) : Option KeyPlace := key.filter fun key => !stream.isLate key
    .ok { stream with key := kept stream.key, outerKeys := stream.outerKeys.map kept }

def dropKey (stream : TokenStream) : Except Fault TokenStream :=
  match stream.key with
  | some key => if key.isRequired then stream.colonMissing key else .ok { stream with key := none }
  | none => .ok stream

/-- Notes that a key may begin at the cursor. -/
def noteKey (stream : TokenStream) : Except Fault TokenStream :=
  if !stream.isKeyAllowed then .ok stream
  else do
    let isRequired := !stream.inFlow && stream.indents.head? == some stream.mark.column
    let stream ← stream.dropKey
    let number := stream.taken + stream.queue.length
    return { stream with key := some { number, mark := stream.mark, isRequired } }

/-- Whether it is not settled yet whether a key begins at the first token of the queue. -/
def isOpen (stream : TokenStream) : Bool :=
  (stream.key :: stream.outerKeys).any fun key => key.any (·.number == stream.taken)

/-! ## Blocks -/

/-- Opens a block at the column of a mark if it is deeper than the open blocks. Its first token
goes into the queue after a number of tokens. -/
def openBlock (stream : TokenStream) (kind : TokenKind) (mark : Mark) (number : Nat) :
    TokenStream :=
  if stream.inFlow || mark.column < stream.leastColumn then stream
  else { stream with
    indents := mark.column :: stream.indents
    queue := stream.queue.insertIdx (number - stream.taken) { kind, start := mark, stop := mark } }

def openBlockHere (stream : TokenStream) (kind : TokenKind) : TokenStream :=
  stream.openBlock kind stream.mark (stream.taken + stream.queue.length)

/-- Closes the open blocks that are to the right of a column. -/
def closeBlocks (stream : TokenStream) (isLeft : (indent : Nat) → Bool) : TokenStream :=
  if stream.inFlow then stream
  else
    let closed := stream.indents.takeWhile isLeft
    closed.foldl (fun stream _ => stream.pushHere .blockEnd)
      { stream with indents := stream.indents.drop closed.length }

def closeAllBlocks (stream : TokenStream) : TokenStream := stream.closeBlocks fun _ => true

/-! ## Finding the next token -/

/-- Moves over blanks, comments and line breaks. Tabs count as blanks where no key may begin.
`fuel` bounds the number of lines. -/
def skipToToken : (fuel : Nat) → TokenStream → TokenStream
  | 0, stream => stream
  | fuel + 1, stream =>
    let cursor := stream.cursor
    let cursor :=
      if cursor.mark.column == 0 && cursor.isAt '\ufeff' then cursor.skip 1 else cursor
    let takesTabs := stream.inFlow || !stream.isKeyAllowed
    let cursor := cursor.skipAll fun c => c == ' ' || (takesTabs && c == '\t')
    let cursor := cursor.skipComment
    if cursor.holds 0 isBreak then
      skipToToken fuel { stream with
        cursor := cursor.readBreak.2, isKeyAllowed := stream.isKeyAllowed || !stream.inFlow }
    else { stream with cursor }

/-- Finds the end of the text, which counts as the start of a line. -/
def findStreamEnd (stream : TokenStream) : Except Fault TokenStream := do
  let cursor := if stream.mark.column == 0 then stream.cursor else stream.cursor.newLine 0
  let stream ← { stream with cursor }.closeAllBlocks.dropKey
  return { stream with isKeyAllowed := false }.pushHere .streamEnd

/-- Closes all blocks before something that may only stand outside of documents. -/
def leaveBlocks (stream : TokenStream) : Except Fault TokenStream := do
  let stream ← stream.closeAllBlocks.dropKey
  return { stream with isKeyAllowed := false }

def findDirective (stream : TokenStream) : Except Fault TokenStream := do
  let stream ← stream.leaveBlocks
  let (kind, after) ← readDirective stream.cursor
  return stream.pushUpTo kind after

/-- Finds the start or the end of a document. -/
def findDocumentMarker (stream : TokenStream) (kind : TokenKind) : Except Fault TokenStream := do
  return (← stream.leaveBlocks).pushChars kind 3

def findFlowStart (stream : TokenStream) (kind : TokenKind) : Except Fault TokenStream := do
  let stream ← stream.noteKey
  let stream := { stream with
    key := none, outerKeys := stream.key :: stream.outerKeys, isKeyAllowed := true }
  return stream.pushChars kind 1

def findFlowEnd (stream : TokenStream) (kind : TokenKind) : Except Fault TokenStream := do
  let stream ← stream.dropKey
  let stream := match stream.outerKeys with
    | key :: outerKeys => { stream with key, outerKeys }
    | [] => stream
  return { stream with isKeyAllowed := false }.pushChars kind 1

def findFlowEntry (stream : TokenStream) : Except Fault TokenStream := do
  return { ← stream.dropKey with isKeyAllowed := true }.pushChars .flowEntry 1

/-- Finds the hyphen before an entry of a sequence. -/
def findBlockEntry (stream : TokenStream) : Except Fault TokenStream := do
  if !stream.inFlow && !stream.isKeyAllowed then stream.refuse .sequenceEntryNotAllowed
  else
    let stream ← (stream.openBlockHere .blockSequenceStart).dropKey
    return { stream with isKeyAllowed := true }.pushChars .blockEntry 1

def findKey (stream : TokenStream) : Except Fault TokenStream := do
  if !stream.inFlow && !stream.isKeyAllowed then stream.refuse .keyNotAllowed
  else
    let stream ← (stream.openBlockHere .blockMappingStart).dropKey
    return { stream with isKeyAllowed := !stream.inFlow }.pushChars .key 1

/-- Finds the colon between a key and its value. -/
def findValue (stream : TokenStream) : Except Fault TokenStream :=
  match stream.key with
  | some key =>
    let token : Token := { kind := .key, start := key.mark, stop := key.mark }
    let stream := { stream with
      queue := stream.queue.insertIdx (key.number - stream.taken) token
      key := none, isKeyAllowed := false }
    .ok ((stream.openBlock .blockMappingStart key.mark key.number).pushChars .value 1)
  | none =>
    if !stream.inFlow && !stream.isKeyAllowed then stream.refuse .valueNotAllowed
    else
      let stream := stream.openBlockHere .blockMappingStart
      .ok ({ stream with isKeyAllowed := !stream.inFlow }.pushChars .value 1)

def findKeyed (stream : TokenStream)
    (read : Cursor → Except Fault (TokenKind × Cursor)) : Except Fault TokenStream := do
  let stream ← stream.noteKey
  let (kind, after) ← read stream.cursor
  return { stream with isKeyAllowed := false }.pushUpTo kind after

def findQuoted (stream : TokenStream) (quote : Char) (style : Style) : Except Fault TokenStream :=
  stream.findKeyed fun cursor => do
    let (text, after) ← readQuoted quote cursor
    return (.scalar text style, after)

/-- Finds a plain scalar. A key may begin after it if it was left on a new line. -/
def findPlain (stream : TokenStream) : Except Fault TokenStream := do
  let stream ← stream.noteKey
  let (text, isKeyAllowed, after) ← readPlain stream.inFlow stream.leastColumn stream.cursor
  return { stream with isKeyAllowed }.pushUpTo (.scalar text .plain) after

def findBlock (stream : TokenStream) (style : Style) : Except Fault TokenStream := do
  let stream ← stream.dropKey
  let (text, after) ← readBlock (style == .folded) stream.leastColumn stream.cursor
  return { stream with isKeyAllowed := true }.pushUpTo (.scalar text style) after

def findAnchor (stream : TokenStream) (construct : Construct) (kind : List Char → TokenKind) :
    Except Fault TokenStream :=
  stream.findKeyed fun cursor => do
    let (name, after) ← readAnchorName construct cursor
    return (kind name, after)

def findTag (stream : TokenStream) : Except Fault TokenStream :=
  stream.findKeyed fun cursor => do
    let (tag, after) ← readTag stream.inFlow cursor
    return (.tag tag, after)

/-- Whether a character has a meaning of its own at the start of a token. -/
def isIndicator (c : Char) : Bool :=
  isFlowIndicator c || c == '-' || c == '?' || c == ':' || c == '#' || c == '&' || c == '*' ||
    c == '!' || c == '|' || c == '>' || c == '\'' || c == '"' || c == '%' || c == '@' || c == '`'

/-- Whether a plain scalar may begin with a character at the cursor. -/
def beginsPlain (stream : TokenStream) (c : Char) : Bool :=
  !(isBlank c || isIndicator c) || (c == '-' && !stream.cursor.holds 1 isBlank) ||
    (!stream.inFlow && (c == '?' || c == ':') && !stream.cursor.isParted 1)

/-- Finds the token that begins with a character at the cursor. -/
def findAt (stream : TokenStream) (c : Char) : Except Fault TokenStream :=
  let cursor := stream.cursor
  if cursor.mark.column == 0 && c == '%' then stream.findDirective
  else if cursor.isAtMarker '-' then stream.findDocumentMarker .documentStart
  else if cursor.isAtMarker '.' then stream.findDocumentMarker .documentEnd
  else if c == '[' then stream.findFlowStart .flowSequenceStart
  else if c == '\x7b' then stream.findFlowStart .flowMappingStart
  else if c == ']' then stream.findFlowEnd .flowSequenceEnd
  else if c == '\x7d' then stream.findFlowEnd .flowMappingEnd
  else if c == ',' then stream.findFlowEntry
  else if c == '-' && cursor.isParted 1 then stream.findBlockEntry
  else if c == '?' && (stream.inFlow || cursor.isParted 1) then stream.findKey
  else if c == ':' && (stream.inFlow || cursor.isParted 1) then stream.findValue
  else if c == '*' then stream.findAnchor .alias .alias
  else if c == '&' then stream.findAnchor .anchor .anchor
  else if c == '!' then stream.findTag
  else if c == '|' && !stream.inFlow then stream.findBlock .literal
  else if c == '>' && !stream.inFlow then stream.findBlock .folded
  else if c == '\'' then stream.findQuoted c .singleQuoted
  else if c == '"' then stream.findQuoted c .doubleQuoted
  else if stream.beginsPlain c then stream.findPlain
  else cursor.fail .tokenStartUnknown .nextToken cursor.mark

/-- Finds one more token of the text, with the tokens for the blocks that end before it. -/
def find (stream : TokenStream) : Except Fault TokenStream := do
  let stream ← (stream.skipToToken (stream.cursor.rest.length + 1)).dropLateKeys
  let stream := stream.closeBlocks (stream.mark.column < ·)
  match stream.cursor.rest with
  | c :: _ => stream.findAt c
  | [] => stream.findStreamEnd

/-- Finds tokens until the first one in the queue is settled. `fuel` bounds their number. -/
def settle : (fuel : Nat) → TokenStream → Except Fault TokenStream
  | 0, stream => .ok stream
  | fuel + 1, stream => do
    if stream.queue.isEmpty then settle fuel (← stream.find)
    else
      let stream ← stream.dropLateKeys
      if stream.isOpen then settle fuel (← stream.find) else return stream

def next (stream : TokenStream) : Except Fault (Token × TokenStream) := do
  let stream ← stream.settle (stream.cursor.rest.length + 2)
  match stream.queue with
  | token :: _ => return (token, stream)
  | [] => return ({ kind := .streamEnd, start := stream.mark, stop := stream.mark }, stream)

def take (stream : TokenStream) : TokenStream :=
  { stream with queue := stream.queue.tail, taken := stream.taken + 1 }

end TokenStream

end LinkVetting.Yaml
