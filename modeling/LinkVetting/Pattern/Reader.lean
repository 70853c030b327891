import LinkVetting.Pattern.Syntax
import LinkVetting.Unicode.Category

/-!
# Reading patterns

`Tree.read` turns the text of a pattern into its syntax or into the first fault, reading from left
to right. Loops take fuel; the length of the pattern bounds every one of them, since each round
reads at least one character.
-/

namespace LinkVetting.Pattern

/-- What is left of a pattern, and what has to be remembered while reading on. -/
structure ReadState where
  rest : List Char
  position : Position
  /-- Whether blanks and comments are skipped. -/
  skipsBlanks : Bool
  groupNames : List (List Char × Span)

abbrev Reader := StateT ReadState (Except Fault)

namespace Reader

def fail {α : Type} (kind : FaultKind) (span : Span) : Reader α :=
  throw { kind, span }

def position : Reader Position := return (← get).position

def peek? : Reader (Option Char) := return (← get).rest.head?

def atEnd : Reader Bool := return (← get).rest.isEmpty

def hereSpan : Reader Span := return ⟨(← get).position, (← get).position⟩

def charSpan : Reader Span := do
  let state ← get
  match state.rest with
  | [] => return ⟨state.position, state.position⟩
  | c :: _ => return ⟨state.position, state.position.after c⟩

/-- The stretch from a place to the current one. -/
def spanFrom (first : Position) : Reader Span := return ⟨first, (← get).position⟩

def dropChar (state : ReadState) : ReadState :=
  match state.rest with
  | [] => state
  | c :: rest => { state with rest, position := state.position.after c }

/-- Moves past one character; says whether another one follows. -/
def bump : Reader Bool := do
  modify dropChar
  return !(← get).rest.isEmpty

/-- The state after the rest of a line, its line feed included. -/
def dropLine : List Char → ReadState → ReadState
  | [], state => state
  | c :: later, state => if c == '\n' then dropChar state else dropLine later (dropChar state)

def dropBlanks : Nat → ReadState → ReadState
  | 0, state => state
  | fuel + 1, state =>
    match state.rest with
    | [] => state
    | c :: _ =>
      if Unicode.isSpace c.toNat then dropBlanks fuel (dropChar state)
      else if c == '#' then dropBlanks fuel (dropLine state.rest state)
      else state

/-- Moves past blanks and comments where they are skipped. -/
def bumpBlanks : Reader Unit :=
  modify fun state => if state.skipsBlanks then dropBlanks state.rest.length state else state

/-- Moves past one character and the blanks after it; says whether another one follows. -/
def bumpAndBlanks : Reader Bool := do
  if ← bump then
    bumpBlanks
    return !(← get).rest.isEmpty
  else return false

def bumpIf (word : String) : Reader Bool := do
  let chars := word.toList
  if chars.isPrefixOf (← get).rest then
    modify fun state => chars.foldl (fun state _ => dropChar state) state
    return true
  else return false

/-- The character after blanks and after the first sign of a comment, if there is one. -/
def pastBlanks : Bool → List Char → Option Char
  | _, [] => none
  | inComment, c :: later =>
    if Unicode.isSpace c.toNat then pastBlanks inComment later
    else if !inComment && c == '#' then pastBlanks true later
    else some c

/-- The character after the next one, past blanks where they are skipped. -/
def peekSecond? : Reader (Option Char) := do
  let state ← get
  let later := state.rest.tail
  if state.skipsBlanks then return pastBlanks false later <|> later.head? else return later.head?

def peekNext? : Reader (Option Char) := return (← get).rest.tail.head?

end Reader

open Reader

def hexValue? (digits : List Char) : Option Nat :=
  digits.foldlM (fun value c =>
    let code := c.toNat
    if '0' ≤ c && c ≤ '9' then some (16 * value + (code - '0'.toNat))
    else if 'a' ≤ c && c ≤ 'f' then some (16 * value + (code - 'a'.toNat + 10))
    else if 'A' ≤ c && c ≤ 'F' then some (16 * value + (code - 'A'.toNat + 10))
    else none) 0

def isHexDigit (c : Char) : Bool := (hexValue? [c]).isSome

def hexChar? (digits : List Char) : Option Char :=
  (hexValue? digits).bind fun code => if code.isValidChar then some (Char.ofNat code) else none

/-- The characters that have a meaning of their own in patterns. -/
def isMeta (c : Char) : Bool := "\\.+*?()|[]\x7b\x7d^$#&-~".toList.contains c

/-- The characters that a backslash leaves as they are. -/
def isEscapable (c : Char) : Bool :=
  isMeta c || (c.toNat < 0x80 && !c.isAlphanum && c != '<' && c != '>')

namespace Reader

def hexInBraces (opening : Position) (first : Position) : Nat → List Char → Reader Char
  | 0, _ => do fail .escapeIncomplete (← spanFrom opening)
  | fuel + 1, digits => do
    let more ← bumpAndBlanks
    match more, ← peek? with
    | true, some '}' | false, _ =>
      if ← atEnd then fail .escapeIncomplete (← spanFrom opening)
      else
        let last ← position
        let _ ← bumpAndBlanks
        if digits.isEmpty then fail .hexEmpty (← spanFrom opening)
        else match hexChar? digits.reverse with
          | some c => return c
          | none => fail .hexInvalid ⟨first, last⟩
    | true, some c =>
      if isHexDigit c then hexInBraces opening first fuel (c :: digits)
      else fail .hexInvalidDigit (← charSpan)
    | true, none => fail .escapeIncomplete (← spanFrom opening)

/-- Reads a fixed number of hexadecimal digits, the first one being next. -/
def hexDigits (first : Position) : Nat → List Char → Reader Char
  | 0, digits => do
    match hexChar? digits.reverse with
    | some c => return c
    | none => fail .hexInvalid (← spanFrom first)
  | count + 1, digits => do
    match ← peek? with
    | some c =>
      if isHexDigit c then
        let more ← bumpAndBlanks
        if !more && count > 0 then fail .escapeIncomplete (← hereSpan)
        else hexDigits first count (c :: digits)
      else fail .hexInvalidDigit (← charSpan)
    | none => fail .escapeIncomplete (← hereSpan)

/-- Reads a hexadecimal escape whose letter is next; `start` is the place of the backslash. -/
def hexEscape (start : Position) (letter : Char) : Reader Literal := do
  if !(← bumpAndBlanks) then fail .escapeIncomplete (← hereSpan)
  else if (← peek?) == some '{' then
    let opening ← position
    let first := (← charSpan).last
    let c ← hexInBraces opening first ((← get).rest.length + 1) []
    return { span := ← spanFrom start, char := c }
  else
    let count := if letter == 'x' then 2 else if letter == 'u' then 4 else 8
    let c ← hexDigits (← position) count []
    return { span := ← spanFrom start, char := c, isHexByte := letter == 'x' }

/-- Reads the name of a class up to its closing brace. -/
def braceName : Nat → List Char → Reader (List Char)
  | 0, _ => do fail .escapeIncomplete (← hereSpan)
  | fuel + 1, name => do
    let more ← bumpAndBlanks
    match more, ← peek? with
    | true, some c =>
      if c == '}' then return name.reverse else braceName fuel (c :: name)
    | _, _ => fail .escapeIncomplete (← hereSpan)

/-- The two parts of a text around the first occurrence of a separator. -/
def splitAt? (separator : List Char) : List Char → Option (List Char × List Char)
  | [] => none
  | c :: later =>
    if separator.isPrefixOf (c :: later) then some ([], (c :: later).drop separator.length)
    else (splitAt? separator later).map fun (front, back) => (c :: front, back)

/-- How the text between braces names a class. The three signs between a property and its value
mean the same. -/
def className (name : List Char) : ClassName :=
  match splitAt? ['!', '='] name <|> splitAt? [':'] name <|> splitAt? ['='] name with
  | some (property, value) => .withValue property value
  | none => .single name

/-- What a backslash or a single character can stand for. -/
inductive Atom where
  | literal (literal : Literal)
  | dot (span : Span)
  | anchor (span : Span) (kind : Anchor)
  | named (span : Span) (name : ClassName) (negated : Bool)
  | escaped (span : Span) (kind : EscapedClass) (negated : Bool)

def Atom.span : Atom → Span
  | .literal written => written.span
  | .dot span | .anchor span _ | .named span .. | .escaped span .. => span

/-- Reads a class by name; its letter is next and `start` is the place of the backslash. -/
def namedClass (start : Position) (negated : Bool) : Reader Atom := do
  if !(← bumpAndBlanks) then fail .escapeIncomplete (← hereSpan)
  else match ← peek? with
    | some '{' =>
      let text ← braceName ((← get).rest.length + 1) []
      let _ ← bump
      return .named (← spanFrom start) (className text) negated
    | some '\\' => fail .unicodeClassInvalid (← charSpan)
    | some c =>
      let _ ← bumpAndBlanks
      return .named (← spanFrom start) (.single [c]) negated
    | none => fail .escapeIncomplete (← hereSpan)

/-- Reads the letters and hyphens between the braces of a word edge. -/
def edgeName : Nat → List Char → Reader (List Char)
  | 0, name => return name.reverse
  | fuel + 1, name => do
    match ← peek? with
    | some c =>
      if c.isAlpha || c == '-' then
        let _ ← bumpAndBlanks
        edgeName fuel (c :: name)
      else return name.reverse
    | none => return name.reverse

/-- Reads the braces after a word edge, unless they hold a repetition count. -/
def edgeKind (start : Position) : Reader Anchor := do
  let saved ← get
  let opening := saved.position
  if !(← bumpAndBlanks) then fail .wordEdgeOrCountUnclosed (← spanFrom start)
  else
    let first ← position
    match ← peek? with
    | some c =>
      if !(c.isAlpha || c == '-') then
        set saved
        return .wordEdge
      else
        let name ← edgeName saved.rest.length []
        if (← peek?) != some '}' then fail .wordEdgeUnclosed (← spanFrom opening)
        else
          let span ← spanFrom first
          let _ ← bump
          match String.ofList name with
          | "start" => return .wordStart
          | "end" => return .wordEnd
          | "start-half" => return .wordStartHalf
          | "end-half" => return .wordEndHalf
          | _ => fail .wordEdgeUnrecognized span
    | none => fail .wordEdgeOrCountUnclosed (← spanFrom start)

def escape : Reader Atom := do
  let start ← position
  if !(← bump) then fail .escapeIncomplete (← spanFrom start)
  else match ← peek? with
    | none => fail .escapeIncomplete (← spanFrom start)
    | some c =>
      if c.isDigit then fail .backreference ⟨start, (← charSpan).last⟩
      else if c == 'x' || c == 'u' || c == 'U' then return .literal (← hexEscape start c)
      else if c == 'p' || c == 'P' then namedClass start (c == 'P')
      else
        let _ ← bump
        let span ← spanFrom start
        let char (value : Char) : Reader Atom := return .literal { span, char := value }
        if isEscapable c then char c
        else match c with
          | 'd' => return .escaped span .digit false
          | 'D' => return .escaped span .digit true
          | 's' => return .escaped span .space false
          | 'S' => return .escaped span .space true
          | 'w' => return .escaped span .word false
          | 'W' => return .escaped span .word true
          | 'a' => char '\x07'
          | 'f' => char '\x0c'
          | 't' => char '\t'
          | 'n' => char '\n'
          | 'r' => char '\r'
          | 'v' => char '\x0b'
          | 'A' => return .anchor span .textStart
          | 'z' => return .anchor span .textEnd
          | 'b' =>
            if (← peek?) == some '{' then
              let kind ← edgeKind start
              let whole ← spanFrom start
              return .anchor (if kind == .wordEdge then span else whole) kind
            else return .anchor span .wordEdge
          | 'B' => return .anchor span .notWordEdge
          | '<' => return .anchor span .wordStart
          | '>' => return .anchor span .wordEnd
          | _ => fail .escapeUnrecognized span

/-- Reads one atom outside brackets; a character is next. -/
def atom (c : Char) : Reader Atom := do
  let span ← charSpan
  match c with
  | '\\' => escape
  | '.' => let _ ← bump; return .dot span
  | '^' => let _ ← bump; return .anchor span .lineStart
  | '$' => let _ ← bump; return .anchor span .lineEnd
  | c => let _ ← bump; return .literal { span, char := c }

/-! ## Bracketed classes -/

def asciiClass? : String → Option AsciiClass
  | "alnum" => some .alnum
  | "alpha" => some .alpha
  | "ascii" => some .ascii
  | "blank" => some .blank
  | "cntrl" => some .cntrl
  | "digit" => some .digit
  | "graph" => some .graph
  | "lower" => some .lower
  | "print" => some .print
  | "punct" => some .punct
  | "space" => some .space
  | "upper" => some .upper
  | "word" => some .word
  | "xdigit" => some .xdigit
  | _ => none

/-- The ASCII class whose opening bracket is next, if the text there has its form. -/
def asciiClassAt? (rest : List Char) : Option (Nat × AsciiClass × Bool) :=
  match rest with
  | '[' :: ':' :: inside =>
    let negated := inside.head? == some '^'
    let name := (if negated then inside.tail else inside).takeWhile (· != ':')
    let after := (if negated then inside.tail else inside).dropWhile (· != ':')
    if [':', ']'].isPrefixOf after then
      (asciiClass? (String.ofList name)).map fun kind =>
        (name.length + 4 + (if negated then 1 else 0), kind, negated)
    else none
  | _ => none

/-- A bracket that has been opened, or a set operation that lacks its right side. Each keeps what
stood before it. -/
inductive ClassFrame where
  | opened (span : Span) (negated : Bool) (outer : List SetTree) (outerFirst : Position)
  | operator (kind : SetOperation) (left : SetTree)

/-- The set of the items read so far, last item first. -/
def unionOf (first : Position) (items : List SetTree) : SetTree :=
  match items with
  | [] => .empty ⟨first, first⟩
  | [item] => item
  | last :: _ =>
    .union ⟨(items.getLast?.map (·.span.first)).getD first, last.span.last⟩ items.reverse

def unclosedClass {α : Type} (frames : List ClassFrame) : Reader α := do
  match frames.findSome? fun | .opened span .. => some span | .operator .. => none with
  | some span => fail .classUnclosed span
  | none => fail .classUnclosed (← hereSpan)

/-- Completes a set operation that waits for its right side. -/
def closeOperator (right : SetTree) : List ClassFrame → SetTree × List ClassFrame
  | .operator kind left :: frames =>
    (.operation ⟨left.span.first, right.span.last⟩ kind left right, frames)
  | frames => (right, frames)

/-- Reads the hyphens that a bracket may begin with. -/
def leadingHyphens (start : Position) : Nat → List SetTree → Reader (List SetTree)
  | 0, items => return items
  | fuel + 1, items => do
    if (← peek?) == some '-' then
      let item : SetTree := .literal { span := ← charSpan, char := '-' }
      if ← bumpAndBlanks then leadingHyphens start fuel (item :: items)
      else fail .classUnclosed ⟨start, start⟩
    else return items

/-- Reads an opening bracket with its negation, leading hyphens and leading closing bracket.
Answers the stretch of the bracket, its negation and the first items. -/
def openClass : Reader (Span × Bool × Position × List SetTree) := do
  let start ← position
  if !(← bumpAndBlanks) then fail .classUnclosed (← spanFrom start)
  else
    let negated := (← peek?) == some '^'
    let more ← if negated then bumpAndBlanks else pure true
    if !more then fail .classUnclosed (← spanFrom start)
    else
      let first ← position
      let hyphens ← leadingHyphens start (← get).rest.length []
      if hyphens.isEmpty && (← peek?) == some ']' then
        let item : SetTree := .literal { span := ← charSpan, char := ']' }
        if ← bumpAndBlanks then return (← spanFrom start, negated, first, [item])
        else fail .classUnclosed (← spanFrom start)
      else return (← spanFrom start, negated, first, hyphens)

/-- Reads one end of a range or a single item in brackets. -/
def classAtom (c : Char) : Reader Atom := do
  if c == '\\' then escape
  else
    let span ← charSpan
    let _ ← bump
    return .literal { span, char := c }

/-- The item that an atom stands for in brackets. -/
def Atom.toItem : Atom → Reader SetTree
  | .literal written => return .literal written
  | .escaped span kind negated => return .escaped span kind negated
  | .named span name negated => return .named span name negated
  | other => fail .classEscapeInvalid other.span

/-- The character that an atom stands for as the end of a range. -/
def Atom.toLiteral : Atom → Reader Literal
  | .literal written => return written
  | other => fail .classRangeNotLiteral other.span

/-- Reads a range or a single item in brackets; a character is next. -/
def classItem (frames : List ClassFrame) (c : Char) : Reader SetTree := do
  let left ← classAtom c
  bumpBlanks
  match ← peek? with
  | none => unclosedClass frames
  | some '-' =>
    let second ← peekSecond?
    if second == some ']' || second == some '-' then left.toItem
    else if !(← bumpAndBlanks) then unclosedClass frames
    else match ← peek? with
      | none => unclosedClass frames
      | some d =>
        let right ← classAtom d
        let first ← left.toLiteral
        let last ← right.toLiteral
        let span : Span := ⟨left.span.first, right.span.last⟩
        if first.char ≤ last.char then return .range span first last
        else fail .classRangeInvalid span
  | some _ => left.toItem

/-- Reads a bracketed class to its end. `items` are those of the innermost bracket, last first. -/
def classLoop : Nat → List ClassFrame → Position → List SetTree → Reader Tree
  | 0, frames, _, _ => unclosedClass frames
  | fuel + 1, frames, first, items => do
    bumpBlanks
    match ← peek? with
    | none => unclosedClass frames
    | some '[' =>
      match asciiClassAt? (← get).rest with
      | some (length, kind, negated) =>
        let start ← position
        modify fun state => (List.range length).foldl (fun state _ => dropChar state) state
        classLoop fuel frames first (.ascii (← spanFrom start) kind negated :: items)
      | none =>
        let (span, negated, innerFirst, inner) ← openClass
        classLoop fuel (.opened span negated items first :: frames) innerFirst inner
    | some ']' =>
      match closeOperator (unionOf first items) frames with
      | (inside, .opened span negated outer outerFirst :: lower) =>
        let _ ← bump
        let whole ← spanFrom span.first
        if lower.isEmpty then return .bracketed whole negated inside
        else classLoop fuel lower outerFirst (.bracketed whole negated inside :: outer)
      | (_, lower) => unclosedClass lower
    | some c =>
      let operator? : Option SetOperation :=
        if (← peekNext?) == some c then
          match c with
          | '&' => some .intersection
          | '-' => some .difference
          | '~' => some .symmetricDifference
          | _ => none
        else none
      match operator? with
      | some kind =>
        modify fun state => dropChar (dropChar state)
        let (left, lower) := closeOperator (unionOf first items) frames
        classLoop fuel (.operator kind left :: lower) (← position) []
      | none => classLoop fuel frames first ((← classItem frames c) :: items)

/-- Reads a bracketed class; its opening bracket is next. -/
def bracketedClass : Reader Tree := do
  let outer ← position
  let (span, negated, first, items) ← openClass
  classLoop ((← get).rest.length + 1) [.opened span negated [] outer] first items

/-! ## Repetition -/

/-- Moves past white space, and past blanks that are skipped after each of its characters. -/
def bumpSpaces : Nat → Reader Unit
  | 0 => return ()
  | fuel + 1 => do
    match ← peek? with
    | some c =>
      if Unicode.isSpace c.toNat then
        let _ ← bumpAndBlanks
        bumpSpaces fuel
      else return ()
    | none => return ()

def digits : Nat → List Char → Reader (List Char)
  | 0, read => return read.reverse
  | fuel + 1, read => do
    match ← peek? with
    | some c =>
      if c.isDigit then
        let _ ← bumpAndBlanks
        digits fuel (c :: read)
      else return read.reverse
    | none => return read.reverse

/-- A repetition count, or the fault that stands in its place. -/
def count : Reader (Except Fault Nat) := do
  modify fun state =>
    let blanks := state.rest.takeWhile fun c => Unicode.isSpace c.toNat
    blanks.foldl (fun state _ => dropChar state) state
  let first ← position
  let read ← digits (← get).rest.length []
  let span ← spanFrom first
  bumpSpaces (← get).rest.length
  if read.isEmpty then return .error { kind := .repetitionCountNotDecimal, span }
  else
    let value := read.foldl (fun value c => 10 * value + (c.toNat - '0'.toNat)) 0
    if value < Nat.pow 2 32 then return .ok value
    else return .error { kind := .decimalInvalid, span }

/-- The part that a repetition applies to and the parts before it. -/
def repeatable : List Tree → Reader (Tree × List Tree)
  | [] => do fail .repetitionMissing (← hereSpan)
  | .flags .. :: _ => do fail .repetitionMissing (← hereSpan)
  | part :: before => return (part, before)

/-- Reads a repetition sign; answers the parts with the last one repeated. -/
def signRepetition (least : Nat) (most : Option Nat) (parts : List Tree) : Reader (List Tree) := do
  let (part, before) ← repeatable parts
  let more ← bump
  if more && (← peek?) == some '?' then
    let _ ← bump
  return .repetition ⟨part.span.first, ← position⟩ least most part :: before

/-- Reads the bounds of a counted repetition up to its closing brace. -/
def countBounds (start : Position) : Reader (Nat × Option Nat) := do
  let least ← count
  match ← peek? with
  | none => fail .repetitionCountUnclosed (← spanFrom start)
  | some ',' =>
    if !(← bumpAndBlanks) then fail .repetitionCountUnclosed (← spanFrom start)
    else if (← peek?) == some '}' then
      match least with
      | .ok bound => return (bound, none)
      | .error fault => throw fault
    else
      match least with
      | .error fault => throw fault
      | .ok bound =>
        match ← count with
        | .ok most => return (bound, some most)
        | .error fault => throw fault
  | some _ =>
    match least with
    | .ok bound => return (bound, some bound)
    | .error fault => throw fault

/-- Reads a counted repetition; answers the parts with the last one repeated. -/
def countedRepetition (parts : List Tree) : Reader (List Tree) := do
  let start ← position
  let (part, before) ← repeatable parts
  if !(← bumpAndBlanks) then fail .repetitionCountUnclosed (← spanFrom start)
  else
    let (least, most) ← countBounds start
    if (← peek?) != some '}' then fail .repetitionCountUnclosed (← spanFrom start)
    else
      let more ← bumpAndBlanks
      if more && (← peek?) == some '?' then
        let _ ← bump
      let span ← spanFrom start
      if most.any (· < least) then fail .repetitionCountInvalid span
      else return .repetition ⟨part.span.first, span.last⟩ least most part :: before

/-! ## Groups -/

def flag? : Char → Option Flag
  | 'i' => some .caseInsensitive
  | 'm' => some .multiLine
  | 's' => some .dotMatchesNewLine
  | 'U' => some .swapGreed
  | 'u' => some .unicode
  | 'R' => some .anyLineEnd
  | 'x' => some .ignoreWhitespace
  | _ => none

/-- The switches read so far, each with its place; a hyphen is kept as no switch. -/
abbrev FlagItems := List (Span × Option Flag)

def FlagItems.change (items : FlagItems) : FlagChange :=
  { set := (items.takeWhile (·.2.isSome)).filterMap (·.2)
    clear := (items.dropWhile (·.2.isSome)).filterMap (·.2) }

/-- Reads the switches of a group up to the colon or the closing parenthesis. -/
def flagItems : Nat → FlagItems → Reader FlagItems
  | 0, _ => do fail .flagMissing (← hereSpan)
  | fuel + 1, items => do
    match ← peek? with
    | none => fail .flagMissing (← hereSpan)
    | some c =>
      let span ← charSpan
      if c == ':' || c == ')' then
        match items.getLast? with
        | some (last, none) => fail .flagDanglingNegation last
        | _ => return items
      else
        let item ← if c == '-' then pure none else
          match flag? c with
          | some flag => pure (some flag)
          | none => fail .flagUnrecognized span
        match items.find? (·.2 == item) with
        | some (earlier, _) =>
          throw { kind := if item.isNone then .flagRepeatedNegation else .flagDuplicate
                  span, related := some earlier }
        | none =>
          if ← bump then flagItems fuel (items ++ [(span, item)])
          else fail .flagMissing (← hereSpan)

/-- Whether a character may stand in the name of a group. -/
def isNameChar (isFirst : Bool) (c : Char) : Bool :=
  if isFirst then c == '_' || Unicode.isAlphabetic c.toNat
  else c == '_' || c == '.' || c == '[' || c == ']' || Unicode.isAlphanumeric c.toNat

/-- Reads the characters of a group's name, up to the closing angle. -/
def nameChars : Nat → List Char → Reader (List Char)
  | 0, _ => do fail .groupNameUnclosed (← hereSpan)
  | fuel + 1, name => do
    match ← peek? with
    | none => fail .groupNameUnclosed (← hereSpan)
    | some c =>
      if c == '>' then return name.reverse
      else if isNameChar name.isEmpty c then
        let _ ← bump
        nameChars fuel (c :: name)
      else fail .groupNameInvalid (← charSpan)

/-- Reads the name of a group and its closing angle. -/
def groupName : Reader Unit := do
  let first ← position
  let name ← nameChars ((← get).rest.length + 1) []
  let span ← spanFrom first
  let _ ← bump
  if name.isEmpty then fail .groupNameEmpty ⟨first, first⟩
  else match (← get).groupNames.find? (·.1 == name) with
    | some (_, earlier) => throw { kind := .groupNameDuplicate, span, related := some earlier }
    | none => modify fun state => { state with groupNames := state.groupNames ++ [(name, span)] }

inductive GroupHead where
  /-- Switches for the rest of the group around it. -/
  | switches (span : Span) (change : FlagChange)
  /-- A group, with the stretch of its parenthesis. -/
  | opened (span : Span) (change : FlagChange)

/-- Reads an opening parenthesis and what belongs to it. -/
def groupHead : Reader GroupHead := do
  let span ← charSpan
  let _ ← bump
  bumpBlanks
  let inner ← hereSpan
  let captures : GroupHead := .opened span ⟨[], []⟩
  if ← ["?=", "?!", "?<=", "?<!"].anyM bumpIf then fail .lookAround (← spanFrom span.first)
  else if ← bumpIf "?P<" then groupName; return captures
  else if ← bumpIf "?<" then groupName; return captures
  else if ← bumpIf "?" then
    if ← atEnd then fail .groupUnclosed span
    else
      let items ← flagItems ((← get).rest.length + 1) []
      let closing ← peek?
      let _ ← bump
      if closing == some ')' then
        if items.isEmpty then fail .repetitionMissing inner
        else return .switches (← spanFrom span.first) items.change
      else return .opened span items.change
  else return captures

/-- A pattern under way at one depth: finished branches and parts of the current branch, last
first. -/
structure Level where
  /-- The parenthesis around the level and what it changes; absent outside all groups. -/
  group : Option (Span × FlagChange)
  /-- Whether blanks were skipped before the group. -/
  skippedBlanks : Bool
  first : Position
  branches : List Tree
  branchFirst : Position
  parts : List Tree

/-- The current branch of a level as one tree. -/
def Level.branch (level : Level) (last : Position) : Tree :=
  match level.parts with
  | [] => .empty ⟨level.branchFirst, last⟩
  | [part] => part
  | parts => .concat ⟨level.branchFirst, last⟩ parts.reverse

def Level.tree (level : Level) (last : Position) : Tree :=
  if level.branches.isEmpty then level.branch last
  else .alternation ⟨level.first, last⟩ (level.branch last :: level.branches).reverse

/-- A level without parts that begins at a place. -/
def Level.fresh (group : Option (Span × FlagChange)) (skippedBlanks : Bool) (first : Position) :
    Level :=
  { group, skippedBlanks, first, branches := [], branchFirst := first, parts := [] }

/-- The tree that an atom stands for outside brackets. -/
def Atom.toTree : Atom → Tree
  | .literal written => .literal written
  | .dot span => .dot span
  | .anchor span kind => .anchor span kind
  | .named span name negated => .named span name negated
  | .escaped span kind negated => .escaped span kind negated

/-- Reads a pattern to its end. `outer` are the levels around the current one, innermost first. -/
def treeLoop : Nat → Level → List Level → Reader Tree
  | 0, level, _ => return level.tree (← position)
  | fuel + 1, level, outer => do
    bumpBlanks
    match ← peek? with
    | none =>
      match level.group with
      | none => return level.tree (← position)
      | some (span, _) => fail .groupUnclosed span
    | some '(' =>
      match ← groupHead with
      | .switches span change =>
        match change.state? .ignoreWhitespace with
        | some value => modify fun state => { state with skipsBlanks := value }
        | none => pure ()
        treeLoop fuel { level with parts := .flags span change :: level.parts } outer
      | .opened span change =>
        let skipped := (← get).skipsBlanks
        modify fun state =>
          { state with skipsBlanks := (change.state? .ignoreWhitespace).getD skipped }
        treeLoop fuel (.fresh (some (span, change)) skipped (← position)) (level :: outer)
    | some ')' =>
      match level.group, outer with
      | some (span, change), above :: higher =>
        let body := level.tree (← position)
        let _ ← bump
        modify fun state => { state with skipsBlanks := level.skippedBlanks }
        let group := .group (← spanFrom span.first) change body
        treeLoop fuel { above with parts := group :: above.parts } higher
      | _, _ => fail .groupUnopened (← charSpan)
    | some '|' =>
      let branch := level.branch (← position)
      let _ ← bump
      treeLoop fuel
        { level with branches := branch :: level.branches, branchFirst := ← position, parts := [] }
        outer
    | some '[' => do
      let part ← bracketedClass
      treeLoop fuel { level with parts := part :: level.parts } outer
    | some '?' => do
      let parts ← signRepetition 0 (some 1) level.parts
      treeLoop fuel { level with parts } outer
    | some '*' => do
      let parts ← signRepetition 0 none level.parts
      treeLoop fuel { level with parts } outer
    | some '+' => do
      let parts ← signRepetition 1 none level.parts
      treeLoop fuel { level with parts } outer
    | some '{' => do
      let parts ← countedRepetition level.parts
      treeLoop fuel { level with parts } outer
    | some c => do
      let part ← atom c
      treeLoop fuel { level with parts := part.toTree :: level.parts } outer

end Reader

/-! ## Depth -/

/-- How deep groups, brackets, repetitions, sequences and choices may be nested. -/
def nestingLimit : Nat := 250

mutual

def SetTree.checkDepth (depth : Nat) : SetTree → Except Fault Unit
  | .bracketed span _ inside =>
    if depth ≥ nestingLimit then .error { kind := .nestingTooDeep nestingLimit, span }
    else inside.checkDepth (depth + 1)
  | .union span items =>
    if depth ≥ nestingLimit then .error { kind := .nestingTooDeep nestingLimit, span }
    else SetTree.checkDepths (depth + 1) items
  | .operation span _ left right =>
    if depth ≥ nestingLimit then .error { kind := .nestingTooDeep nestingLimit, span }
    else do
      left.checkDepth (depth + 1)
      right.checkDepth (depth + 1)
  | _ => .ok ()

def SetTree.checkDepths (depth : Nat) : List SetTree → Except Fault Unit
  | [] => .ok ()
  | item :: later => do
    item.checkDepth depth
    SetTree.checkDepths depth later

end

mutual

/-- Checks that a pattern is not nested too deep. -/
def Tree.checkDepth (depth : Nat) : Tree → Except Fault Unit
  | .bracketed span _ inside =>
    if depth ≥ nestingLimit then .error { kind := .nestingTooDeep nestingLimit, span }
    else inside.checkDepth (depth + 1)
  | .repetition span _ _ body | .group span _ body =>
    if depth ≥ nestingLimit then .error { kind := .nestingTooDeep nestingLimit, span }
    else body.checkDepth (depth + 1)
  | .alternation span parts | .concat span parts =>
    if depth ≥ nestingLimit then .error { kind := .nestingTooDeep nestingLimit, span }
    else Tree.checkDepths (depth + 1) parts
  | _ => .ok ()

def Tree.checkDepths (depth : Nat) : List Tree → Except Fault Unit
  | [] => .ok ()
  | part :: later => do
    part.checkDepth depth
    Tree.checkDepths depth later

end

/-- The syntax of a pattern, or the first fault in it. -/
def Tree.read (pattern : List Char) : Except Fault Tree := do
  let start : ReadState :=
    { rest := pattern, position := .start, skipsBlanks := false, groupNames := [] }
  let (tree, _) ← (treeLoop (pattern.length + 1) (.fresh none false .start) []).run start
  tree.checkDepth 0
  return tree

end LinkVetting.Pattern
