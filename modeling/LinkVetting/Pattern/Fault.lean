import LinkVetting.Text.Lines

/-!
# Faults in patterns

A fault is a cause and the stretch of the pattern it was found at. `Fault.message` shows the
pattern with carets under the stretch; a pattern of several lines is shown with line numbers
between two rules.
-/

namespace LinkVetting.Pattern

/-- A place in a pattern; lines and columns count from one. -/
structure Position where
  line : Nat
  column : Nat
  deriving DecidableEq, Repr

def Position.start : Position := ⟨1, 1⟩

def Position.after (position : Position) (c : Char) : Position :=
  if c == '\n' then ⟨position.line + 1, 1⟩ else ⟨position.line, position.column + 1⟩

def Position.precedes (a b : Position) : Bool :=
  a.line < b.line || (a.line == b.line && a.column < b.column)

/-- A stretch of a pattern, from its first place up to the place after it. -/
structure Span where
  first : Position
  last : Position
  deriving DecidableEq, Repr

/-- Reading order by the first place, then by the last. -/
def Span.precedes (a b : Span) : Bool :=
  a.first.precedes b.first || (a.first == b.first && a.last.precedes b.last)

inductive FaultKind where
  | classEscapeInvalid
  | classRangeInvalid
  | classRangeNotLiteral
  | classUnclosed
  | decimalEmpty
  | decimalInvalid
  | hexEmpty
  | hexInvalid
  | hexInvalidDigit
  | escapeIncomplete
  | escapeUnrecognized
  | flagDanglingNegation
  | flagDuplicate
  | flagRepeatedNegation
  | flagMissing
  | flagUnrecognized
  | groupNameDuplicate
  | groupNameEmpty
  | groupNameInvalid
  | groupNameUnclosed
  | groupUnclosed
  | groupUnopened
  | nestingTooDeep (limit : Nat)
  | repetitionCountInvalid
  | repetitionCountNotDecimal
  | repetitionCountUnclosed
  | repetitionMissing
  | wordEdgeUnclosed
  | wordEdgeUnrecognized
  | wordEdgeOrCountUnclosed
  | unicodeClassInvalid
  | backreference
  | lookAround
  | unicodeNotAllowed
  | invalidUtf8
  | propertyNotFound
  | propertyValueNotFound
  | tooLarge (limit : Nat)
  deriving DecidableEq, Repr

def FaultKind.message : FaultKind → String
  | .classEscapeInvalid => "invalid escape sequence found in character class"
  | .classRangeInvalid => "invalid character class range, the start must be <= the end"
  | .classRangeNotLiteral => "invalid range boundary, must be a literal"
  | .classUnclosed => "unclosed character class"
  | .decimalEmpty => "decimal literal empty"
  | .decimalInvalid => "decimal literal invalid"
  | .hexEmpty => "hexadecimal literal empty"
  | .hexInvalid => "hexadecimal literal is not a Unicode scalar value"
  | .hexInvalidDigit => "invalid hexadecimal digit"
  | .escapeIncomplete => "incomplete escape sequence, reached end of pattern prematurely"
  | .escapeUnrecognized => "unrecognized escape sequence"
  | .flagDanglingNegation => "dangling flag negation operator"
  | .flagDuplicate => "duplicate flag"
  | .flagRepeatedNegation => "flag negation operator repeated"
  | .flagMissing => "expected flag but got end of regex"
  | .flagUnrecognized => "unrecognized flag"
  | .groupNameDuplicate => "duplicate capture group name"
  | .groupNameEmpty => "empty capture group name"
  | .groupNameInvalid => "invalid capture group character"
  | .groupNameUnclosed => "unclosed capture group name"
  | .groupUnclosed => "unclosed group"
  | .groupUnopened => "unopened group"
  | .nestingTooDeep limit =>
    s!"exceed the maximum number of nested parentheses/brackets ({limit})"
  | .repetitionCountInvalid =>
    "invalid repetition count range, the start must be <= the end"
  | .repetitionCountNotDecimal => "repetition quantifier expects a valid decimal"
  | .repetitionCountUnclosed => "unclosed counted repetition"
  | .repetitionMissing => "repetition operator missing expression"
  | .wordEdgeUnclosed =>
    "special word boundary assertion is either unclosed or contains an invalid character"
  | .wordEdgeUnrecognized =>
    "unrecognized special word boundary assertion, valid choices are: " ++
      "start, end, start-half or end-half"
  | .wordEdgeOrCountUnclosed =>
    "found either the beginning of a special word boundary or a bounded repetition on a " ++
      "\\b with an opening brace, but no closing brace"
  | .unicodeClassInvalid => "invalid Unicode character class"
  | .backreference => "backreferences are not supported"
  | .lookAround => "look-around, including look-ahead and look-behind, is not supported"
  | .unicodeNotAllowed => "Unicode not allowed here"
  | .invalidUtf8 => "pattern can match invalid UTF-8"
  | .propertyNotFound => "Unicode property not found"
  | .propertyValueNotFound => "Unicode property value not found"
  | .tooLarge limit => s!"Compiled regex exceeds size limit of {limit} bytes."

/-- A fault, where it is, and an earlier stretch that it refers to. -/
structure Fault where
  kind : FaultKind
  span : Span
  related : Option Span := none
  deriving DecidableEq, Repr

namespace Fault

/-- The stretches of a fault that are shown, in reading order. -/
def shownSpans (fault : Fault) : List Span :=
  match fault.related with
  | none => [fault.span]
  | some other =>
    if other.precedes fault.span then [other, fault.span] else [fault.span, other]

/-- The line of carets under a line of the pattern, indented by `margin`. -/
def carets (margin : Nat) (spans : List Span) : List Char :=
  let mark (shown : List Char) (span : Span) : List Char :=
    shown ++ List.replicate (span.first.column - 1 - shown.length) ' ' ++
      List.replicate (max 1 (span.last.column - span.first.column)) '^'
  List.replicate margin ' ' ++ spans.foldl mark []

/-- The number of digits of a line number. -/
def digitCount (n : Nat) : Nat := (Nat.repr n).length

/-- The pattern with carets under the stretches that stay in one line. -/
def notate (fault : Fault) (pattern : List Char) : List Char :=
  let lines := Text.lines '\n' '\r' pattern
  let count := lines.length + (if pattern.getLast? == some '\n' then 1 else 0)
  let width := if count ≤ 1 then 0 else digitCount count
  let margin := if width == 0 then 4 else width + 2
  let label (number : Nat) : List Char :=
    if width == 0 then "    ".toList
    else List.replicate (width - digitCount number) ' ' ++ (Nat.repr number).toList ++ ": ".toList
  let notateLine (entry : List Char × Nat) : List Char :=
    let number := entry.2 + 1
    let spans := fault.shownSpans.filter fun span =>
      span.first.line == span.last.line && span.first.line == number
    label number ++ entry.1 ++ ['\n'] ++
      (if spans.isEmpty then [] else carets margin spans ++ ['\n'])
  (lines.zipIdx.map notateLine).flatten

/-- Whether a fault has a place in the pattern. -/
def hasPlace (fault : Fault) : Bool :=
  match fault.kind with
  | .tooLarge _ => false
  | _ => true

/-- The text of a fault in a pattern. -/
def message (fault : Fault) (pattern : List Char) : String :=
  if !fault.hasPlace then fault.kind.message else
  let notated := String.ofList (fault.notate pattern)
  if pattern.contains '\n' then
    let rule := String.ofList (List.replicate 79 '~') ++ "\n"
    let far := fault.shownSpans.filter fun span => span.first.line != span.last.line
    let note (span : Span) : String :=
      s!"on line {span.first.line} (column {span.first.column}) " ++
        s!"through line {span.last.line} (column {span.last.column - 1})"
    let notes := if far.isEmpty then "" else "\n".intercalate (far.map note) ++ "\n"
    "regex parse error:\n" ++ rule ++ notated ++ rule ++ notes ++ "error: " ++ fault.kind.message
  else
    "regex parse error:\n" ++ notated ++ "error: " ++ fault.kind.message

end Fault

end LinkVetting.Pattern
