import LinkVetting.Pattern.Fault

/-!
# Syntax of patterns

A pattern as it is written, with the stretch that each part covers.
-/

namespace LinkVetting.Pattern

structure Literal where
  span : Span
  char : Char
  /-- Written as a backslash, `x` and two hexadecimal digits. -/
  isHexByte : Bool := false
  deriving DecidableEq, Repr

/-- The classes written as a backslash and a letter. -/
inductive EscapedClass where
  | digit
  | space
  | word
  deriving DecidableEq, Repr

inductive AsciiClass where
  | alnum
  | alpha
  | ascii
  | blank
  | cntrl
  | digit
  | graph
  | lower
  | print
  | punct
  | space
  | upper
  | word
  | xdigit
  deriving DecidableEq, Repr

/-- How a class is named in the character database. -/
inductive ClassName where
  | single (name : List Char)
  | withValue (property value : List Char)
  deriving DecidableEq, Repr

inductive SetOperation where
  | intersection
  | difference
  | symmetricDifference
  deriving DecidableEq, Repr

inductive SetTree where
  | empty (span : Span)
  | literal (literal : Literal)
  | range (span : Span) (first last : Literal)
  | ascii (span : Span) (kind : AsciiClass) (negated : Bool)
  | named (span : Span) (name : ClassName) (negated : Bool)
  | escaped (span : Span) (kind : EscapedClass) (negated : Bool)
  | bracketed (span : Span) (negated : Bool) (inside : SetTree)
  | union (span : Span) (items : List SetTree)
  | operation (span : Span) (kind : SetOperation) (left right : SetTree)

def SetTree.span : SetTree → Span
  | .literal written => written.span
  | .empty span | .range span .. | .ascii span .. | .named span .. | .escaped span ..
  | .bracketed span .. | .union span .. | .operation span .. => span

inductive Anchor where
  | lineStart
  | lineEnd
  | textStart
  | textEnd
  | wordEdge
  | notWordEdge
  | wordStart
  | wordEnd
  | wordStartHalf
  | wordEndHalf
  deriving DecidableEq, Repr

inductive Flag where
  | caseInsensitive
  | multiLine
  | dotMatchesNewLine
  | swapGreed
  | unicode
  | anyLineEnd
  | ignoreWhitespace
  deriving DecidableEq, Repr

/-- Switches to set and to clear, as far as they are mentioned. -/
structure FlagChange where
  set : List Flag
  clear : List Flag
  deriving DecidableEq, Repr

/-- The new state of a switch, if the change mentions it. -/
def FlagChange.state? (change : FlagChange) (flag : Flag) : Option Bool :=
  if change.set.contains flag then some true
  else if change.clear.contains flag then some false
  else none

inductive Tree where
  | empty (span : Span)
  | flags (span : Span) (change : FlagChange)
  | literal (literal : Literal)
  | dot (span : Span)
  | anchor (span : Span) (kind : Anchor)
  | named (span : Span) (name : ClassName) (negated : Bool)
  | escaped (span : Span) (kind : EscapedClass) (negated : Bool)
  | bracketed (span : Span) (negated : Bool) (inside : SetTree)
  | repetition (span : Span) (least : Nat) (most : Option Nat) (body : Tree)
  /-- A group; one that captures changes no flags. -/
  | group (span : Span) (change : FlagChange) (body : Tree)
  | alternation (span : Span) (branches : List Tree)
  | concat (span : Span) (parts : List Tree)

def Tree.span : Tree → Span
  | .literal written => written.span
  | .empty span | .flags span _ | .dot span | .anchor span _ | .named span .. | .escaped span ..
  | .bracketed span .. | .repetition span .. | .group span .. | .alternation span _
  | .concat span _ => span

end LinkVetting.Pattern
