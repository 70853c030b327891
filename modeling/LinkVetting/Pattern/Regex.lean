import LinkVetting.Unicode.Category

/-!
# Regular expressions with boundaries

A regular expression reads a stretch of a text in its place: `Matches r before word after` holds
when `r` reads `word` between `before` and `after`. The place matters to boundaries alone, and
these look at one character on each side.
-/

namespace LinkVetting.Pattern

inductive WordKind where
  | unicode
  | ascii
  deriving DecidableEq, Repr

def WordKind.has : WordKind → Char → Bool
  | .unicode, c => Unicode.isWord c.toNat
  | .ascii, c => Unicode.isAsciiWord c.toNat

inductive Boundary where
  | textStart
  | textEnd
  /-- After a line feed or at the start. -/
  | lineStart
  /-- Before a line feed or at the end. -/
  | lineEnd
  /-- After a carriage return, a line feed or both, never between the two. -/
  | anyLineStart
  /-- Before a carriage return, a line feed or both, never between the two. -/
  | anyLineEnd
  | wordEdge (kind : WordKind)
  | notWordEdge (kind : WordKind)
  | wordStart (kind : WordKind)
  | wordEnd (kind : WordKind)
  /-- Not after a word character. -/
  | wordStartHalf (kind : WordKind)
  /-- Not before a word character. -/
  | wordEndHalf (kind : WordKind)
  deriving DecidableEq, Repr

def Boundary.holds : Boundary → Option Char → Option Char → Bool
  | .textStart, previous, _ => previous.isNone
  | .textEnd, _, next => next.isNone
  | .lineStart, previous, _ => previous.all (· == '\n')
  | .lineEnd, _, next => next.all (· == '\n')
  | .anyLineStart, previous, next =>
    previous.all fun c => c == '\n' || (c == '\r' && next != some '\n')
  | .anyLineEnd, previous, next =>
    next.all fun c => c == '\r' || (c == '\n' && previous != some '\r')
  | .wordEdge kind, previous, next => previous.any kind.has != next.any kind.has
  | .notWordEdge kind, previous, next => previous.any kind.has == next.any kind.has
  | .wordStart kind, previous, next => !previous.any kind.has && next.any kind.has
  | .wordEnd kind, previous, next => previous.any kind.has && !next.any kind.has
  | .wordStartHalf kind, previous, _ => !previous.any kind.has
  | .wordEndHalf kind, _, next => !next.any kind.has

inductive Regex where
  | never
  | empty
  | boundary (condition : Boundary)
  | set (members : Char → Bool)
  | seq (first second : Regex)
  | either (left right : Regex)
  | star (body : Regex)

/-- `Matches r before word after`: the expression reads `word` where `before` stands to the left
and `after` to the right of it. -/
inductive Matches : Regex → List Char → List Char → List Char → Prop where
  | empty {before after : List Char} : Matches .empty before [] after
  | boundary {condition : Boundary} {before after : List Char} :
      condition.holds before.getLast? after.head? = true →
      Matches (.boundary condition) before [] after
  | set {members : Char → Bool} {c : Char} {before after : List Char} :
      members c = true → Matches (.set members) before [c] after
  | seq {first second : Regex} {before front back after : List Char} :
      Matches first before front (back ++ after) →
      Matches second (before ++ front) back after →
      Matches (.seq first second) before (front ++ back) after
  | left {left right : Regex} {before word after : List Char} :
      Matches left before word after → Matches (.either left right) before word after
  | right {left right : Regex} {before word after : List Char} :
      Matches right before word after → Matches (.either left right) before word after
  | done {body : Regex} {before after : List Char} : Matches (.star body) before [] after
  | again {body : Regex} {before front back after : List Char} :
      Matches body before front (back ++ after) →
      Matches (.star body) (before ++ front) back after →
      Matches (.star body) before (front ++ back) after

/-- A text contains a stretch that the expression reads. -/
def OccursIn (r : Regex) (text : List Char) : Prop :=
  ∃ before word after, text = before ++ word ++ after ∧ Matches r before word after

namespace Regex

def sequence : List Regex → Regex
  | [] => .empty
  | [r] => r
  | r :: later => .seq r (sequence later)

def choice : List Regex → Regex
  | [] => .never
  | [r] => r
  | r :: later => .either r (choice later)

def times (r : Regex) : Nat → Regex
  | 0 => .empty
  | 1 => r
  | n + 1 => .seq r (times r n)

/-- An expression at most a given number of times. -/
def atMost (r : Regex) : Nat → Regex
  | 0 => .empty
  | n + 1 => .either .empty (.seq r (atMost r n))

/-- An expression at least a given number of times. -/
def atLeast (r : Regex) : Nat → Regex
  | 0 => .star r
  | n + 1 => .seq r (atLeast r n)

/-- An expression as often as two bounds allow; a missing upper bound allows any number. -/
def repeated (r : Regex) (least : Nat) : Option Nat → Regex
  | none => atLeast r least
  | some most => .seq (times r least) (atMost r (most - least))

end Regex

end LinkVetting.Pattern
