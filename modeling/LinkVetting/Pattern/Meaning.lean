import LinkVetting.Pattern.Matcher
import LinkVetting.Pattern.Reader
import LinkVetting.Pattern.Size
import LinkVetting.Unicode.CaseFold
import LinkVetting.Unicode.Named

/-!
# Meaning of patterns

The switches of a pattern decide what its parts stand for. `Tree.meaning` gives the regular
expression of a tree under given switches, together with the switches that hold after it.

With Unicode switched off, classes range over bytes. Since texts hold whole characters, a class
that would read a byte outside ASCII is a fault.
-/

namespace LinkVetting.Pattern

/-- The state of the switches that change what a pattern stands for. -/
structure Switches where
  caseInsensitive : Bool := false
  multiLine : Bool := false
  dotMatchesNewLine : Bool := false
  unicode : Bool := true
  anyLineEnd : Bool := false
  deriving DecidableEq, Repr

def Switches.apply (switches : Switches) (change : FlagChange) : Switches where
  caseInsensitive := (change.state? .caseInsensitive).getD switches.caseInsensitive
  multiLine := (change.state? .multiLine).getD switches.multiLine
  dotMatchesNewLine := (change.state? .dotMatchesNewLine).getD switches.dotMatchesNewLine
  unicode := (change.state? .unicode).getD switches.unicode
  anyLineEnd := (change.state? .anyLineEnd).getD switches.anyLineEnd

abbrev CodeSet := Nat → Bool

namespace CodeSet

def ofList (codes : List Nat) : CodeSet := fun code => codes.contains code

def between (first last : Nat) : CodeSet := fun code => first ≤ code && code ≤ last

def union (left right : CodeSet) : CodeSet := fun code => left code || right code

def complement (set : CodeSet) : CodeSet := fun code => !set code

/-- The codes in one set or the other, as an operation says. -/
def combine (kind : SetOperation) (left right : CodeSet) : CodeSet := fun code =>
  match kind with
  | .intersection => left code && right code
  | .difference => left code && !right code
  | .symmetricDifference => left code != right code

/-- The other case of an ASCII letter. -/
def otherAsciiCase (code : Nat) : Nat :=
  if 0x41 ≤ code && code ≤ 0x5A then code + 0x20
  else if 0x61 ≤ code && code ≤ 0x7A then code - 0x20
  else code

/-- The codes that have a case variant in a set. -/
def caseless (switches : Switches) (set : CodeSet) : CodeSet :=
  if !switches.caseInsensitive then set
  else if switches.unicode then fun code => (Unicode.caseVariants code).any set
  else fun code => set code || set (otherAsciiCase code)

def isAscii (set : CodeSet) : Bool := (List.range 128).all fun offset => !set (128 + offset)

/-- Applies case variants and then negation. A set of bytes must stay within ASCII. -/
def finish (switches : Switches) (span : Span) (negated : Bool) (set : CodeSet) :
    Except Fault CodeSet :=
  let folded := caseless switches set
  let result := if negated then complement folded else folded
  if switches.unicode || isAscii result then .ok result
  else .error { kind := .invalidUtf8, span }

end CodeSet

def AsciiClass.members : AsciiClass → CodeSet
  | .alnum => fun code => Unicode.isAsciiWord code && code != 0x5F
  | .alpha => fun code => Unicode.isAsciiWord code && code != 0x5F && code > 0x39
  | .ascii => fun code => code < 0x80
  | .blank => .ofList [0x09, 0x20]
  | .cntrl => fun code => code < 0x20 || code == 0x7F
  | .digit => .between 0x30 0x39
  | .graph => .between 0x21 0x7E
  | .lower => .between 0x61 0x7A
  | .print => .between 0x20 0x7E
  | .punct => fun code => 0x21 ≤ code && code ≤ 0x7E && !(Unicode.isAsciiWord code && code != 0x5F)
  | .space => fun code => (0x09 ≤ code && code ≤ 0x0D) || code == 0x20
  | .upper => .between 0x41 0x5A
  | .word => Unicode.isAsciiWord
  | .xdigit => fun code =>
    (0x30 ≤ code && code ≤ 0x39) || (0x41 ≤ code && code ≤ 0x46) || (0x61 ≤ code && code ≤ 0x66)

def EscapedClass.members (switches : Switches) (span : Span) (kind : EscapedClass)
    (negated : Bool) : Except Fault CodeSet :=
  if switches.unicode then
    let set : CodeSet := match kind with
      | .digit => Unicode.isDigit
      | .space => Unicode.isSpace
      | .word => Unicode.isWord
    .ok (if negated then set.complement else set)
  else
    let set : CodeSet := match kind with
      | .digit => AsciiClass.members .digit
      | .space => AsciiClass.members .space
      | .word => AsciiClass.members .word
    if negated then .error { kind := .invalidUtf8, span } else .ok set

def ClassName.members (switches : Switches) (span : Span) (name : ClassName) (negated : Bool) :
    Except Fault CodeSet :=
  if !switches.unicode then .error { kind := .unicodeNotAllowed, span }
  else
    let members? := match name with
      | .single text => Unicode.classNamed text
      | .withValue property value => Unicode.classWithValue property value
    match members? with
    | .ok set => CodeSet.finish switches span negated set
    | .error .noSuchProperty => .error { kind := .propertyNotFound, span }
    | .error .noSuchValue => .error { kind := .propertyValueNotFound, span }

/-- The code that a literal stands for inside brackets. -/
def Literal.code (switches : Switches) (literal : Literal) : Except Fault Nat :=
  let code := literal.char.toNat
  if switches.unicode || code < 0x80 then .ok code
  else if literal.isHexByte then .error { kind := .invalidUtf8, span := literal.span }
  else .error { kind := .unicodeNotAllowed, span := literal.span }

mutual

def SetTree.members (switches : Switches) : SetTree → Except Fault CodeSet
  | .empty _ => .ok fun _ => false
  | .literal written => do
    let code ← written.code switches
    return CodeSet.ofList [code]
  | .range _ first last => do
    let low ← first.code switches
    let high ← last.code switches
    return CodeSet.between low high
  | .ascii span kind negated => CodeSet.finish switches span negated kind.members
  | .named span name negated => name.members switches span negated
  | .escaped span kind negated => kind.members switches span negated
  | .bracketed span negated inside => do
    let set ← inside.members switches
    CodeSet.finish switches span negated set
  | .union _ items => SetTree.unionMembers switches items
  | .operation _ kind left right => do
    let leftSet ← left.members switches
    let rightSet ← right.members switches
    return CodeSet.combine kind (leftSet.caseless switches) (rightSet.caseless switches)

def SetTree.unionMembers (switches : Switches) : List SetTree → Except Fault CodeSet
  | [] => .ok fun _ => false
  | [item] => item.members switches
  | item :: later => do
    let set ← item.members switches
    let others ← SetTree.unionMembers switches later
    return CodeSet.union set others

end

/-- The expression that reads one character of a set. -/
def Regex.ofCodes (set : CodeSet) : Regex := .set fun c => set c.toNat

def Literal.codes (switches : Switches) (literal : Literal) : Except Fault (List Nat) :=
  let code := literal.char.toNat
  if !switches.unicode && literal.isHexByte && code > 0x7F then
    .error { kind := .invalidUtf8, span := literal.span }
  else if !switches.caseInsensitive then .ok [code]
  else if switches.unicode then .ok (Unicode.caseVariants code)
  else .ok [code, CodeSet.otherAsciiCase code]

def Anchor.boundary (switches : Switches) (anchor : Anchor) : Boundary :=
  let words : WordKind := if switches.unicode then .unicode else .ascii
  match anchor with
  | .lineStart =>
    if !switches.multiLine then .textStart
    else if switches.anyLineEnd then .anyLineStart else .lineStart
  | .lineEnd =>
    if !switches.multiLine then .textEnd
    else if switches.anyLineEnd then .anyLineEnd else .lineEnd
  | .textStart => .textStart
  | .textEnd => .textEnd
  | .wordEdge => .wordEdge words
  | .notWordEdge => .notWordEdge words
  | .wordStart => .wordStart words
  | .wordEnd => .wordEnd words
  | .wordStartHalf => .wordStartHalf words
  | .wordEndHalf => .wordEndHalf words

def dotMembers (switches : Switches) (c : Char) : Bool :=
  switches.dotMatchesNewLine || (c != '\n' && !(switches.anyLineEnd && c == '\r'))

mutual

/-- The expression of a pattern under given switches, and the switches after it. -/
def Tree.meaning (switches : Switches) : Tree → Except Fault (Regex × Switches)
  | .empty _ => .ok (.empty, switches)
  | .flags _ change => .ok (.empty, switches.apply change)
  | .literal written => do
    let codes ← written.codes switches
    return (.ofCodes (.ofList codes), switches)
  | .dot span =>
    if switches.unicode then .ok (.set (dotMembers switches), switches)
    else .error { kind := .invalidUtf8, span }
  | .anchor _ kind => .ok (.boundary (kind.boundary switches), switches)
  | .named span name negated => do
    let set ← name.members switches span negated
    return (.ofCodes set, switches)
  | .escaped span kind negated => do
    let set ← kind.members switches span negated
    return (.ofCodes set, switches)
  | .bracketed span negated inside => do
    let set ← inside.members switches
    let finished ← CodeSet.finish switches span negated set
    return (.ofCodes finished, switches)
  | .repetition _ least most body => do
    let (inside, after) ← body.meaning switches
    if body.isWidthless then return (inside.repeated (min least 1) (some 1), after)
    else return (inside.repeated least most, after)
  | .group _ change body => do
    let (inside, _) ← body.meaning (switches.apply change)
    return (inside, switches)
  | .alternation _ branches => do
    let (parts, after) ← Tree.meanings switches branches
    return (Regex.choice parts, after)
  | .concat _ parts => do
    let (expressions, after) ← Tree.meanings switches parts
    return (Regex.sequence expressions, after)

/-- The expressions of several patterns, each under the switches that the one before left. -/
def Tree.meanings (switches : Switches) : List Tree → Except Fault (List Regex × Switches)
  | [] => .ok ([], switches)
  | tree :: later => do
    let (first, between) ← tree.meaning switches
    let (others, after) ← Tree.meanings between later
    return (first :: others, after)

end

/-- The regular expression of a pattern, or the first fault in it. -/
def Regex.ofPattern (pattern : List Char) (tooLarge : SizeCheck := SizeCheck.estimated) :
    Except Fault Regex := do
  let tree ← Tree.read pattern
  if tooLarge tree then
    let _ ← tree.uncounted.meaning {}
    .error { kind := .tooLarge sizeLimit, span := tree.span }
  else
    let (expression, _) ← tree.meaning {}
    return expression

end LinkVetting.Pattern
