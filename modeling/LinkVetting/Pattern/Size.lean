import LinkVetting.Pattern.Syntax
import LinkVetting.Text.Utf8

/-!
# Sizes of patterns

Counted repetitions are spelled out, so a short pattern can stand for a very large expression. A
pattern that is too large is refused. How large it is depends on how its automaton is built, so
the check is left open wherever patterns are compiled.

The check that is used if no other is given estimates the bytes that an expression takes as an
automaton over bytes: so many for each state, each transition of a set, and each branch. It is
rough near the limit, where it does not count what the folding of letters adds.

A part that reads no characters counts once, however often it is repeated.
-/

namespace LinkVetting.Pattern

/-- The greatest size of a pattern. -/
def sizeLimit : Nat := 10485760

/-- The size of a state. -/
def stateSize : Nat := 32

/-- The size of a transition in a set. -/
def transitionSize : Nat := 8

/-- The size of a branch. -/
def branchSize : Nat := 4

/-- The size of a set with a number of transitions. -/
def setSize (transitions : Nat) : Nat := 2 * stateSize + transitions * transitionSize

/-- The size of a set of nearly all characters. -/
def broadSize : Nat := 1000

/-- The size of an escaped class. The word characters are spread over the most ranges. -/
def EscapedClass.size : EscapedClass → Nat
  | .digit => 5500
  | .space => 700
  | .word => 46000

/-- The size of a class of the character database. -/
def namedSize : Nat := 20000

/-- The size of a character. -/
def Literal.size (literal : Literal) : Nat :=
  stateSize * (Text.Utf8.encodeChar literal.char).length

mutual

def SetTree.size : SetTree → Nat
  | .empty _ => 0
  | .literal written => if written.char.toNat < 0x80 then transitionSize else written.size
  | .range _ _ last => if last.char.toNat < 0x80 then transitionSize else broadSize
  | .ascii _ _ negated => if negated then broadSize else 4 * transitionSize
  | .named .. => namedSize
  | .escaped _ kind _ => kind.size
  | .bracketed _ negated inside => inside.size + if negated then broadSize else 0
  | .union _ items => SetTree.unionSize items
  | .operation _ _ left right => left.size + right.size

def SetTree.unionSize : List SetTree → Nat
  | [] => 0
  | item :: later => item.size + SetTree.unionSize later

end

/-- The size of a part that is repeated. -/
def repeatedSize (least : Nat) (most : Option Nat) (body : Nat) : Nat :=
  match most with
  | none => max least 1 * body + stateSize + 2 * branchSize
  | some most => least * body + (most - least) * (body + stateSize + 2 * branchSize) + stateSize

mutual

/-- Whether a pattern reads no character, wherever it matches. -/
def Tree.isWidthless : Tree → Bool
  | .empty _ | .flags .. | .anchor .. => true
  | .literal _ | .dot _ | .named .. | .escaped .. | .bracketed .. => false
  | .repetition _ _ most body => most == some 0 || body.isWidthless
  | .group _ _ body => body.isWidthless
  | .alternation _ branches => Tree.areWidthless branches
  | .concat _ parts => Tree.areWidthless parts

def Tree.areWidthless : List Tree → Bool
  | [] => true
  | tree :: later => tree.isWidthless && Tree.areWidthless later

end

mutual

def Tree.size : Tree → Nat
  | .empty _ | .flags .. | .anchor .. => stateSize
  | .literal written => written.size
  | .dot _ => broadSize
  | .named .. => namedSize
  | .escaped _ kind _ => kind.size
  | .bracketed _ negated inside => setSize 0 + inside.size + if negated then broadSize else 0
  | .repetition _ least most body =>
    if body.isWidthless then stateSize else repeatedSize least most body.size
  | .group _ _ body => body.size
  | .alternation _ branches => 2 * stateSize + branches.length * branchSize + Tree.sizes branches
  | .concat _ parts => Tree.sizes parts

def Tree.sizes : List Tree → Nat
  | [] => 0
  | tree :: later => tree.size + Tree.sizes later

end

/-- Tells whether a pattern is too large to be compiled. -/
abbrev SizeCheck := Tree → Bool

namespace SizeCheck

/-- The check by the estimated size. -/
def estimated : SizeCheck := fun tree => tree.size > sizeLimit

end SizeCheck

mutual

/-- The pattern with every part once in place of a counted number of times. -/
def Tree.uncounted : Tree → Tree
  | .repetition span _ _ body => .repetition span 1 (some 1) body.uncounted
  | .group span change body => .group span change body.uncounted
  | .alternation span branches => .alternation span (Tree.allUncounted branches)
  | .concat span parts => .concat span (Tree.allUncounted parts)
  | tree => tree

def Tree.allUncounted : List Tree → List Tree
  | [] => []
  | tree :: later => tree.uncounted :: Tree.allUncounted later

end

end LinkVetting.Pattern
