import LinkVetting.Yaml.Fault

/-!
# Tokens

A text is a sequence of tokens: marks of structure, names, tags and scalars. The structure of
blocks, which a text shows by indentation, is made explicit by tokens of its own.
-/

namespace LinkVetting.Yaml

inductive Style where
  | plain
  | singleQuoted
  | doubleQuoted
  | literal
  | folded
  deriving DecidableEq, Repr

/-- A tag as it is written: a handle, which stands for some text, and the text after it. -/
structure WrittenTag where
  handle : List UInt8
  name : List UInt8
  deriving DecidableEq, Repr

inductive TokenKind where
  | streamEnd
  | version (major minor : Nat)
  /-- A handle and the text for which it is to stand. -/
  | handle (handle text : List UInt8)
  | documentStart
  | documentEnd
  | blockSequenceStart
  | blockMappingStart
  | blockEnd
  | flowSequenceStart
  | flowSequenceEnd
  | flowMappingStart
  | flowMappingEnd
  | blockEntry
  | flowEntry
  | key
  | value
  | alias (name : List Char)
  | anchor (name : List Char)
  | tag (tag : WrittenTag)
  | scalar (text : List Char) (style : Style)
  deriving DecidableEq, Repr

/-- A token with the place where it begins and the place after it. -/
structure Token where
  kind : TokenKind
  start : Mark
  stop : Mark
  deriving DecidableEq, Repr

def Token.isOneOf (token : Token) (kinds : List TokenKind) : Bool := kinds.contains token.kind

end LinkVetting.Yaml
