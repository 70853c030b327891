import LinkVetting.Json.Printer
import LinkVetting.Text.Quoted

/-!
# Faults in YAML texts

A text can hold a character that no text may hold, be malformed, or be well-formed and not fit what
is asked for. A malformed text is refused at a mark, often together with the construct that was
being read there. Marks count characters, lines and columns from zero and are shown counted from
one; the very beginning of a text is never shown.
-/

namespace LinkVetting.Yaml

structure Mark where
  /-- The number of characters before the place. -/
  index : Nat := 0
  /-- The number of line breaks before the place. -/
  line : Nat := 0
  /-- The number of characters before the place in its line. -/
  column : Nat := 0
  deriving DecidableEq, Repr

namespace Mark

/-- Whether a place is the beginning of the text. -/
def isBeginning (mark : Mark) : Bool := mark.line == 0 && mark.column == 0

/-- Whether two places are the same as far as can be shown. -/
def looksLike (mark other : Mark) : Bool := mark.line == other.line && mark.column == other.column

/-- The place as the end of a message. -/
def ending (mark : Mark) : String :=
  if mark.isBeginning then "" else s!" at line {mark.line + 1} column {mark.column + 1}"

end Mark

inductive Problem where
  | colonMissing
  | sequenceEntryNotAllowed
  | keyNotAllowed
  | valueNotAllowed
  | tokenStartUnknown
  | directiveNameMissing
  | directiveNameInvalid
  | directiveUnknown
  | lineNotEnded
  | versionMissing
  | versionTooLong
  | versionNotParted
  | versionTwice
  | versionUnsupported
  | handleNotBegun
  | handleNotParted
  | handleTwice
  | handleUndefined
  | anchorNameInvalid
  | tagNotEnded
  | tagNotParted
  | tagMissing
  | escapedByteInvalid
  | leadingByteInvalid
  | trailingByteInvalid
  | indentationZero
  | indentationTab
  | plainTab
  | plainColon
  | documentMarker
  | streamEnd
  | escapeUnknown
  | hexExpected
  | codeInvalid
  | documentStartMissing
  | contentMissing
  | entryMissing
  | keyMissing
  | sequenceEndMissing
  | mappingEndMissing
  deriving DecidableEq, Repr

def Problem.message : Problem → String
  | .colonMissing => "could not find expected ':'"
  | .sequenceEntryNotAllowed => "block sequence entries are not allowed in this context"
  | .keyNotAllowed => "mapping keys are not allowed in this context"
  | .valueNotAllowed => "mapping values are not allowed in this context"
  | .tokenStartUnknown => "found character that cannot start any token"
  | .directiveNameMissing => "could not find expected directive name"
  | .directiveNameInvalid => "found unexpected non-alphabetical character"
  | .directiveUnknown => "found unknown directive name"
  | .lineNotEnded => "did not find expected comment or line break"
  | .versionMissing => "did not find expected version number"
  | .versionTooLong => "found extremely long version number"
  | .versionNotParted => "did not find expected digit or '.' character"
  | .versionTwice => "found duplicate %YAML directive"
  | .versionUnsupported => "found incompatible YAML document"
  | .handleNotBegun => "did not find expected '!'"
  | .handleNotParted => "did not find expected whitespace"
  | .handleTwice => "found duplicate %TAG directive"
  | .handleUndefined => "found undefined tag handle"
  | .anchorNameInvalid => "did not find expected alphabetic or numeric character"
  | .tagNotEnded => "did not find the expected '>'"
  | .tagNotParted => "did not find expected whitespace or line break"
  | .tagMissing => "did not find expected tag URI"
  | .escapedByteInvalid => "did not find URI escaped octet"
  | .leadingByteInvalid => "found an incorrect leading UTF-8 octet"
  | .trailingByteInvalid => "found an incorrect trailing UTF-8 octet"
  | .indentationZero => "found an indentation indicator equal to 0"
  | .indentationTab => "found a tab character where an indentation space is expected"
  | .plainTab => "found a tab character that violates indentation"
  | .plainColon => "found unexpected ':'"
  | .documentMarker => "found unexpected document indicator"
  | .streamEnd => "found unexpected end of stream"
  | .escapeUnknown => "found unknown escape character"
  | .hexExpected => "did not find expected hexdecimal number"
  | .codeInvalid => "found invalid Unicode character escape code"
  | .documentStartMissing => "did not find expected <document start>"
  | .contentMissing => "did not find expected node content"
  | .entryMissing => "did not find expected '-' indicator"
  | .keyMissing => "did not find expected key"
  | .sequenceEndMissing => "did not find expected ',' or ']'"
  | .mappingEndMissing => "did not find expected ',' or '\x7d'"

/-- The construct that was being read when a problem was met. -/
inductive Construct where
  | simpleKey
  | nextToken
  | directive
  | versionDirective
  | handleDirective
  | handleInDirective
  | endOfHandleInDirective
  | replacementInDirective
  | anchor
  | alias
  | tag
  | tagText
  | blockScalar
  | quotedScalar
  | escapeSequence
  | plainScalar
  | node
  | blockNode
  | flowNode
  | blockSequence
  | blockMapping
  | flowSequence
  | flowMapping
  deriving DecidableEq, Repr

def Construct.message : Construct → String
  | .simpleKey => "while scanning a simple key"
  | .nextToken => "while scanning for the next token"
  | .directive => "while scanning a directive"
  | .versionDirective => "while scanning a %YAML directive"
  | .handleDirective => "while scanning a %TAG directive"
  | .handleInDirective => "while scanning a tag directive"
  | .endOfHandleInDirective => "while parsing a tag directive"
  | .replacementInDirective => "while parsing a %TAG directive"
  | .anchor => "while scanning an anchor"
  | .alias => "while scanning an alias"
  | .tag => "while scanning a tag"
  | .tagText => "while parsing a tag"
  | .blockScalar => "while scanning a block scalar"
  | .quotedScalar => "while scanning a quoted scalar"
  | .escapeSequence => "while parsing a quoted scalar"
  | .plainScalar => "while scanning a plain scalar"
  | .node => "while parsing a node"
  | .blockNode => "while parsing a block node"
  | .flowNode => "while parsing a flow node"
  | .blockSequence => "while parsing a block collection"
  | .blockMapping => "while parsing a block mapping"
  | .flowSequence => "while parsing a flow sequence"
  | .flowMapping => "while parsing a flow mapping"

structure Context where
  construct : Construct
  start : Mark
  deriving DecidableEq, Repr

/-- The wording of a context that follows a message about a given place. -/
def Context.message (context : Context) (place : Mark) : String :=
  ", " ++ context.construct.message ++
    if context.start.looksLike place then "" else context.start.ending

/-- What stands in the place of the value that is asked for. -/
inductive Found where
  | unit
  | bool (value : Bool)
  | integer (value : Int)
  | float (text : List Char)
  | string (text : List Char)
  | sequence
  | map
  deriving DecidableEq, Repr

namespace Found

/-- The note on an integer by the number of bits that it needs. -/
def widthNote (value : Int) : String :=
  if value ≥ Nat.pow 2 64 then " as u128" else if value < -Nat.pow 2 63 then " as i128" else ""

def message : Found → String
  | .unit => "unit value"
  | .bool value => if value then "boolean `true`" else "boolean `false`"
  | .integer value => "integer `" ++ toString value ++ "`" ++ widthNote value
  | .float text => "floating point `" ++ String.ofList text ++ "`"
  | .string text => "string " ++ String.ofList (Text.quotedChars text)
  | .sequence => "sequence"
  | .map => "map"

end Found

inductive Misfit where
  | wrongType (found : Found) (expected : String)
  /-- The text of a scalar is not of the type that its tag names. -/
  | wrongText (text : List Char) (expected : String)
  | duplicateField (name : String)
  deriving DecidableEq, Repr

def Misfit.message : Misfit → String
  | .wrongType found expected => "invalid type: " ++ found.message ++ ", expected " ++ expected
  | .wrongText text expected =>
    "invalid value: string " ++ String.ofList (Text.quotedChars text) ++ ", expected " ++ expected
  | .duplicateField name => "duplicate field `" ++ name ++ "`"

/-- Where a value stands: the keys that lead to it, and a mark. -/
structure Place where
  keys : List String := []
  mark : Mark := {}
  deriving DecidableEq, Repr

/-- The keys of a place as the beginning of a message. -/
def Place.beginning (place : Place) : String :=
  if place.keys.isEmpty then "" else ".".intercalate place.keys ++ ": "

inductive Fault where
  /-- A character that may not stand in a text, after a number of bytes. -/
  | control (offset : Nat)
  | malformed (problem : Problem) (mark : Mark) (context : Option Context)
  | unknownAnchor (mark : Mark)
  | furtherDocument
  /-- The events of a document end too early. -/
  | unfinished
  | misfit (reason : Misfit) (place : Place)
  deriving DecidableEq, Repr

def Fault.message : Fault → String
  | .control offset =>
    "control characters are not allowed" ++ if offset = 0 then "" else s!" at position {offset}"
  | .malformed problem mark context =>
    problem.message ++ mark.ending ++ ((context.map (·.message mark)).getD "")
  | .unknownAnchor mark => "unknown anchor" ++ mark.ending
  | .furtherDocument =>
    "deserializing from YAML containing more than one document is not supported"
  | .unfinished => "EOF while parsing a value"
  | .misfit reason place => place.beginning ++ reason.message ++ place.mark.ending

end LinkVetting.Yaml
