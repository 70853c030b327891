import LinkVetting.Json.Printer
import LinkVetting.Text.Quoted
import LinkVetting.Text.Utf8

/-!
# Faults in JSON texts

A fault is a cause and a place. A text can be malformed, end too early, or be well-formed and not
fit what is asked for. Places count lines from one and the bytes read of the current line.
-/

namespace LinkVetting.Json

/-- The three ways in which a text can be refused. -/
inductive Category where
  | malformed
  | incomplete
  | unfit
  deriving DecidableEq, Repr

/-- What stands in the place of the value that is asked for. -/
inductive Found where
  | null
  | bool (value : Bool)
  | number (value : Number)
  | string (text : List Char)
  | sequence
  | map
  deriving DecidableEq, Repr

inductive Misfit where
  | wrongType (found : Found) (expected : String)
  | unknownVariant (name : List Char) (expected : List String)
  | missingField (name : String)
  | duplicateField (name : String)
  | wrongLength (length : Nat) (expected : String)
  /-- The text of a string does not have its form; holds the wording. -/
  | badText (message : String)
  deriving DecidableEq, Repr

inductive FaultKind where
  | arrayUnfinished
  | objectUnfinished
  | stringUnfinished
  | valueUnfinished
  | colonExpected
  | itemEndExpected
  | memberEndExpected
  | wordExpected
  | valueExpected
  | escapeInvalid
  | numberInvalid
  | numberTooLarge
  | controlCharacter
  | nameNotString
  | loneSurrogate
  | surrogateUnpaired
  | trailingComma
  | trailingCharacters
  | tooDeep
  | misfit (reason : Misfit)
  deriving DecidableEq, Repr

/-- A fault and the text from its place on. -/
structure Fault where
  kind : FaultKind
  rest : List Char
  /-- The number of bytes after the start of `rest` that the place has moved on. -/
  ahead : Nat := 0
  deriving DecidableEq, Repr

/-- A line and the number of bytes before a place in this line. -/
structure Place where
  line : Nat
  column : Nat
  deriving DecidableEq, Repr

def Place.atByte (bytes : Nat) : List Char → Place → Place
  | [], place => place
  | c :: later, place =>
    let size := (Text.Utf8.encodeChar c).length
    if bytes < size then { place with column := place.column + bytes }
    else if c == '\n' then atByte (bytes - size) later ⟨place.line + 1, 0⟩
    else atByte (bytes - size) later { place with column := place.column + size }

/-- The place of a fault in the whole text. -/
def Fault.place (fault : Fault) (text : List Char) : Place :=
  let read := text.take (text.length - fault.rest.length)
  Place.atByte (Text.Utf8.size read + fault.ahead) text ⟨1, 0⟩

def Found.message : Found → String
  | .null => "null"
  | .bool value => if value then "boolean `true`" else "boolean `false`"
  | .number (.float value) =>
    "floating point `" ++ String.ofList (plainFloatChars value) ++ "`"
  | .number value => "integer `" ++ String.ofList value.chars ++ "`"
  | .string text => "string " ++ String.ofList (Text.quotedChars text)
  | .sequence => "sequence"
  | .map => "map"

def oneOf : List String → String
  | [] => "there are no variants"
  | [name] => "expected `" ++ name ++ "`"
  | [first, second] => "expected `" ++ first ++ "` or `" ++ second ++ "`"
  | names => "expected one of " ++ ", ".intercalate (names.map fun name => "`" ++ name ++ "`")

def Misfit.message : Misfit → String
  | .wrongType found expected => "invalid type: " ++ found.message ++ ", expected " ++ expected
  | .unknownVariant name expected =>
    "unknown variant `" ++ String.ofList name ++ "`, " ++ oneOf expected
  | .missingField name => "missing field `" ++ name ++ "`"
  | .duplicateField name => "duplicate field `" ++ name ++ "`"
  | .wrongLength length expected => s!"invalid length {length}, expected {expected}"
  | .badText message => message

def FaultKind.message : FaultKind → String
  | .arrayUnfinished => "EOF while parsing a list"
  | .objectUnfinished => "EOF while parsing an object"
  | .stringUnfinished => "EOF while parsing a string"
  | .valueUnfinished => "EOF while parsing a value"
  | .colonExpected => "expected `:`"
  | .itemEndExpected => "expected `,` or `]`"
  | .memberEndExpected => "expected `,` or `\x7d`"
  | .wordExpected => "expected ident"
  | .valueExpected => "expected value"
  | .escapeInvalid => "invalid escape"
  | .numberInvalid => "invalid number"
  | .numberTooLarge => "number out of range"
  | .controlCharacter =>
    "control character (\\u0000-\\u001F) found while parsing a string"
  | .nameNotString => "key must be a string"
  | .loneSurrogate => "lone leading surrogate in hex escape"
  | .surrogateUnpaired => "unexpected end of hex escape"
  | .trailingComma => "trailing comma"
  | .trailingCharacters => "trailing characters"
  | .tooDeep => "recursion limit exceeded"
  | .misfit reason => reason.message

/-- The way in which a fault makes a text unusable. -/
def FaultKind.category : FaultKind → Category
  | .arrayUnfinished | .objectUnfinished | .stringUnfinished | .valueUnfinished => .incomplete
  | .misfit _ => .unfit
  | _ => .malformed

/-- The wording of a fault with its place in the text. -/
def Fault.message (fault : Fault) (text : List Char) : String :=
  let place := fault.place text
  s!"{fault.kind.message} at line {place.line} column {place.column}"

end LinkVetting.Json
