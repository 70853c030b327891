import LinkVetting.Json.Reader

/-!
# Decoding JSON into records

A record is written as an object with its fields by name, in any order, or as an array with its
fields in order. Unknown members are skipped and a field may not be given twice. A choice is
written as its name, or as an object with that name alone and `null`.

What fits is decided while the text is read, so the first fault in the order of the text counts,
whether the text is malformed or does not fit.
-/

namespace LinkVetting.Json

/-- The fault of a value that is not what is expected. A string, a number or a word is read first,
so its own faults come before. -/
def unexpected {α : Type} (expected : String) (text : List Char) : Except Fault α :=
  let unfit (found : Found) (rest : List Char) : Except Fault α :=
    failAt (.misfit (.wrongType found expected)) rest
  match dropBlanks text with
  | [] => failAt .valueUnfinished []
  | 'n' :: rest => do unfit .null (← readWord ['u', 'l', 'l'] rest)
  | 't' :: rest => do unfit (.bool true) (← readWord ['r', 'u', 'e'] rest)
  | 'f' :: rest => do unfit (.bool false) (← readWord ['a', 'l', 's', 'e'] rest)
  | '-' :: rest => do
    let (value, rest) ← readNumber true rest
    unfit (.number value) rest
  | '"' :: rest => do
    let (value, rest) ← readString rest
    unfit (.string value) rest
  | '[' :: rest => unfit .sequence ('[' :: rest)
  | '\x7b' :: rest => unfit .map ('\x7b' :: rest)
  | c :: rest =>
    if c.isDigit then do
      let (value, rest) ← readNumber false (c :: rest)
      unfit (.number value) rest
    else failAfter .valueExpected (c :: rest)

def decodeString (expected : String) (text : List Char) :
    Except Fault (List Char × List Char) :=
  match dropBlanks text with
  | '"' :: rest => readString rest
  | _ => unexpected expected text

/-- Decodes a string of a given form; `read` answers the wording of what is wrong with it. -/
def decodeText {α : Type} (expected : String) (read : List Char → Except String α)
    (text : List Char) : Except Fault (α × List Char) := do
  let (value, rest) ← decodeString expected text
  match read value with
  | .ok value => return (value, rest)
  | .error message => failAt (.misfit (.badText message)) rest

def decodeOption {α : Type} (decode : List Char → Except Fault (α × List Char))
    (text : List Char) : Except Fault (Option α × List Char) :=
  match dropBlanks text with
  | 'n' :: rest => do return (none, ← readWord ['u', 'l', 'l'] rest)
  | _ => do
    let (value, rest) ← decode text
    return (some value, rest)

def decodeName {α : Type} (choices : List (String × α)) (text : List Char) :
    Except Fault (α × List Char) := do
  let (name, rest) ← readString text
  match choices.lookup (String.ofList name) with
  | some choice => return (choice, rest)
  | none => failAt (.misfit (.unknownVariant name (choices.map (·.1)))) rest

def decodeNull (text : List Char) : Except Fault (List Char) :=
  match dropBlanks text with
  | 'n' :: rest => readWord ['u', 'l', 'l'] rest
  | _ => unexpected "unit" text

def decodeChoice {α : Type} (choices : List (String × α)) (text : List Char) :
    Except Fault (α × List Char) :=
  match dropBlanks text with
  | [] => failAt .valueUnfinished []
  | '"' :: rest => decodeName choices rest
  | '\x7b' :: rest =>
    match dropBlanks rest with
    | [] => failAt .valueUnfinished []
    | '"' :: rest => do
      let (choice, rest) ← decodeName choices rest
      let rest ← readColon rest
      let rest ← decodeNull rest
      match dropBlanks rest with
      | '\x7d' :: rest => return (choice, rest)
      | [] => failAt .objectUnfinished []
      | rest => failAt .valueExpected rest
    | '\x7d' :: rest => failAfter .valueExpected ('\x7d' :: rest)
    | rest => failAfter .nameNotString rest
  | rest => failAfter .valueExpected rest

/-- A field of a record, which is decoded into a draft of it. -/
structure Field (δ : Type) where
  name : String
  /-- Whether a draft holds the field already. -/
  isGiven : δ → Bool
  decode : δ → List Char → Except Fault (δ × List Char)

structure RecordKind (δ ρ : Type) where
  name : String
  fields : List (Field δ)
  /-- The draft before any field has been read. -/
  blank : δ
  /-- The record of a draft, unless a field is missing. -/
  complete : δ → Except Misfit ρ

namespace RecordKind

variable {δ ρ : Type} (kind : RecordKind δ ρ)

/-- A misfit of a whole object. Its place is after the end of the object if that is near. -/
def failInObject {α : Type} (reason : Misfit) (rest : List Char) : Except Fault α :=
  failAt (.misfit reason) <| match dropBlanks rest with
    | '\x7d' :: rest => rest
    | rest => rest

/-- Decodes the members of an object up to its end. -/
def decodeMembers : (fuel : Nat) → (isFirst : Bool) → δ → List Char →
    Except Fault (δ × List Char)
  | 0, _, _, text => failAt .objectUnfinished text
  | fuel + 1, isFirst, draft, text => do
    match ← nextMember isFirst text with
    | none => return (draft, dropBlanks text)
    | some rest =>
      let (name, rest) ← readString rest
      match kind.fields.find? (·.name = String.ofList name) with
      | some field =>
        if field.isGiven draft then failInObject (.duplicateField field.name) rest
        else
          let rest ← readColon rest
          let (draft, rest) ← field.decode draft rest
          decodeMembers fuel false draft rest
      | none =>
        let rest ← readColon rest
        let rest ← skipValue (2 * rest.length + 2) rest
        decodeMembers fuel false draft rest

/-- The wording for an array of the wrong length. -/
def arrayWording : String := s!"struct {kind.name} with {kind.fields.length} elements"

/-- Decodes the fields that are left of an array. -/
def decodeItems (fields : List (Field δ)) (index : Nat) (draft : δ) (text : List Char) :
    Except Fault (δ × List Char) :=
  match fields with
  | [] => .ok (draft, text)
  | field :: fields => do
    match ← nextItem (index == 0) text with
    | none =>
      failAt (.misfit (.wrongLength index kind.arrayWording)) (dropBlanks text).tail
    | some rest =>
      let (draft, rest) ← field.decode draft rest
      decodeItems fields (index + 1) draft rest

/-- Reads the end of an array that has all its items. -/
def endItems (text : List Char) : Except Fault (List Char) :=
  match dropBlanks text with
  | ']' :: rest => .ok rest
  | ',' :: rest =>
    match dropBlanks rest with
    | ']' :: rest => failAfter .trailingComma (']' :: rest)
    | rest => failAfter .trailingCharacters rest
  | [] => failAt .arrayUnfinished []
  | rest => failAfter .trailingCharacters rest

def decode (text : List Char) : Except Fault (ρ × List Char) :=
  match dropBlanks text with
  | '\x7b' :: rest => do
    let (draft, rest) ← kind.decodeMembers (rest.length + 1) true kind.blank rest
    match kind.complete draft with
    | .ok record => return (record, rest.tail)
    | .error reason => failInObject reason rest
  | '[' :: rest => do
    let (draft, rest) ← kind.decodeItems kind.fields 0 kind.blank rest
    match kind.complete draft with
    | .ok record => return (record, ← endItems rest)
    | .error reason => failAt (.misfit reason) rest
  | _ => unexpected s!"struct {kind.name}" text

end RecordKind

def decodeWhole {α : Type} (decode : List Char → Except Fault (α × List Char))
    (text : List Char) : Except Fault α := do
  let (value, rest) ← decode text
  finish value rest

end LinkVetting.Json
