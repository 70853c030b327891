import LinkVetting.Yaml.Document
import LinkVetting.Yaml.Number

/-!
# Decoding YAML into records

A record is written as a mapping with its fields by name, in any order; nothing at all stands for a
record without fields. Unknown keys are skipped and a field may not be given twice. What fits is
decided event by event, so the first misfit counts, unless the events are used up before it.
-/

namespace LinkVetting.Yaml

/-! ## Types of scalars -/

/-- Whether a text is a name of the absence of a value. -/
def isNull (text : List Char) : Bool := isWord "null" "Null" "NULL" text || text == ['~']

def readBool (text : List Char) : Option Bool :=
  if isWord "true" "True" "TRUE" text then some true
  else if isWord "false" "False" "FALSE" text then some false
  else none

def commonTag (name : String) : List UInt8 := asciiBytes ("tag:yaml.org,2002:" ++ name).toList

/-- What a plain scalar without a tag is found to be. -/
def foundPlain (text : List Char) : Found :=
  if text.isEmpty || isNull text then .unit
  else match readBool text, readInteger text with
    | some value, _ => .bool value
    | none, some value => .integer value
    | none, none =>
      match if isPaddedNumber text then none else readFloat text with
      | some value => .float value.chars
      | none => .string text

namespace Scalar

/-- Whether nothing is written in place of the scalar. -/
def isAbsent (scalar : Scalar) : Bool := scalar.text.isEmpty && scalar.style == .plain

def hasLocalTag (tag : List UInt8) : Bool := tag.head? == some exclamation

/-- The misfit of a scalar where something else is expected. A tag decides the type of a scalar,
and the text has to be of that type. -/
def misfit (scalar : Scalar) (expected : String) : Misfit :=
  let text := scalar.text
  let wrong (found : Found) : Misfit := .wrongType found expected
  let typed (found : Option Found) (type : String) : Misfit :=
    match found with
    | some found => wrong found
    | none => .wrongText text type
  match scalar.tag with
  | none => wrong (if scalar.style == .plain then foundPlain text else .string text)
  | some tag =>
    if tag == commonTag "bool" then typed ((readBool text).map .bool) "a boolean"
    else if tag == commonTag "int" then typed ((readInteger text).map .integer) "an integer"
    else if tag == commonTag "float" then
      typed ((readFloat text).map fun value => .float value.chars) "a float"
    else if tag == commonTag "null" then typed (if isNull text then some .unit else none) "null"
    else if hasLocalTag tag && scalar.style == .plain then wrong (foundPlain text)
    else wrong (.string text)

def bool? (scalar : Scalar) : Option Bool :=
  if scalar.style == .plain || (scalar.style == .literal && scalar.tag == some (commonTag "bool"))
  then readBool scalar.text
  else none

end Scalar

/-! ## Values -/

/-- Reads the events of a value. Answers the value with the events after it. The keys that lead to
the value and the place of the record around it are given for messages. -/
abbrev Decoder (α : Type) :=
  Document → (keys : List String) → (around : Place) → List PlacedEvent →
    Except Fault (α × List PlacedEvent)

/-- Reads the first event of a value, or of the value that an alias stands for. The events after an
alias are those after the value. -/
def decodeFirst {α : Type} (document : Document) (events : List PlacedEvent)
    (decode : PlacedEvent → List PlacedEvent → Except Fault (α × List PlacedEvent)) :
    Except Fault (α × List PlacedEvent) :=
  match events with
  | [] => .error document.shortage
  | first :: later =>
    match first.event with
    | .alias number =>
      match document.eventsAt number with
      | [] => .error document.shortage
      | target :: inside => do
        let (value, _) ← decode target inside
        return (value, later)
    | _ => decode first later

/-- The fault of an event in place of what is expected. -/
def unexpected {α : Type} (keys : List String) (expected : String) (first : PlacedEvent) :
    Except Fault α :=
  let misfit (reason : Misfit) : Except Fault α :=
    .error (.misfit reason { keys, mark := first.mark })
  match first.event with
  | .scalar scalar => misfit (scalar.misfit expected)
  | .sequenceStart => misfit (.wrongType .sequence expected)
  | .mappingStart => misfit (.wrongType .map expected)
  | .nothing | .alias _ | .sequenceEnd | .mappingEnd => .error .unfinished

def decodeBool : Decoder Bool := fun document keys _ events =>
  decodeFirst document events fun first later =>
    match first.event with
    | .scalar scalar =>
      match scalar.bool? with
      | some value => .ok (value, later)
      | none => unexpected keys "a boolean" first
    | _ => unexpected keys "a boolean" first

def decodeText (expected : String) : Decoder (List Char) := fun document keys _ events =>
  decodeFirst document events fun first later =>
    match first.event with
    | .scalar scalar => .ok (scalar.text, later)
    | _ => unexpected keys expected first

def decodeOption {α : Type} (decode : Decoder α) : Decoder (Option α) :=
  fun document keys around events =>
    decodeFirst document events fun first later =>
      let present : Except Fault (Option α × List PlacedEvent) := do
        let (value, later) ← decode document keys around (first :: later)
        return (some value, later)
      match first.event with
      | .nothing => .ok (none, later)
      | .scalar scalar =>
        if scalar.style != .plain then present
        else match scalar.tag with
          | none =>
            if scalar.text.isEmpty || isNull scalar.text then .ok (none, later) else present
          | some tag =>
            if tag != commonTag "null" then present
            else if isNull scalar.text then .ok (none, later)
            else .error (.misfit (.wrongText scalar.text "null") around)
      | _ => present

/-- Skips a value; `depth` is the number of collections that are open. -/
def skipValue (document : Document) : (depth : Nat) → List PlacedEvent →
    Except Fault (List PlacedEvent)
  | _, [] => .error document.shortage
  | depth, first :: later =>
    match first.event with
    | .sequenceStart | .mappingStart => skipValue document (depth + 1) later
    | .sequenceEnd | .mappingEnd =>
      if depth ≤ 1 then .ok later else skipValue document (depth - 1) later
    | .nothing | .scalar _ | .alias _ =>
      if depth = 0 then .ok later else skipValue document depth later

/-! ## Records -/

/-- A field of a record, which is decoded into a draft of it. -/
structure Field (δ : Type) where
  name : String
  /-- Whether a draft holds the field already. -/
  isGiven : δ → Bool
  decode : δ → Decoder δ

/-- The name of a key in the list of keys that lead to a value; an alias has none. -/
def keyName (field : String) : List PlacedEvent → String
  | { event := .alias _, .. } :: _ => "?"
  | _ => field

/-- Decodes the pairs of a mapping up to its end. `fuel` bounds their number. -/
def decodePairs {δ : Type} (fields : List (Field δ)) (document : Document) (place : Place) :
    (fuel : Nat) → δ → List PlacedEvent → Except Fault (δ × List PlacedEvent)
  | 0, draft, events => .ok (draft, events)
  | fuel + 1, draft, events =>
    match events with
    | { event := .mappingEnd, .. } :: later => .ok (draft, later)
    | _ => do
      let (key, later) ← decodeText "field identifier" document place.keys place events
      match fields.find? (·.name.toList == key) with
      | none => decodePairs fields document place fuel draft (← skipValue document 0 later)
      | some field =>
        if field.isGiven draft then .error (.misfit (.duplicateField field.name) place)
        else
          let keys := place.keys ++ [keyName field.name events]
          let (draft, later) ← field.decode draft document keys place later
          decodePairs fields document place fuel draft later

def decodeRecord {δ : Type} (name : String) (fields : List (Field δ)) (blank : δ) : Decoder δ :=
  fun document keys _ events =>
    decodeFirst document events fun first later =>
      let expected := "struct " ++ name
      match first.event with
      | .mappingStart =>
        decodePairs fields document { keys, mark := first.mark } (later.length + 1) blank later
      | .nothing => .ok (blank, later)
      | .scalar scalar =>
        if scalar.isAbsent then .ok (blank, later) else unexpected keys expected first
      | _ => unexpected keys expected first

def decodeWhole {α : Type} (decode : Decoder α) (text : List Char) : Except Fault α := do
  let document := Document.read text
  let (value, _) ← decode document [] {} document.events
  match document.finalFault? with
  | some fault => throw fault
  | none => return value

end LinkVetting.Yaml
