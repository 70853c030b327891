import LinkVetting.Audit.Entry
import LinkVetting.Json.Decoder

/-!
# Decoding audit entries

An entry is read back from a line of a trail. The rejection and the input of the source may be
missing or `null`; nothing else may be missing.
-/

namespace LinkVetting.Audit

open Json (Misfit)

/-- The fields of a source as far as they have been read. An optional field is held as soon as it
has been read, also as absent. -/
structure SourceDraft where
  component : Option String := none
  input : Option (Option String) := none

/-- The fields of a rejection as far as they have been read. -/
structure RejectionDraft where
  candidate : Option String := none
  rule : Option String := none

/-- The fields of an entry as far as they have been read. -/
structure EntryDraft where
  id : Option Uuid := none
  timestamp : Option Timestamp := none
  eventType : Option EventType := none
  source : Option Source := none
  details : Option Json := none
  rejection : Option (Option Rejection) := none

def required {α : Type} (name : String) : Option α → Except Misfit α
  | some value => .ok value
  | none => .error (.missingField name)

def decodePlain (text : List Char) : Except Json.Fault (String × List Char) := do
  let (value, rest) ← Json.decodeString "a string" text
  return (String.ofList value, rest)

def decodeId : List Char → Except Json.Fault (Uuid × List Char) :=
  Json.decodeText "a formatted UUID string" fun text =>
    (Uuid.read text).mapError Uuid.Fault.message

def decodeTimestamp : List Char → Except Json.Fault (Timestamp × List Char) :=
  Json.decodeText "an RFC 3339 formatted date and time string" fun text =>
    (Timestamp.read text).mapError Timestamp.Fault.message

/-- A field that is decoded and then put into the draft. -/
def field {α δ : Type} (name : String) (get : δ → Option α) (put : δ → α → δ)
    (decode : List Char → Except Json.Fault (α × List Char)) : Json.Field δ where
  name
  isGiven draft := (get draft).isSome
  decode draft text := do
    let (value, rest) ← decode text
    return (put draft value, rest)

def Source.kind : Json.RecordKind SourceDraft Source where
  name := "AuditSource"
  fields := [
    field "component" (·.component) (fun draft value => { draft with component := some value })
      decodePlain,
    field "input" (·.input) (fun draft value => { draft with input := some value })
      (Json.decodeOption decodePlain)]
  blank := {}
  complete draft := do
    return { component := ← required "component" draft.component, input := draft.input.join }

def Rejection.kind : Json.RecordKind RejectionDraft Rejection where
  name := "RejectionRecord"
  fields := [
    field "candidate" (·.candidate) (fun draft value => { draft with candidate := some value })
      decodePlain,
    field "rule" (·.rule) (fun draft value => { draft with rule := some value }) decodePlain]
  blank := {}
  complete draft := do
    return {
      candidate := ← required "candidate" draft.candidate
      rule := ← required "rule" draft.rule }

/-- How deep arrays and objects may be nested inside the details of an entry. -/
def detailsDepth : Nat := Json.depthLimit - 1

def decodeDetails (text : List Char) : Except Json.Fault (Json × List Char) :=
  Json.readValue (2 * text.length + 2) detailsDepth text

def Entry.kind : Json.RecordKind EntryDraft Entry where
  name := "AuditEntry"
  fields := [
    field "id" (·.id) (fun draft value => { draft with id := some value }) decodeId,
    field "timestamp" (·.timestamp) (fun draft value => { draft with timestamp := some value })
      decodeTimestamp,
    field "event_type" (·.eventType) (fun draft value => { draft with eventType := some value })
      (Json.decodeChoice EventType.choices),
    field "source" (·.source) (fun draft value => { draft with source := some value })
      Source.kind.decode,
    field "details" (·.details) (fun draft value => { draft with details := some value })
      decodeDetails,
    field "rejection" (·.rejection) (fun draft value => { draft with rejection := some value })
      (Json.decodeOption Rejection.kind.decode)]
  blank := {}
  complete draft := do
    return {
      id := ← required "id" draft.id
      timestamp := ← required "timestamp" draft.timestamp
      eventType := ← required "event_type" draft.eventType
      source := ← required "source" draft.source
      details := ← required "details" draft.details
      rejection := draft.rejection.join }

def Entry.read (text : List Char) : Except Json.Fault Entry :=
  Json.decodeWhole Entry.kind.decode text

end LinkVetting.Audit
