import LinkVetting.Json.Value
import LinkVetting.Json.Printer
import LinkVetting.Timestamp
import LinkVetting.Uuid

/-!
# Audit entries

An entry records one event: what happened, in which component and on which input. A rejection names
the candidate and the rule. An entry is written as one line of compact JSON.
-/

namespace LinkVetting.Audit

inductive EventType where
  | uriRejected
  | processStarted
  | processStopped
  deriving DecidableEq, Repr

namespace EventType

def name : EventType → String
  | .uriRejected => "uri_rejected"
  | .processStarted => "process_started"
  | .processStopped => "process_stopped"

def title : EventType → String
  | .uriRejected => "UriRejected"
  | .processStarted => "ProcessStarted"
  | .processStopped => "ProcessStopped"

def choices : List (String × EventType) :=
  [EventType.uriRejected, .processStarted, .processStopped].map fun type => (type.name, type)

end EventType

structure Source where
  component : String
  /-- The place that the candidate came from, such as `argv:1` or `stdin:12`. -/
  input : Option String := none
  deriving DecidableEq, Repr

structure Rejection where
  candidate : String
  rule : String
  deriving DecidableEq, Repr

structure Stamp where
  id : Uuid
  timestamp : Timestamp
  deriving DecidableEq

structure Entry extends Stamp where
  eventType : EventType
  source : Source
  details : Json
  rejection : Option Rejection := none

namespace Entry

def ofRejection (stamp : Stamp) (source : Source) (rejection : Rejection) : Entry :=
  { stamp with eventType := .uriRejected, source, details := .null, rejection := some rejection }

def optionalMember (name : String) : Option Json → List (String × Json)
  | some value => [(name, value)]
  | none => []

def sourceJson (source : Source) : Json :=
  .object (("component", .string source.component) ::
    optionalMember "input" (source.input.map Json.string))

def rejectionJson (rejection : Rejection) : Json :=
  .object [("candidate", .string rejection.candidate), ("rule", .string rejection.rule)]

/-- An entry as JSON; its members have an order of their own. -/
def toJson (entry : Entry) : Json :=
  .object ([("id", Json.string (String.ofList entry.id.chars)),
    ("timestamp", .string (String.ofList entry.timestamp.chars)),
    ("event_type", .string entry.eventType.name),
    ("source", sourceJson entry.source),
    ("details", entry.details)] ++
    optionalMember "rejection" (entry.rejection.map rejectionJson))

/-- An entry as one line of text, without its end. -/
def lineChars (entry : Entry) : List Char := entry.toJson.compactChars

/-- The bytes that are appended to a trail for an entry. -/
def bytes (entry : Entry) : List UInt8 := Text.Utf8.encode (entry.lineChars ++ ['\n'])

end Entry

end LinkVetting.Audit
