import LinkVetting.Audit.Writer
import LinkVetting.RuleSet
import LinkVetting.Text.Quoted

/-!
# Events

What happens is reported as events. An event has a level, the part of the program it comes from, a
message, and named fields. Candidates are shown in quoted form, so that no candidate can forge or
break a line of the log.
-/

namespace LinkVetting

inductive Level where
  | trace
  | debug
  | info
  | warn
  | error
  deriving DecidableEq, Repr

def Level.name : Level → String
  | .trace => "TRACE"
  | .debug => "DEBUG"
  | .info => "INFO"
  | .warn => "WARN"
  | .error => "ERROR"

inductive Event where
  | rulesCompiled (count : Nat)
  | targetAccepted (candidate : String)
  | targetRejected (candidate : String) (violation : Violation)
  /-- A candidate that is not text, by where it came from. -/
  | candidateUndecodable (source : String)
  | trailOpened (path : Files.Path)
  /-- An entry came after the trail had been closed. -/
  | entryDropped (type : Audit.EventType)
  | entryNotWritten (fault : Audit.TrailFault)
  /-- What was held back could not be flushed after a pause. -/
  | pauseFlushFailed (fault : Audit.TrailFault)
  /-- What was held back could not be flushed at the end of the trail. -/
  | finalFlushFailed (fault : Audit.TrailFault)
  | trailFinished
  | configurationMissing (path : Files.Path)
  | checkFinished (checked rejected : Nat)
  deriving DecidableEq, Repr

namespace Event

def level : Event → Level
  | .rulesCompiled _ | .targetAccepted _ | .trailOpened _ | .trailFinished => .debug
  | .checkFinished .. => .info
  | .targetRejected .. | .candidateUndecodable _ | .entryDropped _ | .configurationMissing _ =>
    .warn
  | .entryNotWritten _ | .pauseFlushFailed _ | .finalFlushFailed _ => .error

/-- The part of the program that an event comes from. -/
def target : Event → String
  | .rulesCompiled _ => "uri_sanitizer::ruleset"
  | .targetAccepted _ | .targetRejected .. => "uri_sanitizer::sanitizer"
  | .candidateUndecodable _ => "link_guard::report"
  | .configurationMissing _ | .checkFinished .. => "link_guard"
  | .trailOpened _ | .entryDropped _ | .entryNotWritten _ | .pauseFlushFailed _ |
    .finalFlushFailed _ | .trailFinished => "audit_log::sink"

def message : Event → String
  | .rulesCompiled _ => "rule set compiled"
  | .targetAccepted _ => "link target accepted"
  | .targetRejected .. => "suspicious link target rejected"
  | .candidateUndecodable _ => "candidate is not valid UTF-8; rejected"
  | .trailOpened _ => "audit trail opened"
  | .entryDropped _ => "audit trail closed, entry dropped"
  | .entryNotWritten _ => "failed to write audit entry"
  | .pauseFlushFailed _ => "periodic audit flush failed"
  | .finalFlushFailed _ => "failed to flush audit trail on shutdown"
  | .trailFinished => "audit writer task shutting down"
  | .configurationMissing _ => "configuration file not found; using defaults"
  | .checkFinished .. => "check finished"

def fields : Event → List (String × Json)
  | .rulesCompiled count => [("count", .ofNat count)]
  | .targetAccepted candidate => [("candidate", .string (Text.quoted candidate))]
  | .targetRejected candidate violation =>
    [("candidate", .string (Text.quoted candidate)), ("rule", .string violation.rule),
      ("position", .ofNat violation.position)]
  | .candidateUndecodable source => [("source", .string source)]
  | .trailOpened path | .configurationMissing path => [("path", .string path.text)]
  | .entryDropped type => [("event_type", .string type.title)]
  | .entryNotWritten fault | .pauseFlushFailed fault | .finalFlushFailed fault =>
    [("err", .string fault.message)]
  | .trailFinished => []
  | .checkFinished checked rejected =>
    [("checked", .ofNat checked), ("rejected", .ofNat rejected)]

/-- An event as JSON; its members have an order of their own. -/
def toJson (event : Event) (time : Timestamp) : Json :=
  .object [("timestamp", .string (String.ofList time.microsecondChars)),
    ("level", .string event.level.name),
    ("fields", .object (("message", .string event.message) :: event.fields)),
    ("target", .string event.target)]

/-- The line of the log that shows an event, with its end. -/
def line (event : Event) (time : Timestamp) : List Char :=
  (event.toJson time).compactChars ++ ['\n']

def ofVerdict (candidate : String) : Verdict → Event
  | .accepted _ => .targetAccepted candidate
  | .rejected violation => .targetRejected candidate violation

end Event

def RuleSet.build (texts : List RuleText)
    (tooLarge : Pattern.SizeCheck := Pattern.SizeCheck.estimated) :
    Except RuleError RuleSet × List Event :=
  match RuleSet.compile texts tooLarge with
  | .ok set => (.ok set, [.rulesCompiled set.size])
  | .error error => (.error error, [])

/-- The verdict on a candidate together with its event. -/
def RuleSet.check (set : RuleSet) (candidate : String) : Verdict × Event :=
  let verdict := set.evaluate candidate
  (verdict, .ofVerdict candidate verdict)

end LinkVetting
