import LinkVetting.Audit.Session
import LinkVetting.Catalogue
import LinkVetting.Check
import LinkVetting.CommandLine.Request
import LinkVetting.Configuration
import LinkVetting.LogFilter

/-!
# The program

A run reads the command line and the configuration, and then lists the rules or checks candidates.
Results go to the output; events and what went wrong are notices. If a trail is wanted, the
rejections are recorded in it, between an entry for the start of the run and one for its end.

A run depends on its surroundings alone, and answers what it would leave behind.
-/

namespace LinkVetting

open Audit (Entry EventType Session Stamp TrailFault)
open CommandLine (Argument Command Request)
open Files (Disk)

structure Surroundings where
  arguments : List Argument
  /-- The bytes from which candidates are read if no argument is one. -/
  input : List UInt8 := []
  /-- A filter that comes before that of the configuration, if it is right. -/
  filter : Option String := none
  disk : Disk
  /-- The identities and times of the entries of the trail, in order. -/
  stamps : Nat → Stamp

inductive Notice where
  | text (text : String)
  | event (event : Event)

structure Run where
  exitStatus : Nat
  output : List Char := []
  notices : List Notice := []
  disk : Disk

/-! ## Failures -/

/-- A failure with its causes, the nearest one first. -/
structure Failure where
  message : String
  causes : List String := []
  deriving DecidableEq, Repr

namespace Failure

/-- A text whose lines after the first are indented. -/
def indented (indentation : List Char) (text : List Char) : List Char :=
  text.flatMap fun c => if c == '\n' then '\n' :: indentation else [c]

def numbered (cause : String) (number : Nat) : List Char :=
  let digits := (Nat.repr number).toList
  '\n' :: List.replicate (5 - digits.length) ' ' ++ digits ++ [':', ' '] ++
    indented (List.replicate 7 ' ') cause.toList

def causeChars : List String → List Char
  | [] => []
  | [cause] =>
    let indentation := List.replicate 4 ' '
    "\n\nCaused by:\n".toList ++ indentation ++ indented indentation cause.toList
  | causes =>
    "\n\nCaused by:".toList ++
      causes.zipIdx.flatMap fun (cause, number) => numbered cause number

/-- A failure as it is shown. -/
def text (failure : Failure) : String :=
  "Error: " ++ failure.message ++ String.ofList (causeChars failure.causes) ++ "\n"

def ofTrailFault (path : Files.Path) (fault : TrailFault) : Failure where
  message := "failed to open audit log " ++ path.text
  causes := [fault.message, fault.cause.message]

end Failure

/-! ## Settings -/

/-- The configuration with the settings of a command line, which come first. -/
def Configuration.overridden (configuration : Configuration) (request : Request) :
    Configuration :=
  { configuration with
    logLevel := request.logLevel.getD configuration.logLevel
    auditLog := request.auditLog.or configuration.auditLog }

/-- The filter for the log, with complaints about wrong directives. A wrong filter of the
surroundings is passed over. -/
def LogFilter.choose (surroundings : Option String) (level : String) :
    LogFilter × List Notice :=
  match surroundings.map LogFilter.read with
  | some (.ok filter) => (filter, [])
  | _ =>
    let (filter, wrongs) := LogFilter.readLenient level
    (filter, wrongs.map fun (piece, fault) => .text (complaint piece fault))

def LogFilter.notices (filter : LogFilter) (events : List Event) : List Notice :=
  (events.filter filter.admits).map Notice.event

/-! ## Checks with and without a trail -/

def runEntry (stamp : Stamp) (eventType : EventType) (details : List (String × Json)) : Entry :=
  { stamp with eventType, source := { component }, details := .object details }

/-- The entry for the start of a check of some candidates. -/
def startEntry (candidates : Nat) (stamp : Stamp) : Entry :=
  runEntry stamp .processStarted
    [("candidates", .ofNat candidates), ("version", .string CommandLine.version)]

/-- The entry for the end of a check. -/
def stopEntry (totals : Check.Totals) (stamp : Stamp) : Entry :=
  runEntry stamp .processStopped
    [("checked", .ofNat totals.checked), ("rejected", .ofNat totals.rejected)]

/-- The name of the only sink of a run. -/
def sinkName : String := "run"

/-- What a check has done: the session of its trail, the number of its entries, what it has shown
and what it has told. -/
structure Progress where
  session : Session
  entries : Nat := 0
  output : String := ""
  events : Array Event := #[]

namespace Progress

def tell (progress : Progress) (event : Event) : Progress :=
  { progress with events := progress.events.push event }

def print (progress : Progress) (text : List Char) : Progress :=
  { progress with output := progress.output ++ String.ofList text }

/-- Logs the entry that is made with the next stamp. Without a trail nothing comes of it. -/
def log (stamps : Nat → Stamp) (progress : Progress) (entry : Stamp → Entry) : Progress :=
  let (session, events) := progress.session.log sinkName (entry (stamps progress.entries))
  { progress with
    session, entries := progress.entries + 1, events := progress.events ++ events }

/-- The outlet of a check that logs its rejections. Nothing goes wrong with what it prints. -/
def outlet (stamps : Nat → Stamp) : Check.Outlet Progress Empty where
  tell := tell
  record := fun progress source rejection =>
    progress.log stamps fun stamp => .ofRejection stamp source rejection
  print := fun progress text => (progress.print text, .ok ())

/-- Tells and logs the end of a check, gives up the sink and waits for the trail to end. -/
def finish (stamps : Nat → Stamp) (progress : Progress) (totals : Check.Totals) : Progress :=
  let progress := progress.tell (.checkFinished totals.checked totals.rejected)
  let progress := progress.log stamps (stopEntry totals)
  let (session, events, _) := (progress.session.dropSink sinkName).join
  { progress with session, events := progress.events ++ events }

/-- A whole check, between an entry for its start and one for its end. -/
def check (stamps : Nat → Stamp) (set : RuleSet) (json : Bool) (candidates : List Candidate)
    (progress : Progress) : Progress × Check.Totals :=
  let progress := progress.log stamps (startEntry candidates.length)
  match Check.run (outlet stamps) json set {} progress candidates with
  | (_, .error fault) => nomatch fault.cause
  | (progress, .ok totals) => (progress.finish stamps totals, totals)

end Progress

/-- A session with a trail at a path, if there is one, and what it has told. -/
def startTrail (disk : Disk) : Option Files.Path → Session × Except Failure (List Event)
  | none => ({ disk }, .ok [])
  | some path =>
    let (session, answer) := ({ disk : Session }).start sinkName path
    (session, answer.mapError (Failure.ofTrailFault path))

/-! ## Runs -/

namespace Surroundings

/-- The candidates: those among the arguments or, if there are none, those of the input. -/
def candidates (surroundings : Surroundings) (arguments : List String) : List Candidate :=
  if arguments.isEmpty then Candidate.ofBytes surroundings.input
  else Candidate.ofArguments arguments

def needsInput (request : Request) : Bool :=
  match request.command with
  | .check arguments _ _ => arguments.isEmpty
  | .rules _ => false

/-- Lists the rules of a set or checks candidates by them. -/
def carryOut (surroundings : Surroundings) (set : RuleSet) (settings : Configuration)
    (filter : LogFilter) (command : Command) : Run :=
  match command with
  | .rules json => { exitStatus := 0, output := set.listing json, disk := surroundings.disk }
  | .check arguments json strict =>
    match startTrail surroundings.disk settings.auditLog with
    | (session, .error failure) =>
      { exitStatus := 1, notices := [.text failure.text], disk := session.disk }
    | (session, .ok opened) =>
      let (progress, totals) := Progress.check surroundings.stamps set (json || settings.json)
        (surroundings.candidates arguments) { session, events := opened.toArray }
      { exitStatus := if (strict || settings.strict) && totals.rejected > 0 then 1 else 0
        output := progress.output.toList
        notices := filter.notices progress.events.toList
        disk := progress.session.disk }

def answer (surroundings : Surroundings) (request : Request) : Run :=
  match Configuration.load surroundings.disk request.config with
  | .error fault =>
    { exitStatus := 1
      notices := [.text (Failure.text { message := fault.message })]
      disk := surroundings.disk }
  | .ok loaded =>
    let settings := (loaded.getD {}).overridden request
    let (filter, complaints) := LogFilter.choose surroundings.filter settings.logLevel
    let missing := if loaded.isNone then [Event.configurationMissing request.config] else []
    let set := RuleSet.builtin
    let compiled := Event.rulesCompiled set.size
    let run := surroundings.carryOut set settings filter request.command
    { run with notices := complaints ++ filter.notices (missing ++ [compiled]) ++ run.notices }

def run (surroundings : Surroundings) : Run :=
  match Request.read surroundings.arguments with
  | .ok request => surroundings.answer request
  | .error refusal =>
    let run : Run := { exitStatus := refusal.exitStatus, disk := surroundings.disk }
    if refusal.isFailure then { run with notices := [.text refusal.text] }
    else { run with output := refusal.text.toList }

end Surroundings

end LinkVetting
