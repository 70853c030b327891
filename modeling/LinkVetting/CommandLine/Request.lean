import LinkVetting.CommandLine.Refusal
import LinkVetting.Files.Path
import LinkVetting.Text.Similarity

/-!
# Reading the command line

Arguments are read one after the other. A switch begins with a hyphen and may stand anywhere before
an argument of two hyphens; its value follows an equals sign, or is the next argument unless that is
a switch too. The switches of the program may stand before or after the command, where the later
place wins. All other arguments are candidates.

A switch or a candidate takes effect only when the argument after it, or the end, has been reached,
so the first fault is not always the one of the first wrong argument.
-/

namespace LinkVetting.CommandLine

abbrev Argument := List UInt8

inductive Command where
  | check (candidates : List String) (json strict : Bool)
  | rules (json : Bool)
  deriving DecidableEq, Repr

structure Request where
  config : Files.Path
  auditLog : Option Files.Path
  logLevel : Option String
  command : Command
  deriving DecidableEq, Repr

def defaultConfig : Files.Path := .ofString "link-guard.yaml"

/-- What waits for the next argument before it takes effect. -/
inductive Pending where
  /-- A switch that takes a value, and the value if it has been read. -/
  | switch (switch : Switch) (value : Option Argument)
  | candidates (values : List Argument)
  deriving DecidableEq, Repr

/-- What has been read of the arguments of a page. -/
structure Reading where
  page : Page
  /-- The switches that have taken effect, with their values. -/
  given : List (Switch × Argument) := []
  /-- The candidates that have taken effect. -/
  candidates : List String := []
  pending : Option Pending := none
  /-- Whether two hyphens have been read. -/
  isTrailing : Bool := false
  deriving Repr

namespace Reading

/-- An argument as text; what is not text in it is replaced. -/
def shown (argument : Argument) : String := String.ofList (Text.Utf8.decodeLossy argument)

def switches (reading : Reading) : List Switch := reading.given.map (·.1)

/-- Whether the next argument is the value of a switch. -/
def awaitsValue (reading : Reading) : Bool :=
  match reading.pending with
  | some (.switch _ none) => true
  | _ => false

def give (reading : Reading) (switch : Switch) (value : Argument) : Except Refusal Reading :=
  if reading.switches.contains switch then .error (.usedTwice reading.page switch)
  else match switch with
    | .help => .error (.help reading.page)
    | .version => .error .version
    | .config | .auditLog =>
      if value.isEmpty then .error (.valueMissing switch)
      else .ok { reading with given := reading.given ++ [(switch, value)] }
    | .logLevel =>
      if (Text.Utf8.decode? value).isNone then .error (.notText reading.page)
      else .ok { reading with given := reading.given ++ [(switch, value)] }
    | .json | .strict => .ok { reading with given := reading.given ++ [(switch, value)] }

def settle (reading : Reading) : Except Refusal Reading :=
  match reading.pending with
  | none => .ok reading
  | some (.switch switch none) => .error (.valueMissing switch)
  | some (.switch switch (some value)) => { reading with pending := none }.give switch value
  | some (.candidates values) =>
    match values.mapM Text.Utf8.decode? with
    | some texts =>
      .ok { reading with
        pending := none, candidates := reading.candidates ++ texts.map String.ofList }
    | none => .error (.notText reading.page)

/-- Reads a switch, with its value if that is part of the argument. -/
def readSwitch (reading : Reading) (switch : Switch) (value : Option Argument) :
    Except Refusal Reading := do
  match switch.takesValue, value with
  | true, none =>
    let reading ← reading.settle
    return { reading with pending := some (.switch switch none) }
  | true, some value => (← reading.settle).give switch value
  | false, none => (← reading.settle).give switch []
  | false, some value =>
    let given := reading.switches
    .error (.valueUnwanted reading.page switch (shown value)
      (if given.contains switch then given else given ++ [switch]))

/-- The command among later arguments that has a switch similar to a given name. -/
def similarInCommand? (name : List Char) (later : List Argument) : Option Hint :=
  later.findSome? fun argument =>
    match Page.ofCommand? (shown argument) with
    | some page =>
      (Text.similarWords name (page.switches.map Switch.long)).getLast?.map fun switch =>
        .switchOfCommand page.command switch
    | none => none

def refuseLong (reading : Reading) (name : List Char) (later : List Argument) : Refusal :=
  let argument := "--" ++ String.ofList name
  let given := reading.switches
  let refuse (hint : Option Hint) (given : List Switch) : Refusal :=
    .unknownArgument reading.page argument hint given
  match (Text.similarWords name (reading.page.switches.map Switch.long)).getLast? with
  | some similar =>
    let meant := (reading.page.long? similar).toList.filter fun switch => !given.contains switch
    refuse (some (.similarSwitch similar)) (given ++ meant)
  | none =>
    match if reading.page = .program then similarInCommand? name later else none with
    | some hint => refuse (some hint) given
    | none =>
      refuse (if reading.page.takesCandidates then some (.asCandidate argument) else none) given

/-- The byte before the name of a switch. -/
def hyphen : UInt8 := 0x2D

/-- The byte before the value of a switch. -/
def equalsSign : UInt8 := 0x3D

/-- Reads a long switch; the argument comes without its hyphens. -/
def readLong (reading : Reading) (argument : Argument) (later : List Argument) :
    Except Refusal Reading :=
  let name := argument.takeWhile (· != equalsSign)
  let value :=
    match argument.dropWhile (· != equalsSign) with
    | _ :: value => some value
    | [] => none
  match (Text.Utf8.decode? name).bind fun name => reading.page.long? (String.ofList name) with
  | some switch => reading.readSwitch switch value
  | none => .error (reading.refuseLong (Text.Utf8.decodeLossy name) later)

/-- Reads short switches; the argument comes without its hyphen. `fuel` bounds their number. -/
def readShort : (fuel : Nat) → Reading → Argument → Except Refusal Reading
  | 0, reading, _ => .ok reading
  | _ + 1, reading, [] => .ok reading
  | fuel + 1, reading, byte :: bytes =>
    let (first, rest) := Text.Utf8.decodeFirst byte bytes
    let refuse (name : String) : Except Refusal Reading :=
      let argument := "-" ++ name
      .error (.unknownArgument reading.page argument
        (if reading.page.takesCandidates then some (.asCandidate argument) else none) [])
    match first with
    | none => refuse (shown (byte :: bytes))
    | some c =>
      match reading.page.short? c with
      | none => refuse (String.singleton c)
      | some switch =>
        if switch.takesValue then
          reading.readSwitch switch <| match rest with
            | [] => none
            | byte :: value => some (if byte = equalsSign then value else byte :: value)
        else do readShort fuel (← reading.readSwitch switch none) rest

def readOperand (reading : Reading) (argument : Argument) : Except Refusal Reading :=
  let name := shown argument
  match reading.page with
  | .check =>
    match reading.pending with
    | some (.candidates values) =>
      .ok { reading with pending := some (.candidates (values ++ [argument])) }
    | _ => do
      let reading ← reading.settle
      return { reading with pending := some (.candidates [argument]) }
  | .program =>
    if reading.isTrailing && (Page.ofCommand? name).isSome then
      .error (.unknownArgument reading.page name (some (.commandAfterHyphens name)) [])
    else
      match Text.similarWords name.toList (Page.commands.map Page.command) with
      | [] => .error (.unknownCommand reading.page name none)
      | similar => .error (.unknownCommand reading.page name (some (.similarCommands similar)))
  | .rules | .help => .error (.unknownArgument reading.page name none [])

def readArgument (reading : Reading) (argument : Argument) (later : List Argument) :
    Except Refusal Reading :=
  if reading.isTrailing then reading.readOperand argument
  else match argument with
    | [first, second] =>
      if first = hyphen && second = hyphen then .ok { reading with isTrailing := true }
      else readPlain
    | first :: second :: rest =>
      if first = hyphen && second = hyphen then reading.readLong rest later else readPlain
    | _ => readPlain
where
  /-- Reads an argument that does not begin with two hyphens. -/
  readPlain : Except Refusal Reading :=
    match argument, reading.pending with
    | first :: second :: rest, pending =>
      if first = hyphen then reading.readShort (rest.length + 2) (second :: rest)
      else readValue pending
    | _, pending => readValue pending
  /-- Reads an argument that is no switch, which may be the value of one. -/
  readValue : Option Pending → Except Refusal Reading
    | some (.switch switch none) =>
      .ok { reading with pending := some (.switch switch (some argument)) }
    | _ => reading.readOperand argument

/-- The page of the command that an argument names, where a command may stand. -/
def command? (reading : Reading) (argument : Argument) : Option Page :=
  if reading.page = .program && !reading.isTrailing && !reading.awaitsValue then
    (Text.Utf8.decode? argument).bind fun name => Page.ofCommand? (String.ofList name)
  else none

/-- Reads arguments up to the end or up to a command. Answers also the page of the command and the
arguments after it. -/
def readAll (reading : Reading) :
    List Argument → Except Refusal (Reading × Option (Page × List Argument))
  | [] => .ok (reading, none)
  | argument :: later =>
    match reading.command? argument with
    | some page => .ok (reading, some (page, later))
    | none => do readAll (← reading.readArgument argument later) later

/-- Reads the arguments of the help command, which name a page. -/
def readHelp (page : Page) : List Argument → Refusal
  | [] => .help page
  | argument :: later =>
    match page, Page.ofCommand? (shown argument) with
    | .program, some page => readHelp page later
    | _, _ => .unknownCommand page (shown argument) none

def value? (reading : Reading) (switch : Switch) : Option Argument := reading.given.lookup switch

/-- The value of a switch that was given after the command or before it. -/
def valueIn? (program command : Reading) (switch : Switch) : Option Argument :=
  (command.value? switch).or (program.value? switch)

/-- The request of the arguments before and after the command. -/
def request (program command : Reading) : Request where
  config := ((valueIn? program command .config).map Files.Path.mk).getD defaultConfig
  auditLog := (valueIn? program command .auditLog).map Files.Path.mk
  logLevel := (valueIn? program command .logLevel).map shown
  command :=
    if command.page = .check then
      .check command.candidates (command.switches.contains .json)
        (command.switches.contains .strict)
    else .rules (command.switches.contains .json)

end Reading

def Request.read (arguments : List Argument) : Except Refusal Request := do
  let (program, command) ← Reading.readAll { page := .program } arguments
  match command with
  | some (.help, later) => .error (Reading.readHelp .program later)
  | some (page, later) =>
    let (command, _) ← Reading.readAll { page } later
    let command ← command.settle
    return Reading.request (← program.settle) command
  | none =>
    let program ← program.settle
    .error (if program.given.isEmpty then .nothingAsked else .commandMissing)

end LinkVetting.CommandLine
