/-!
# Switches and pages

A switch is an option of the command line. A page is a part of the command line with switches, a
usage line and a help text of its own: the program, one of its commands, or the help command.
-/

namespace LinkVetting.CommandLine

/-- The name of the program. -/
def programName : String := "link-guard"

/-- The version of the program. -/
def version : String := "0.1.0"

inductive Switch where
  | config
  | auditLog
  | logLevel
  | json
  | strict
  | help
  | version
  deriving DecidableEq, Repr

namespace Switch

def long : Switch → String
  | .config => "config"
  | .auditLog => "audit-log"
  | .logLevel => "log-level"
  | .json => "json"
  | .strict => "strict"
  | .help => "help"
  | .version => "version"

def short? : Switch → Option Char
  | .config => some 'c'
  | .help => some 'h'
  | .version => some 'V'
  | _ => none

/-- What the value stands for, if the switch takes one. -/
def valueName? : Switch → Option String
  | .config => some "CONFIG"
  | .auditLog => some "AUDIT_LOG"
  | .logLevel => some "LOG_LEVEL"
  | _ => none

def takesValue (switch : Switch) : Bool := switch.valueName?.isSome

/-- The switch with its value in usage lines. -/
def usage (switch : Switch) : String :=
  "--" ++ switch.long ++ match switch.valueName? with
    | some name => " <" ++ name ++ ">"
    | none => ""

end Switch

inductive Page where
  | program
  | check
  | rules
  | help
  deriving DecidableEq, Repr

namespace Page

def command : Page → String
  | .program => ""
  | .check => "check"
  | .rules => "rules"
  | .help => "help"

def commands : List Page := [.check, .rules, .help]

def ofCommand? (name : String) : Option Page := commands.find? (·.command = name)

/-- The switches in the order of the help text. -/
def switches : Page → List Switch
  | .program => [.config, .auditLog, .logLevel, .help, .version]
  | .check => [.config, .json, .auditLog, .strict, .logLevel, .help]
  | .rules => [.config, .json, .auditLog, .logLevel, .help]
  | .help => []

def long? (page : Page) (name : String) : Option Switch :=
  page.switches.find? (·.long = name)

def short? (page : Page) (name : Char) : Option Switch :=
  page.switches.find? (·.short? = some name)

def takesCandidates (page : Page) : Bool := page = .check

/-- The program and the command. -/
def invocation (page : Page) : String :=
  match page with
  | .program => programName
  | page => programName ++ " " ++ page.command

/-- The part of the usage line after the switches. -/
def operands : Page → String
  | .program => " <COMMAND>"
  | .check => " [CANDIDATES]..."
  | .rules => ""
  | .help => " [COMMAND]..."

/-- The usage line. It shows the given switches, if there are any. -/
def usage (page : Page) (given : List Switch) : String :=
  let switches :=
    if page.switches.isEmpty then ""
    else if given.isEmpty then " [OPTIONS]"
    else String.join (given.map fun switch => " " ++ switch.usage)
  "Usage: " ++ page.invocation ++ switches ++ page.operands

/-! ## Help texts -/

def about : Page → String
  | .program => "Checks untrusted strings before they are used as hyperlink targets"
  | .check => "Sanitize candidates given as arguments, or one per stdin line"
  | .rules => "List the validation rules in evaluation order"
  | .help => "Print this message or the help of the given subcommand(s)"

def purpose : Page → Switch → String
  | _, .config => "Path to the configuration file [default: link-guard.yaml]"
  | _, .auditLog =>
    "Append rejections to this JSON-lines audit file (overrides config file setting)"
  | _, .logLevel =>
    "Log filter, e.g. \"debug\" (overrides config file setting; RUST_LOG wins over both)"
  | .rules, .json => "Print the rules as a JSON array"
  | _, .json => "Print one JSON report per candidate instead of the sanitized value"
  | _, .strict => "Exit with status 1 if any candidate was rejected"
  | _, .help => "Print help"
  | _, .version => "Print version"

/-- A text with blanks up to a width. -/
def padded (width : Nat) (text : String) : String :=
  text ++ String.ofList (List.replicate (width - text.length) ' ')

/-- A list of names with what they are about, in two columns. -/
def columns (rows : List (String × String)) : String :=
  let width := rows.foldl (fun width (name, _) => max width name.length) 0
  String.join (rows.map fun (name, text) => "  " ++ padded (width + 2) name ++ text ++ "\n")

/-- The names of a switch in the help text. -/
def switchNames (switch : Switch) : String :=
  (match switch.short? with
    | some name => "-" ++ String.singleton name ++ ", "
    | none => "    ") ++ switch.usage

/-- The help text. -/
def helpText (page : Page) : String :=
  let commands :=
    if page = .program then
      "\nCommands:\n" ++ columns (commands.map fun page => (page.command, page.about))
    else ""
  let operands := match page with
    | .check => "\nArguments:\n" ++
        columns [("[CANDIDATES]...", "Candidate link targets; read from stdin when omitted")]
    | .help => "\nArguments:\n" ++
        columns [("[COMMAND]...", "Print help for the subcommand(s)")]
    | _ => ""
  let switches :=
    if page.switches.isEmpty then ""
    else "\nOptions:\n" ++
      columns (page.switches.map fun switch => (switchNames switch, page.purpose switch))
  page.about ++ "\n\n" ++ page.usage [] ++ "\n" ++ commands ++ operands ++ switches

end Page

end LinkVetting.CommandLine
