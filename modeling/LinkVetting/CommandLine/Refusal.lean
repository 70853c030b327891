import LinkVetting.CommandLine.Page

/-!
# Refusals

A command line that is not carried out is refused: it asks for help or for the version, or it is
wrong. A wrong command line is answered with what is wrong, a hint where there is one, and the
usage line.
-/

namespace LinkVetting.CommandLine

inductive Hint where
  | similarSwitch (switch : String)
  /-- A command has a similar switch. -/
  | switchOfCommand (command switch : String)
  /-- The argument can be given as a candidate. -/
  | asCandidate (argument : String)
  | similarCommands (names : List String)
  /-- The argument after two hyphens is the name of a command. -/
  | commandAfterHyphens (name : String)
  deriving DecidableEq, Repr

def Hint.message : Hint → String
  | .similarSwitch switch => "a similar argument exists: '--" ++ switch ++ "'"
  | .switchOfCommand command switch => "'" ++ command ++ " --" ++ switch ++ "' exists"
  | .asCandidate argument =>
    "to pass '" ++ argument ++ "' as a value, use '-- " ++ argument ++ "'"
  | .similarCommands [name] => "a similar subcommand exists: '" ++ name ++ "'"
  | .similarCommands names =>
    "some similar subcommands exist: " ++
      ", ".intercalate (names.map fun name => "'" ++ name ++ "'")
  | .commandAfterHyphens name =>
    "subcommand '" ++ name ++ "' exists; to use it, remove the '--' before it"

inductive Refusal where
  | help (page : Page)
  | version
  /-- Nothing at all was asked for. -/
  | nothingAsked
  | commandMissing
  | unknownCommand (page : Page) (name : String) (hint : Option Hint)
  | unknownArgument (page : Page) (argument : String) (hint : Option Hint) (given : List Switch)
  | valueMissing (switch : Switch)
  | valueUnwanted (page : Page) (switch : Switch) (value : String) (given : List Switch)
  | usedTwice (page : Page) (switch : Switch)
  /-- An argument that has to be text is none. -/
  | notText (page : Page)
  deriving DecidableEq, Repr

namespace Refusal

/-- The wording of what is wrong, without hint and usage line. -/
def reason : Refusal → String
  | .help _ | .version | .nothingAsked => ""
  | .commandMissing =>
    "'" ++ programName ++ "' requires a subcommand but one was not provided\n  [subcommands: " ++
      ", ".intercalate (Page.commands.map Page.command) ++ "]"
  | .unknownCommand _ name _ => "unrecognized subcommand '" ++ name ++ "'"
  | .unknownArgument _ argument _ _ => "unexpected argument '" ++ argument ++ "' found"
  | .valueMissing switch =>
    "a value is required for '" ++ switch.usage ++ "' but none was supplied"
  | .valueUnwanted _ switch value _ =>
    "unexpected value '" ++ value ++ "' for '" ++ switch.usage ++
      "' found; no more were expected"
  | .usedTwice _ switch =>
    "the argument '" ++ switch.usage ++ "' cannot be used multiple times"
  | .notText _ => "invalid UTF-8 was detected in one or more arguments"

def hint? : Refusal → Option Hint
  | .unknownCommand _ _ hint | .unknownArgument _ _ hint _ => hint
  | _ => none

/-- The page whose usage line is shown, with the switches to be shown. -/
def usagePage? : Refusal → Option (Page × List Switch)
  | .commandMissing => some (.program, [])
  | .unknownCommand page _ _ | .usedTwice page _ | .notText page => some (page, [])
  | .unknownArgument page _ _ given | .valueUnwanted page _ _ given => some (page, given)
  | _ => none

/-- Whether the command line is wrong, and not a question for help or the version. -/
def isFailure : Refusal → Bool
  | .help _ | .version => false
  | _ => true

/-- The answer to a wrong command line. -/
def failureText (refusal : Refusal) : String :=
  let hint := match refusal.hint? with
    | some hint => "\n\n  tip: " ++ hint.message
    | none => ""
  let usage := match refusal.usagePage? with
    | some (page, given) => "\n\n" ++ page.usage given
    | none => ""
  let more := match refusal.usagePage? with
    | some (.help, _) => "\n"
    | _ => "\n\nFor more information, try '--help'.\n"
  "error: " ++ refusal.reason ++ hint ++ usage ++ more

/-- The answer to a command line that is not carried out. -/
def text : Refusal → String
  | .help page => page.helpText
  | .nothingAsked => Page.program.helpText
  | .version => programName ++ " " ++ CommandLine.version ++ "\n"
  | refusal => refusal.failureText

/-- The exit status. -/
def exitStatus (refusal : Refusal) : Nat := if refusal.isFailure then 2 else 0

end Refusal

end LinkVetting.CommandLine
