import LinkVetting.Event

/-!
# Log filters

A filter says which events are logged. It is a list of directives, parted by commas. A directive is
a level, a target with or without a level, or a condition in brackets on the surroundings of an
event. An event is judged by the most specific directive that applies to it: the one with the
longest target, and among those one that asks for a field. Of two equal directives the later one
counts.

No part of the program has surroundings that a directive could name, so a directive that names some
applies to no event.
-/

namespace LinkVetting

/-- How detailed the log has to be to show a level; errors have one. -/
def Level.detail : Level → Nat
  | .error => 1
  | .warn => 2
  | .info => 3
  | .debug => 4
  | .trace => 5

def Event.fieldNames (event : Event) : List String := "message" :: event.fields.map (·.1)

namespace LogFilter

/-- The names of the degrees of detail, from none on. -/
def detailNames : List String := ["off", "error", "warn", "info", "debug", "trace"]

/-- The greatest degree of detail. -/
def fullDetail : Nat := 5

/-- The degree of detail that a text names, in any case, or numbers. -/
def readDetail (text : List Char) : Option Nat :=
  let digits := match text with
    | '+' :: rest => rest
    | _ => text
  if !digits.isEmpty && digits.all Char.isDigit then
    let detail := digits.foldl (fun value c => value * 10 + (c.toNat - 0x30)) 0
    if detail ≤ fullDetail then some detail else none
  else detailNames.idxOf? (String.ofList (text.map Char.toLower))

structure FieldCondition where
  name : List Char
  /-- Whether the field has to have a certain value. -/
  hasValue : Bool
  deriving DecidableEq, Repr

structure Directive where
  detail : Nat
  /-- What the target of an event has to begin with. -/
  target : Option (List Char) := none
  /-- The name of the surroundings. -/
  surroundings : Option (List Char) := none
  field : Option FieldCondition := none
  deriving DecidableEq, Repr

inductive Fault where
  | form
  | level
  deriving DecidableEq, Repr

def Fault.message : Fault → String
  | .form => "invalid filter directive"
  | .level =>
    "error parsing level filter: expected one of \"off\", \"error\", \"warn\", \"info\", " ++
      "\"debug\", \"trace\", or a number 0-5"

/-! ## Reading directives

The form of a directive is that of its text without the blanks around it. The parts are then cut out
of the whole text, at the places that they have in the text without blanks; so blanks before a
directive shift its parts. -/

def cut (text : List Char) (start stop : Nat) : List Char := (text.drop start).take (stop - start)

def trimmed (text : List Char) : List Char :=
  let isBlank (c : Char) : Bool := Unicode.isSpace c.toNat
  ((text.dropWhile isBlank).reverse.dropWhile isBlank).reverse

/-- Whether a character may begin a target or a level. -/
def beginsName (c : Char) : Bool :=
  c == '-' || c == ':' || c == '_' || Unicode.isAlphanumeric c.toNat

/-- Reads a level after an equals sign. Without a level all details are shown. -/
def readLevel (text : List Char) (start : Nat) (directive : Directive) : Except Fault Directive :=
  match text.drop start with
  | [] => .ok { directive with detail := fullDetail }
  | level =>
    match readDetail level with
    | some detail => .ok { directive with detail }
    | none => .error .level

/-- Reads what follows a condition; `rest` is what is left of the form. -/
def readAfterCondition (text rest : List Char) (start : Nat) (directive : Directive) :
    Except Fault Directive :=
  match rest with
  | [] => .ok directive
  | '=' :: _ => readLevel text (start + 1) directive
  | _ => .error .form

def readField (text : List Char) : FieldCondition where
  name := text.takeWhile (· != '=')
  hasValue := text.contains '='

/-- Reads a condition after its opening bracket; `rest` is what is left of the form. -/
def readCondition (text rest : List Char) (start : Nat) (directive : Directive) :
    Except Fault Directive :=
  let length := (rest.takeWhile fun c => c != ']' && c != '\x7b').length
  let name := cut text start (start + length)
  match rest.drop length with
  | ']' :: later =>
    readAfterCondition text later (start + length + 1) { directive with surroundings := some name }
  | '\x7b' :: later =>
    let fieldStart := start + length + 1
    let fieldLength := (later.takeWhile (· != '\x7d')).length
    let field := readField (cut text fieldStart (fieldStart + fieldLength))
    match later.drop fieldLength with
    | '\x7d' :: ']' :: last =>
      if fieldLength = 0 then .error .form
      else readAfterCondition text last (fieldStart + fieldLength + 2)
        { directive with
          surroundings := if name.isEmpty then none else some name, field := some field }
    | _ => .error .form
  | _ => .error .form

def Directive.read (text : List Char) : Except Fault Directive :=
  match trimmed text with
  | [] => .error .form
  | first :: later =>
    let shape := first :: later
    if first == '[' then readCondition text later 1 { detail := fullDetail }
    else if !beginsName first then .error .form
    else
      let length := (shape.takeWhile fun c => c != '=' && c != '[').length
      let target := some (text.take length)
      match shape.drop length with
      | [] =>
        match readDetail text with
        | some detail => .ok { detail }
        | none => .ok { detail := fullDetail, target := some text }
      | '=' :: _ => readLevel text (length + 1) { detail := fullDetail, target }
      | _ :: rest => readCondition text rest (length + 1) { detail := fullDetail, target }

/-! ## Judging events -/

namespace Directive

def applies (directive : Directive) (event : Event) : Bool :=
  directive.surroundings.isNone &&
    directive.target.all (fun target => target.isPrefixOf event.target.toList) &&
    directive.field.all fun field =>
      !field.hasValue && event.fieldNames.contains (String.ofList field.name)

/-- The length of a target; no target is shorter than any other. -/
def targetLength (directive : Directive) : Nat :=
  match directive.target with
  | some target => target.length + 1
  | none => 0

/-- Whether a directive takes precedence over an earlier one that applies to the same events. -/
def precedes (directive earlier : Directive) : Bool :=
  if directive.targetLength != earlier.targetLength then
    earlier.targetLength < directive.targetLength
  else match directive.field, earlier.field with
    | _, none => true
    | none, some _ => false
    | some field, some other => !(String.ofList field.name < String.ofList other.name)

end Directive

end LogFilter

structure LogFilter where
  directives : List LogFilter.Directive
  deriving DecidableEq, Repr

namespace LogFilter

/-- The directive that counts for an event, if any applies to it. -/
def directive? (filter : LogFilter) (event : Event) : Option Directive :=
  (filter.directives.filter (·.applies event)).foldl (fun found directive =>
    match found with
    | some earlier => if directive.precedes earlier then some directive else found
    | none => some directive) none

def admits (filter : LogFilter) (event : Event) : Bool :=
  match filter.directive? event with
  | some directive => event.level.detail ≤ directive.detail
  | none => false

/-- The filter with given directives. Without any, only errors are logged. -/
def ofDirectives (directives : List Directive) : LogFilter :=
  ⟨if directives.isEmpty then [{ detail := Level.error.detail }] else directives⟩

def pieces (text : String) : List String := (text.splitOn ",").filter (· != "")

/-- The filter that a text describes, if all its directives are right. -/
def read (text : String) : Except Fault LogFilter := do
  return ofDirectives (← (pieces text).mapM fun piece => Directive.read piece.toList)

/-- The filter of the directives in a text that are right, and the wrong ones with what is wrong. -/
def readLenient (text : String) : LogFilter × List (String × Fault) :=
  let answers := (pieces text).map fun piece => (piece, Directive.read piece.toList)
  let rights := answers.filterMap fun (_, answer) => answer.toOption
  let wrongs := answers.filterMap fun (piece, answer) =>
    match answer with
    | .ok _ => none
    | .error fault => some (piece, fault)
  (ofDirectives rights, wrongs)

/-- The wording for a directive that is left out. -/
def complaint (piece : String) (fault : Fault) : String :=
  "ignoring `" ++ piece ++ "`: " ++ fault.message ++ "\n"

end LogFilter

end LinkVetting
