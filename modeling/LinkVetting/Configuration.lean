import LinkVetting.Files.Disk
import LinkVetting.Unicode.Category
import LinkVetting.Yaml.Decoder

/-!
# Configuration

The configuration file is a YAML mapping with two sections, for the log and for the output. All of
it may be left out. A file that is not there stands for the default configuration; a file that
cannot be read, or does not have the right form, is a fault.
-/

namespace LinkVetting

open Files (Disk)

/-- The settings that hold when a command line gives none. -/
structure Configuration where
  /-- What is logged, in the language of filters. -/
  logLevel : String := "warn"
  /-- The file to which rejections are added. -/
  auditLog : Option Files.Path := none
  json : Bool := false
  strict : Bool := false
  deriving DecidableEq, Repr

namespace Configuration

/-! ## The form of the file -/

structure LogSection where
  level : Option String := none
  auditLog : Option (Option Files.Path) := none

structure OutputSection where
  json : Option Bool := none
  strict : Option Bool := none

structure Draft where
  log : Option LogSection := none
  output : Option OutputSection := none

/-- A field whose value is put into a draft. -/
def field {δ α : Type} (name : String) (get : δ → Option α) (put : δ → α → δ)
    (decode : Yaml.Decoder α) : Yaml.Field δ where
  name
  isGiven draft := (get draft).isSome
  decode draft := fun document keys around events => do
    let (value, later) ← decode document keys around events
    return (put draft value, later)

/-- A path spelled by the text of a scalar. -/
def decodePath : Yaml.Decoder Files.Path := fun document keys around events => do
  let (text, later) ← Yaml.decodeText "path string" document keys around events
  return (Files.Path.ofString (String.ofList text), later)

def decodeString : Yaml.Decoder String := fun document keys around events => do
  let (text, later) ← Yaml.decodeText "a string" document keys around events
  return (String.ofList text, later)

def decodeLogSection : Yaml.Decoder LogSection :=
  Yaml.decodeRecord "LoggingConfig" [
    field "level" LogSection.level (fun draft level => { draft with level := some level })
      decodeString,
    field "audit_log_path" LogSection.auditLog
      (fun draft path => { draft with auditLog := some path }) (Yaml.decodeOption decodePath)] {}

def decodeOutputSection : Yaml.Decoder OutputSection :=
  Yaml.decodeRecord "OutputConfig" [
    field "json" OutputSection.json (fun draft json => { draft with json := some json })
      Yaml.decodeBool,
    field "strict" OutputSection.strict (fun draft strict => { draft with strict := some strict })
      Yaml.decodeBool] {}

def decodeDraft : Yaml.Decoder Draft :=
  Yaml.decodeRecord "Config" [
    field "logging" Draft.log (fun draft log => { draft with log := some log }) decodeLogSection,
    field "output" Draft.output (fun draft output => { draft with output := some output })
      decodeOutputSection] {}

/-- The configuration of a draft, with defaults for what is left out. -/
def ofDraft (draft : Draft) : Configuration :=
  let log := draft.log.getD {}
  let output := draft.output.getD {}
  let defaults : Configuration := {}
  { logLevel := log.level.getD defaults.logLevel
    auditLog := log.auditLog.getD defaults.auditLog
    json := output.json.getD defaults.json
    strict := output.strict.getD defaults.strict }

/-- The configuration that a text describes. A blank text describes the default one. -/
def read (text : List Char) : Except Yaml.Fault Configuration :=
  if text.all fun c => Unicode.isSpace c.toNat then .ok {}
  else (Yaml.decodeWhole decodeDraft text).map ofDraft

/-! ## The file -/

inductive Fault where
  | unreadable (path : Files.Path) (fault : Files.Fault)
  /-- The file does not hold text. -/
  | notText (path : Files.Path)
  | malformed (path : Files.Path) (fault : Yaml.Fault)
  deriving DecidableEq, Repr

def Fault.message : Fault → String
  | .unreadable path fault => "failed to read config file " ++ path.text ++ ": " ++ fault.message
  | .notText path =>
    "failed to read config file " ++ path.text ++ ": stream did not contain valid UTF-8"
  | .malformed path fault => "failed to parse config file " ++ path.text ++ ": " ++ fault.message

/-- Loads the configuration from a file, if the file is there. -/
def load (disk : Disk) (path : Files.Path) : Except Fault (Option Configuration) :=
  if !disk.hasNode path then .ok none
  else
    match disk.read path with
    | .error fault => .error (.unreadable path fault)
    | .ok bytes =>
      match Text.Utf8.decode? bytes with
      | none => .error (.notText path)
      | some text =>
        match read text with
        | .ok configuration => .ok (some configuration)
        | .error fault => .error (.malformed path fault)

end Configuration

end LinkVetting
