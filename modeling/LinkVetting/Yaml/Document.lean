import LinkVetting.Yaml.Event

/-!
# Documents

A text holds documents, of which only the first one is of use. It is told as far as possible; a
fault in it counts only when the events before the fault have been used up.
-/

namespace LinkVetting.Yaml

/-! ## The start of a document -/

/-- What the handles stand for that need no directive. -/
def commonHandles : List (List UInt8 × List UInt8) := [
  (asciiBytes ['!'], asciiBytes ['!']),
  (asciiBytes ['!', '!'], asciiBytes "tag:yaml.org,2002:".toList)]

def isSupported (major minor : Nat) : Bool := major == 1 && (minor == 1 || minor == 2)

def isDirective (token : Token) : Bool :=
  match token.kind with
  | .version .. | .handle .. => true
  | _ => false

/-- Reads the directives before a document. `fuel` bounds their number. -/
def readDirectives : (fuel : Nat) → (hasVersion : Bool) → Teller Unit
  | 0, _ => return
  | fuel + 1, hasVersion => do
    let token ← peek
    match token.kind with
    | .version major minor =>
      if hasVersion then refuse token .versionTwice
      if !isSupported major minor then refuse token .versionUnsupported
      skip
      readDirectives fuel true
    | .handle handle text =>
      if ((← get).handles.lookup handle).isSome then refuse token .handleTwice
      modify fun telling => { telling with handles := telling.handles ++ [(handle, text)] }
      skip
      readDirectives fuel hasVersion
    | _ => modify fun telling => { telling with handles := telling.handles ++ commonHandles }

inductive Opening where
  /-- There is no document. -/
  | missing
  /-- The content begins at once. -/
  | bare
  /-- The start of the document is marked. -/
  | marked
  deriving DecidableEq, Repr

/-- Reads the start of a document. After directives it has to be marked. -/
def readOpening (fuel : Nat) : Teller Opening := do
  let first ← peek
  if first.kind == .streamEnd then return .missing
  else
    readDirectives fuel false
    let token ← peek
    if token.kind == .documentStart then
      skip
      return .marked
    else if isDirective first then refuse token .documentStartMissing
    else return .bare

/-- Reads the content of a document. A document whose start is marked may be empty. -/
def readContent (fuel : Nat) (opening : Opening) : Teller Unit := do
  let token ← peek
  match opening with
  | .missing => tell .nothing token.start
  | .bare => readNode fuel true false
  | .marked =>
    if isDirective token || token.isOneOf [.documentStart, .documentEnd, .streamEnd] then
      tellEmpty token.start
    else readNode fuel true false

def readDocument (fuel : Nat) : Teller Unit := do
  readContent fuel (← readOpening fuel)
  let token ← peek
  if token.kind == .documentEnd then skip

/-! ## Documents as lists of events -/

structure Document where
  events : List PlacedEvent
  /-- The numbers of anchors with the events where their nodes begin, latest first. -/
  targets : List (Nat × Nat)
  /-- What is wrong after the last event. -/
  fault : Option Fault
  /-- Whether the text goes on after the document. -/
  isFollowed : Bool
  deriving Repr

namespace Document

/-- Whether a text goes on after a document; `fuel` bounds the number of marks that end it. -/
def goesOn : (fuel : Nat) → TokenStream → Bool
  | 0, _ => false
  | fuel + 1, tokens =>
    match tokens.next with
    | .ok (token, tokens) =>
      if token.kind == .documentEnd then goesOn fuel tokens.take else token.kind != .streamEnd
    | .error _ => true

def read (text : List Char) : Document :=
  match controlOffset? text with
  | some offset =>
    { events := [], targets := [], fault := some (.control offset), isFollowed := false }
  | none =>
    let fuel := 8 * text.length + 8
    let (answer, telling) := (readDocument fuel).run { tokens := .ofText text }
    let fault := match answer with
      | .ok () => none
      | .error fault => some fault
    { events := telling.told.reverse
      targets := telling.targets
      fault
      isFollowed := fault.isNone && goesOn fuel telling.tokens }

def shortage (document : Document) : Fault := document.fault.getD .unfinished

/-- The events from the node of an anchor on. -/
def eventsAt (document : Document) (number : Nat) : List PlacedEvent :=
  match document.targets.lookup number with
  | some place => document.events.drop place
  | none => []

/-- What is wrong with a text whose first document could be used. -/
def finalFault? (document : Document) : Option Fault :=
  match document.fault with
  | some fault => some fault
  | none => if document.isFollowed then some .furtherDocument else none

end Document

end LinkVetting.Yaml
