import LinkVetting.Yaml.TokenStream

/-!
# Events

A document is a nested value, told as a list of events in the order of its text: scalars, aliases,
and the starts and ends of sequences and mappings. Events are made from tokens one node after the
other, so what comes before a fault has been told when the fault is met.

A node may have an anchor. Anchors are numbered, and an alias has the number of the anchor it stands
for; the number of a new anchor is how many names have been used before it.
-/

namespace LinkVetting.Yaml

structure Scalar where
  text : List Char
  style : Style := .plain
  /-- The full text of the tag. -/
  tag : Option (List UInt8) := none
  deriving DecidableEq, Repr

inductive Event where
  /-- There is no value at all. -/
  | nothing
  | scalar (scalar : Scalar)
  | alias (number : Nat)
  | sequenceStart
  | sequenceEnd
  | mappingStart
  | mappingEnd
  deriving DecidableEq, Repr

/-- An event with the place in the text where it begins. -/
structure PlacedEvent where
  event : Event
  mark : Mark
  deriving DecidableEq, Repr

/-- The telling of a document as far as it has come. -/
structure Telling where
  tokens : TokenStream
  /-- The events told, last one first. -/
  told : List PlacedEvent := []
  /-- The number of events told. -/
  count : Nat := 0
  /-- The names of anchors with their numbers. -/
  anchors : List (List Char × Nat) := []
  /-- The numbers of anchors with the events where their nodes begin, latest first. -/
  targets : List (Nat × Nat) := []
  /-- The handles of tags with what they stand for. -/
  handles : List (List UInt8 × List UInt8) := []
  deriving Repr

/-- A step of the telling, which may meet a fault. -/
abbrev Teller := ExceptT Fault (StateM Telling)

/-! ## Tokens and events -/

def peek : Teller Token := do
  match (← get).tokens.next with
  | .ok (token, tokens) =>
    modify ({ · with tokens })
    return token
  | .error fault => throw fault

def skip : Teller Unit := modify fun telling => { telling with tokens := telling.tokens.take }

def refuse {α : Type} (token : Token) (problem : Problem) (context : Option Context := none) :
    Teller α :=
  throw (.malformed problem token.start context)

def tell (event : Event) (mark : Mark) : Teller Unit :=
  modify fun telling =>
    { telling with told := { event, mark } :: telling.told, count := telling.count + 1 }

def tellEmpty (mark : Mark) : Teller Unit := tell (.scalar { text := [] }) mark

/-- Gives a name to the node that the next event begins. -/
def setAnchor (name : List Char) : Teller Unit :=
  modify fun telling =>
    let others := telling.anchors.filter (·.1 != name)
    let number := telling.anchors.length
    { telling with
      anchors := (name, number) :: others
      targets := (number, telling.count) :: telling.targets }

def tellNode (event : Event) (mark : Mark) (anchor : Option (List Char)) : Teller Unit := do
  if let some name := anchor then setAnchor name
  tell event mark

def tellAlias (name : List Char) (mark : Mark) : Teller Unit := do
  match (← get).anchors.lookup name with
  | some number => tell (.alias number) mark
  | none => throw (.unknownAnchor mark)

/-! ## Nodes -/

/-- What may stand before the content of a node. -/
structure Properties where
  anchor : Option (List Char) := none
  tag : Option (WrittenTag × Mark) := none

/-- Reads an anchor and a tag in either order. -/
def readProperties : Teller Properties := do
  let token ← peek
  match token.kind with
  | .anchor name =>
    skip
    let token ← peek
    match token.kind with
    | .tag tag =>
      skip
      return { anchor := some name, tag := some (tag, token.start) }
    | _ => return { anchor := some name }
  | .tag tag =>
    skip
    let next ← peek
    match next.kind with
    | .anchor name =>
      skip
      return { anchor := some name, tag := some (tag, token.start) }
    | _ => return { tag := some (tag, token.start) }
  | _ => return {}

def fullTag (start : Mark) : Option (WrittenTag × Mark) → Teller (Option (List UInt8))
  | none => return none
  | some (tag, mark) => do
    if tag.handle.isEmpty then return some tag.name
    else
      match (← get).handles.lookup tag.handle with
      | some text => return some (text ++ tag.name)
      | none => throw (.malformed .handleUndefined mark (some { construct := .node, start }))

/-- The tag of a scalar. A lone exclamation mark is no tag. -/
def scalarTag (tag : Option (List UInt8)) : Option (List UInt8) :=
  if tag == some [exclamation] then none else tag

mutual

/-- Reads a node. Block collections may stand only where `isBlock` says so, and sequences whose
hyphens are not indented only where `isIndentless` says so. `fuel` bounds the number of tokens, also
in the functions below. -/
def readNode : (fuel : Nat) → (isBlock isIndentless : Bool) → Teller Unit
  | 0, _, _ => return
  | fuel + 1, isBlock, isIndentless => do
    let first ← peek
    let start := first.start
    if let .alias name := first.kind then
      skip
      tellAlias name start
    else
      let properties ← readProperties
      let token ← peek
      let tag ← fullTag start properties.tag
      let tellNode (event : Event) : Teller Unit := tellNode event start properties.anchor
      match token.kind with
      | .scalar text style =>
        skip
        tellNode (.scalar { text, style, tag := scalarTag tag })
      | .flowSequenceStart =>
        tellNode .sequenceStart
        skip
        readFlowEntries fuel token.start true
      | .flowMappingStart =>
        tellNode .mappingStart
        skip
        readFlowPairs fuel token.start true
      | kind =>
        if isIndentless && kind == .blockEntry then
          tellNode .sequenceStart
          readIndentlessEntries fuel
        else if isBlock && kind == .blockSequenceStart then
          tellNode .sequenceStart
          skip
          readBlockEntries fuel token.start
        else if isBlock && kind == .blockMappingStart then
          tellNode .mappingStart
          skip
          readBlockPairs fuel token.start
        else if properties.anchor.isSome || tag.isSome then
          tellNode (.scalar { text := [], tag })
        else
          let construct := if isBlock then Construct.blockNode else .flowNode
          refuse token .contentMissing (some { construct, start })

def readBlockEntries : (fuel : Nat) → (start : Mark) → Teller Unit
  | 0, _ => return
  | fuel + 1, start => do
    let token ← peek
    match token.kind with
    | .blockEntry =>
      skip
      let next ← peek
      if next.isOneOf [.blockEntry, .blockEnd] then tellEmpty token.stop
      else readNode fuel true false
      readBlockEntries fuel start
    | .blockEnd =>
      tell .sequenceEnd token.start
      skip
    | _ => refuse token .entryMissing (some { construct := .blockSequence, start })

/-- Reads the entries of a sequence whose hyphens are not indented. -/
def readIndentlessEntries : (fuel : Nat) → Teller Unit
  | 0 => return
  | fuel + 1 => do
    let token ← peek
    if token.kind == .blockEntry then
      skip
      let next ← peek
      if next.isOneOf [.blockEntry, .key, .value, .blockEnd] then tellEmpty token.stop
      else readNode fuel true false
      readIndentlessEntries fuel
    else tell .sequenceEnd token.start

def readBlockPairs : (fuel : Nat) → (start : Mark) → Teller Unit
  | 0, _ => return
  | fuel + 1, start => do
    let token ← peek
    match token.kind with
    | .key =>
      skip
      let next ← peek
      if next.isOneOf [.key, .value, .blockEnd] then tellEmpty token.stop
      else readNode fuel true true
      readBlockValue fuel
      readBlockPairs fuel start
    | .blockEnd =>
      tell .mappingEnd token.start
      skip
    | _ => refuse token .keyMissing (some { construct := .blockMapping, start })

/-- Reads the value of a pair of a block mapping. -/
def readBlockValue : (fuel : Nat) → Teller Unit
  | 0 => return
  | fuel + 1 => do
    let token ← peek
    if token.kind == .value then
      skip
      let next ← peek
      if next.isOneOf [.key, .value, .blockEnd] then tellEmpty token.stop
      else readNode fuel true true
    else tellEmpty token.start

def readFlowEntries : (fuel : Nat) → (start : Mark) → (isFirst : Bool) → Teller Unit
  | 0, _, _ => return
  | fuel + 1, start, isFirst => do
    let token ← peek
    let token ←
      if isFirst || token.kind == .flowSequenceEnd then pure token
      else if token.kind == .flowEntry then do
        skip
        peek
      else refuse token .sequenceEndMissing (some { construct := .flowSequence, start })
    match token.kind with
    | .flowSequenceEnd =>
      tell .sequenceEnd token.start
      skip
    | .key =>
      tell .mappingStart token.start
      skip
      readLonePair fuel
      readFlowEntries fuel start false
    | _ =>
      readNode fuel false false
      readFlowEntries fuel start false

/-- Reads a pair that stands in a sequence, after the mark of its key. -/
def readLonePair : (fuel : Nat) → Teller Unit
  | 0 => return
  | fuel + 1 => do
    let token ← peek
    if token.isOneOf [.value, .flowEntry, .flowSequenceEnd] then
      skip
      tellEmpty token.stop
    else readNode fuel false false
    let token ← peek
    if token.kind == .value then
      skip
      let next ← peek
      if next.isOneOf [.flowEntry, .flowSequenceEnd] then tellEmpty next.start
      else readNode fuel false false
    else tellEmpty token.start
    let token ← peek
    tell .mappingEnd token.start

def readFlowPairs : (fuel : Nat) → (start : Mark) → (isFirst : Bool) → Teller Unit
  | 0, _, _ => return
  | fuel + 1, start, isFirst => do
    let token ← peek
    let token ←
      if isFirst || token.kind == .flowMappingEnd then pure token
      else if token.kind == .flowEntry then do
        skip
        peek
      else refuse token .mappingEndMissing (some { construct := .flowMapping, start })
    match token.kind with
    | .flowMappingEnd =>
      tell .mappingEnd token.start
      skip
    | .key =>
      skip
      let next ← peek
      if next.isOneOf [.value, .flowEntry, .flowMappingEnd] then tellEmpty next.start
      else readNode fuel false false
      readFlowValue fuel
      readFlowPairs fuel start false
    | _ =>
      readNode fuel false false
      tellEmpty (← peek).start
      readFlowPairs fuel start false

/-- Reads the value of a pair of a mapping between brackets. -/
def readFlowValue : (fuel : Nat) → Teller Unit
  | 0 => return
  | fuel + 1 => do
    let token ← peek
    if token.kind == .value then
      skip
      let next ← peek
      if next.isOneOf [.flowEntry, .flowMappingEnd] then tellEmpty next.start
      else readNode fuel false false
    else tellEmpty token.start

end

end LinkVetting.Yaml
