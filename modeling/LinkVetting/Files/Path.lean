import LinkVetting.Text.Utf8

/-!
# Paths

A path is a byte string. Slashes part its components; a component `.` stays where it is, and `..`
leads one directory up. A path that begins with a slash starts at the root, any other at the
working directory.
-/

namespace LinkVetting.Files

abbrev Name := List UInt8

structure Path where
  bytes : List UInt8
  deriving DecidableEq, Repr

inductive Component where
  | here
  | up
  | name (name : Name)
  deriving DecidableEq, Repr

namespace Path

/-- The byte that parts components. -/
def slash : UInt8 := 0x2F

/-- The byte of which `.` and `..` are made. -/
def dot : UInt8 := 0x2E

def ofString (text : String) : Path := ⟨Text.Utf8.encode text.toList⟩

/-- A path as text; what is not text in it is replaced. -/
def text (path : Path) : String := String.ofList (Text.Utf8.decodeLossy path.bytes)

def isAbsolute (path : Path) : Bool := path.bytes.head? == some slash

def endsWithSlash (path : Path) : Bool := path.bytes.getLast? == some slash

/-- The pieces of a byte string between slashes; `piece` is what has been read of the current one,
last byte first. -/
def piecesFrom (piece : List UInt8) : List UInt8 → List Name
  | [] => [piece.reverse]
  | byte :: later =>
    if byte = slash then piece.reverse :: piecesFrom [] later
    else piecesFrom (byte :: piece) later

def pieces (bytes : List UInt8) : List Name := piecesFrom [] bytes

/-- The component that a piece spells; an empty piece spells none. -/
def component? (piece : Name) : Option Component :=
  if piece.isEmpty then none
  else if piece = [dot] then some .here
  else if piece = [dot, dot] then some .up
  else some (.name piece)

def components (path : Path) : List Component := (pieces path.bytes).filterMap component?

/-- The components of a path that has to lead to a directory if it ends with a slash. -/
def fullComponents (path : Path) : List Component :=
  path.components ++ if path.endsWithSlash then [.here] else []

def join : List Name → List UInt8
  | [] => []
  | [piece] => piece
  | piece :: later => piece ++ slash :: join later

def isProper (piece : Name) : Bool := !piece.isEmpty && piece != [dot]

def trimmed (pieces : List Name) : List Name :=
  (pieces.reverse.dropWhile fun piece => !isProper piece).reverse

/-- The start of a path that is not part of its pieces: a slash, or a dot before a slash. -/
def start (path : Path) : List UInt8 :=
  match path.bytes with
  | [first] => if first = slash || first = dot then [first] else []
  | first :: second :: _ =>
    if first = slash || (first = dot && second = slash) then [first] else []
  | [] => []

/-- The path without its last component. The root and the empty path have no parent. -/
def parent? (path : Path) : Option Path :=
  let body := pieces (path.bytes.drop path.start.length)
  match trimmed body with
  | [] => if path.start = [dot] then some ⟨[]⟩ else none
  | proper => some ⟨path.start ++ join (trimmed proper.dropLast)⟩

end Path

end LinkVetting.Files
