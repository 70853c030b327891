import LinkVetting.Files.Path

/-!
# Files and directories

A disk is a tree of directories, files and devices, with a working directory. Everything that can
go wrong with a path is a fault with a wording of its own.
-/

namespace LinkVetting.Files

inductive Fault where
  | notFound
  | alreadyThere
  | notDirectory
  | isDirectory
  /-- A name on the path is too long, or the path as a whole is. -/
  | nameTooLong
  | noSpace
  | notSupported
  | zeroInName
  deriving DecidableEq, Repr

def Fault.message : Fault → String
  | .notFound => "No such file or directory (os error 2)"
  | .alreadyThere => "File exists (os error 17)"
  | .notDirectory => "Not a directory (os error 20)"
  | .isDirectory => "Is a directory (os error 21)"
  | .nameTooLong => "File name too long (os error 36)"
  | .noSpace => "No space left on device (os error 28)"
  | .notSupported => "Invalid argument (os error 22)"
  | .zeroInName => "file name contained an unexpected NUL byte"

/-- A file with its content, a device, or a directory with what is in it. -/
inductive Node where
  | file (content : List UInt8)
  /-- A device takes every byte and keeps none, or is always full. -/
  | device (isFull : Bool)
  | directory (entries : List (Name × Node))

namespace Node

def isDirectory : Node → Bool
  | .directory _ => true
  | _ => false

def get? : Node → List Name → Option Node
  | node, [] => some node
  | .directory entries, name :: later =>
    match entries.lookup name with
    | some node => node.get? later
    | none => none
  | _, _ :: _ => none

def putEntry (name : Name) (node : Node) : List (Name × Node) → List (Name × Node)
  | [] => [(name, node)]
  | (other, held) :: later =>
    if name = other then (name, node) :: later else (other, held) :: putEntry name node later

/-- A tree with the node at a place replaced or added. -/
def put : Node → List Name → Node → Node
  | _, [], new => new
  | .directory entries, name :: later, new =>
    .directory
      (putEntry name (put ((entries.lookup name).getD (.directory [])) later new) entries)
  | node, _ :: _, _ => node

mutual

/-- The files of a tree with their places; `above` is the place of the tree. -/
def files (above : List Name) : Node → List (List Name × List UInt8)
  | .file content => [(above, content)]
  | .device _ => []
  | .directory entries => filesOfEntries above entries

/-- The files of the entries of a directory with their places. -/
def filesOfEntries (above : List Name) : List (Name × Node) → List (List Name × List UInt8)
  | [] => []
  | (name, node) :: later => node.files (above ++ [name]) ++ filesOfEntries above later

/-- The directories below a tree with their places, outer ones first; `above` is the place of the
tree. -/
def directories (above : List Name) : Node → List (List Name)
  | .file _ | .device _ => []
  | .directory entries => directoriesOfEntries above entries

/-- The directories among the entries of a directory and below them. -/
def directoriesOfEntries (above : List Name) : List (Name × Node) → List (List Name)
  | [] => []
  | (name, node) :: later =>
    let place := above ++ [name]
    (if node.isDirectory then [place] else []) ++ node.directories place ++
      directoriesOfEntries above later

end

end Node

/-- A tree and the place of the working directory in it. -/
structure Disk where
  root : Node
  workingDirectory : List Name

namespace Disk

/-- The longest name in bytes. -/
def longestName : Nat := 255

/-- The longest path in bytes. Only the path as it is written counts, not the place it leads to. -/
def longestPath : Nat := 4095

/-- Follows components from a place. Every place but the last has to be a directory. -/
def walk (disk : Disk) (place : List Name) : List Component → Except Fault (List Name)
  | [] => .ok place
  | component :: later =>
    match disk.root.get? place with
    | none => .error .notFound
    | some node =>
      if !node.isDirectory then .error .notDirectory
      else match component with
        | .here => walk disk place later
        | .up => walk disk place.dropLast later
        | .name name =>
          if name.length > longestName then .error .nameTooLong
          else walk disk (place ++ [name]) later

def follow (disk : Disk) (path : Path) (components : List Component) :
    Except Fault (List Name) :=
  if path.bytes.isEmpty then .error .notFound
  else if path.bytes.contains 0 then .error .zeroInName
  else if path.bytes.length > longestPath then .error .nameTooLong
  else disk.walk (if path.isAbsolute then [] else disk.workingDirectory) components

/-- The place that a path leads to, whether there is anything or not. -/
def locate (disk : Disk) (path : Path) : Except Fault (List Name) :=
  disk.follow path path.components

def find (disk : Disk) (path : Path) : Except Fault Node := do
  let place ← disk.follow path path.fullComponents
  match disk.root.get? place with
  | some node => return node
  | none => .error .notFound

def hasNode (disk : Disk) (path : Path) : Bool := (disk.find path).isOk

def isDirectory (disk : Disk) (path : Path) : Bool :=
  match disk.find path with
  | .ok node => node.isDirectory
  | .error _ => false

def read (disk : Disk) (path : Path) : Except Fault (List UInt8) := do
  match ← disk.find path with
  | .file content => return content
  | .device _ => return []
  | .directory _ => .error .isDirectory

/-- A disk with the node at a place replaced or added. -/
def put (disk : Disk) (place : List Name) (node : Node) : Disk :=
  { disk with root := disk.root.put place node }

def makeDirectory (disk : Disk) (path : Path) : Except Fault Disk := do
  let place ← disk.locate path
  match disk.root.get? place with
  | some _ => .error .alreadyThere
  | none => return disk.put place (.directory [])

/-- Makes a directory and the directories above it that are missing. Nothing is wrong if the
directory is there already. Directories made before a fault stay. -/
def makeDirectories (disk : Disk) (path : Path) : (fuel : Nat) → Disk × Except Fault Unit
  | 0 => (disk, .error .notFound)
  | fuel + 1 =>
    if path.bytes.isEmpty then (disk, .ok ())
    else
      let settle (disk : Disk) : Disk × Except Fault Unit :=
        match disk.makeDirectory path with
        | .ok disk => (disk, .ok ())
        | .error fault => (disk, if disk.isDirectory path then .ok () else .error fault)
      match disk.makeDirectory path, path.parent? with
      | .error .notFound, some parent =>
        match disk.makeDirectories parent fuel with
        | (disk, .ok ()) => settle disk
        | (disk, .error fault) => (disk, .error fault)
      | _, _ => settle disk

/-- Opens a file for appending, and makes it if it is missing. Answers the place of the file. -/
def openAppend (disk : Disk) (path : Path) : Except Fault (Disk × List Name) := do
  let place ← disk.locate path
  match disk.root.get? place with
  | some (.directory _) => .error .isDirectory
  | some _ => if path.endsWithSlash then .error .isDirectory else return (disk, place)
  | none =>
    if path.endsWithSlash then .error .isDirectory
    else return (disk.put place (.file []), place)

/-- Replaces the content of a file, and makes it if it is missing. -/
def overwrite (disk : Disk) (path : Path) (content : List UInt8) : Except Fault Disk := do
  let (disk, place) ← disk.openAppend path
  match disk.root.get? place with
  | some (.file _) => return disk.put place (.file content)
  | _ => return disk

end Disk

end LinkVetting.Files
