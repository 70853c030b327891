import LinkVetting.Program
import Std.Time.DateTime.Timestamp

/-!
# The command

Looks at the surroundings of a run as far as the run depends on them, and carries out what the run
leaves behind. Of the file system only the places on the way to the configuration file and to the
trail are looked at; a trail only grows, so its content is not read.
-/

namespace LinkVetting.Main

open CommandLine (Request)
open Files (Component Disk Name Node)

/-! ## Looking at the surroundings -/

/-- The devices that are known, with whether they are full. -/
def devices : List (String × Bool) := [("/dev/null", false), ("/dev/full", true)]

/-- The text of a place on the disk. -/
def placeText (place : List Name) : String := "/" ++ (Files.Path.mk (Files.Path.join place)).text

/-- The node at a place of the file system, if there is one that can be read. -/
def lookAt (place : List Name) (withContent : Bool) : IO (Option Node) := do
  let name := placeText place
  match devices.lookup name with
  | some isFull => return some (.device isFull)
  | none =>
    try
      let found ← IO.FS.realPath name
      if ← found.isDir then return some (.directory [])
      else if withContent then return some (.file (← IO.FS.readBinFile name).toList)
      else return some (.file [])
    catch _ => return none

/-- Adds a node that is found at a place and not known yet. -/
def discover (disk : Disk) (place : List Name) (withContent : Bool) : IO Disk := do
  if (disk.root.get? place).isSome then return disk
  else
    match ← lookAt place withContent with
    | some node => return disk.put place node
    | none => return disk

/-- Adds the nodes that are found on the way to a path. -/
def discoverPath (disk : Disk) (path : Files.Path) (withContent : Bool) : IO Disk := do
  let mut disk := disk
  let mut place := if path.isAbsolute then [] else disk.workingDirectory
  for component in path.components do
    place := match component with
      | .here => place
      | .up => place.dropLast
      | .name name => place ++ [name]
    disk ← discover disk place withContent
  return disk

/-- The disk with the way to the working directory alone. -/
def emptyDisk : IO Disk := do
  let here := Files.Path.ofString (toString (← IO.currentDir))
  discoverPath { root := .directory [], workingDirectory := Files.Path.pieces (here.bytes.drop 1) }
    here false

/-- The disk as far as a request depends on it. -/
def diskFor (request : Request) : IO Disk := do
  let disk ← discoverPath (← emptyDisk) request.config true
  match Configuration.load disk request.config with
  | .error _ => return disk
  | .ok loaded =>
    match ((loaded.getD {}).overridden request).auditLog with
    | some path => discoverPath disk path false
    | none => return disk

/-- All bytes of a stream. -/
partial def readAll (stream : IO.FS.Stream) (begun : List ByteArray := []) : IO (List UInt8) := do
  let bytes ← stream.read 65536
  if bytes.isEmpty then return begun.reverse.flatMap ByteArray.toList
  else readAll stream (bytes :: begun)

def now : IO Timestamp := do
  let time ← Std.Time.Timestamp.now
  let nanoseconds := time.toNanosecondsSinceUnixEpoch.val.toNat
  return Timestamp.afterEpoch (nanoseconds / 1000000000) (nanoseconds % 1000000000)

def stampsFor (count : Nat) : IO (Nat → Audit.Stamp) := do
  let bytes ← IO.getRandomBytes (32 * count).toUSize
  let timestamp ← now
  let digit (place : Nat) : Fin 16 :=
    ⟨(bytes[place]?.getD 0).toNat % 16, Nat.mod_lt _ (by decide)⟩
  return fun index =>
    { id := Uuid.ofRandom fun place => digit (32 * index + place), timestamp }

def surroundings (arguments : List String) : IO Surroundings := do
  let arguments := arguments.map fun argument => Text.Utf8.encode argument.toList
  let filter ← IO.getEnv "RUST_LOG"
  match Request.read arguments with
  | .error _ => return { arguments, filter, disk := ← emptyDisk, stamps := ← stampsFor 0 }
  | .ok request =>
    let input ← if Surroundings.needsInput request then readAll (← IO.getStdin) else pure []
    let disk ← diskFor request
    let stamps ← stampsFor (max arguments.length (Candidate.ofBytes input).length + 2)
    return { arguments, input, filter, disk, stamps }

/-! ## Carrying out a run -/

def say (notice : Notice) : IO Unit := do
  let time ← now
  let output ← IO.getStderr
  match notice with
  | .text text => output.putStr text
  | .event event => output.putStr (String.ofList (event.line time))

/-- Makes the directories that are new on a disk. -/
def makeDirectories (before after : Disk) : IO Unit := do
  for place in after.root.directories [] do
    if (before.root.get? place).isNone then IO.FS.createDirAll (placeText place)

/-- Adds to the files that have grown on a disk. -/
def growFiles (before after : Disk) : IO Unit := do
  for (place, content) in after.root.files [] do
    let old := match before.root.get? place with
      | some (.file old) => some old
      | _ => none
    if old != some content then
      let handle ← IO.FS.Handle.mk (placeText place) .append
      handle.write (content.drop (old.getD []).length).toByteArray
      handle.flush

end LinkVetting.Main

def main (arguments : List String) : IO UInt32 := do
  let surroundings ← LinkVetting.Main.surroundings arguments
  let run := surroundings.run
  LinkVetting.Main.makeDirectories surroundings.disk run.disk
  LinkVetting.Main.growFiles surroundings.disk run.disk
  for notice in run.notices do
    LinkVetting.Main.say notice
  let output ← IO.getStdout
  output.putStr (String.ofList run.output)
  output.flush
  return run.exitStatus.toUInt32
