import LinkVetting.Audit.Entry
import LinkVetting.Files.Disk

/-!
# Writing a trail

A writer appends entries to a file, one line each, and holds back bytes until as many are waiting as
it may hold, or until it is told to flush. What is held back when a writer is given up is lost.

A full device takes bytes at first; that they were refused shows at the next operation.
-/

namespace LinkVetting.Audit

open Files (Disk)

inductive TrailFault where
  | makeDirectory (path : Files.Path) (cause : Files.Fault)
  | openFile (path : Files.Path) (cause : Files.Fault)
  | append (cause : Files.Fault)
  | flush (cause : Files.Fault)
  deriving DecidableEq, Repr

namespace TrailFault

def cause : TrailFault → Files.Fault
  | .makeDirectory _ cause | .openFile _ cause | .append cause | .flush cause => cause

def message : TrailFault → String
  | .makeDirectory path cause =>
    "failed to create audit directory " ++ path.text ++ ": " ++ cause.message
  | .openFile path cause => "failed to open audit file " ++ path.text ++ ": " ++ cause.message
  | .append cause => "failed to append to audit file: " ++ cause.message
  | .flush cause => "failed to flush audit file: " ++ cause.message

end TrailFault

structure Writer where
  path : Files.Path
  /-- The place of the file on the disk. -/
  place : List Files.Name
  /-- The bytes that are held back. -/
  waiting : List UInt8 := []
  /-- Whether bytes have been refused without anyone having been told. -/
  wasRefused : Bool := false
  deriving DecidableEq, Repr

namespace Writer

/-- The number of bytes that a writer may hold back. -/
def capacity : Nat := 8192

/-- Opens a trail for appending. Missing directories above it are made first. -/
def openOn (disk : Disk) (path : Files.Path) : Disk × Except TrailFault Writer :=
  let parent := match path.parent? with
    | some parent => parent
    | none => ⟨[]⟩
  match disk.makeDirectories parent (parent.bytes.length + 1) with
  | (disk, .error cause) => (disk, .error (.makeDirectory parent cause))
  | (disk, .ok ()) =>
    match disk.openAppend path with
    | .ok (disk, place) => (disk, .ok { path, place })
    | .error cause => (disk, .error (.openFile path cause))

/-- Hands bytes over to the file system. They are appended at once and as a whole, however many
they are: that an append is still on its way when the next thing happens, or that one with more
bytes than are handed over at a time comes in parts, is assumed away. -/
def send (writer : Writer) (disk : Disk) (bytes : List UInt8) :
    Writer × Disk × Except Files.Fault Unit :=
  match disk.root.get? writer.place with
  | some (.file content) => (writer, disk.put writer.place (.file (content ++ bytes)), .ok ())
  | some (.device true) =>
    if writer.wasRefused then ({ writer with wasRefused := false }, disk, .error .noSpace)
    else ({ writer with wasRefused := true }, disk, .ok ())
  | _ => (writer, disk, .ok ())

def drain (writer : Writer) (disk : Disk) : Writer × Disk × Except Files.Fault Unit :=
  if writer.waiting.isEmpty then (writer, disk, .ok ())
  else match writer.send disk writer.waiting with
    | (writer, disk, .ok ()) => ({ writer with waiting := [] }, disk, .ok ())
    | answer => answer

/-- Takes bytes. They are held back unless too many would be waiting. -/
def accept (writer : Writer) (disk : Disk) (bytes : List UInt8) :
    Writer × Disk × Except Files.Fault Unit :=
  if writer.waiting.length + bytes.length ≤ capacity && bytes.length < capacity then
    ({ writer with waiting := writer.waiting ++ bytes }, disk, .ok ())
  else match writer.drain disk with
    | (writer, disk, .ok ()) =>
      if bytes.length ≥ capacity then writer.send disk bytes
      else ({ writer with waiting := bytes }, disk, .ok ())
    | answer => answer

def write (writer : Writer) (disk : Disk) (entry : Entry) :
    Writer × Disk × Except TrailFault Unit :=
  let (writer, disk, answer) := writer.accept disk entry.bytes
  (writer, disk, answer.mapError .append)

/-- Learns whether bytes have been refused, and has the file system keep the rest. -/
def sync (writer : Writer) (disk : Disk) : Writer × Except Files.Fault Unit :=
  if writer.wasRefused then ({ writer with wasRefused := false }, .error .noSpace)
  else match disk.root.get? writer.place with
    | some (.device _) => (writer, .error .notSupported)
    | _ => (writer, .ok ())

/-- Hands over what is held back and has the file system keep it. -/
def flush (writer : Writer) (disk : Disk) : Writer × Disk × Except TrailFault Unit :=
  match writer.drain disk with
  | (writer, disk, .ok ()) =>
    let (writer, answer) := writer.sync disk
    (writer, disk, answer.mapError .flush)
  | (writer, disk, .error cause) => (writer, disk, .error (.flush cause))

end Writer

end LinkVetting.Audit
