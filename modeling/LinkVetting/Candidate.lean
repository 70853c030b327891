import LinkVetting.Text.Lines
import LinkVetting.Text.Utf8

/-!
# Candidates

A candidate is a text to be vetted, with where it came from. Candidates are given as arguments, or
one per line of a byte string; a line that is not text stands as a candidate that is rejected.
-/

namespace LinkVetting

structure Candidate where
  /-- The place it came from, such as `argv:1` or `stdin:4`. -/
  source : String
  /-- The text; where the bytes were not text, with replacements. -/
  value : String
  /-- Whether the bytes were text. -/
  isText : Bool := true
  deriving DecidableEq, Repr

namespace Candidate

def numbered {α : Type} (make : (place : Nat) → α → Candidate) (place : Nat) :
    List α → List Candidate
  | [] => []
  | value :: later => make place value :: numbered make (place + 1) later

def ofArguments (arguments : List String) : List Candidate :=
  numbered (fun place value => { source := s!"argv:{place}", value }) 1 arguments

def ofLine (place : Nat) (line : List UInt8) : Candidate :=
  let source := s!"stdin:{place}"
  match Text.Utf8.decode? line with
  | some value => { source, value := String.ofList value }
  | none => { source, value := String.ofList (Text.Utf8.decodeLossy line), isText := false }

/-- The candidates on the lines of a byte string. -/
def ofBytes (bytes : List UInt8) : List Candidate :=
  numbered ofLine 1 (Text.lines 0x0A 0x0D bytes)

/-- The candidates on the lines of a byte string that comes in chunks. -/
def ofChunks (chunks : List (List UInt8)) : List Candidate :=
  numbered ofLine 1 (Text.linesOfChunks 0x0A 0x0D [] chunks)

end Candidate

end LinkVetting
