import LinkVetting.Audit.Entry
import LinkVetting.Proofs.Json.OneLine
import LinkVetting.Proofs.Text.Decoding
import LinkVetting.Proofs.Text.Lines

/-!
# Lines of entries

What is appended to a trail for an entry is one line that holds no line feed but
its end.  So the entries of a trail stand on its lines, one on each.
-/

namespace LinkVetting.Audit

namespace Entry

/-- The line that shows an entry. -/
def lineBytes (entry : Entry) : List UInt8 := Text.Utf8.encode entry.lineChars

theorem bytes_eq {entry : Entry} : entry.bytes = entry.lineBytes ++ [0x0A] := by
  rw [bytes, Text.Utf8.encode_append]
  rfl

theorem lineFeed_notMem_lineBytes {entry : Entry} : 0x0A ∉ entry.lineBytes := by
  intro member
  exact (Json.hasNoControls_compactChars _).lineFeed_notMem
    (Text.Utf8.lineFeed_mem_of_encode member)

theorem splitOn_bytes {entries : List Entry} :
    (entries.flatMap bytes).splitOn 0x0A = entries.map lineBytes ++ [[]] := by
  have ended : bytes = fun entry => entry.lineBytes ++ [0x0A] := funext fun _ => bytes_eq
  rw [ended, ← List.flatMap_map lineBytes (· ++ [0x0A])]
  refine Text.splitOn_ended fun line member => ?_
  obtain ⟨entry, _, rfl⟩ := List.mem_map.mp member
  exact lineFeed_notMem_lineBytes

end Entry

/-- The ended lines of some entries, one after the other. -/
def linesOf (entries : List Entry) : List UInt8 :=
  entries.flatMap fun entry => entry.lineBytes ++ [0x0A]

section

variable {entries later : List Entry} {entry : Entry}

theorem linesOf_eq : linesOf entries = entries.flatMap Entry.bytes := by
  have ended : (fun entry : Entry => entry.lineBytes ++ [0x0A]) = Entry.bytes :=
    funext fun _ => Entry.bytes_eq.symm
  rw [linesOf, ended]

@[simp]
theorem linesOf_nil : linesOf [] = [] := rfl

@[simp]
theorem linesOf_cons : linesOf (entry :: later) = entry.bytes ++ linesOf later := by
  rw [linesOf, List.flatMap_cons, ← Entry.bytes_eq, linesOf]

@[simp]
theorem linesOf_append : linesOf (entries ++ later) = linesOf entries ++ linesOf later :=
  List.flatMap_append

/-- The lines of entries split into nothing but the entries, each one whole. -/
theorem splitOn_linesOf : (linesOf entries).splitOn 0x0A = entries.map Entry.lineBytes ++ [[]] := by
  rw [linesOf_eq, Entry.splitOn_bytes]

end

end LinkVetting.Audit
