import LinkVetting.Audit.Decoder
import LinkVetting.Proofs.Audit.Identifiers
import LinkVetting.Proofs.Audit.Times
import LinkVetting.Proofs.Audit.WriterCalls
import LinkVetting.Proofs.Json.Ordered
import LinkVetting.Proofs.Json.RecordReading
import LinkVetting.Proofs.Text.Encoding

/-!
# Entries are read back

The line of an entry is decoded as that entry, whatever its texts hold.  Only its details
have to be a value that the decoder can give back.  So a file of such lines is split and
decoded as the entries that were written.
-/

namespace LinkVetting.Audit

open Files (Disk)
open Json (EndsValue)

section

variable {rest : List Char}

/-! ## Fields -/

theorem field_decode {α δ : Type} {name : String} {get : δ → Option α} {put : δ → α → δ}
    {decode : List Char → Except Json.Fault (α × List Char)} {draft : δ} {text : List Char}
    {value : α} (decoded : decode text = .ok (value, rest)) :
    (field name get put decode).decode draft text = .ok (put draft value, rest) := by
  simp only [field, decoded, bind, Except.bind, pure, Except.pure]

theorem decodePlain_string {text : String} :
    decodePlain ((Json.string text).compactChars ++ rest) = .ok (text, rest) := by
  rw [Json.compactChars, decodePlain, Json.decodeString_stringChars]
  simp only [bind, Except.bind, String.ofList_toList]
  rfl

theorem decodeId_string {id : Uuid} :
    decodeId ((Json.string (String.ofList id.chars)).compactChars ++ rest) =
      .ok (id, rest) := by
  rw [Json.compactChars, decodeId]
  exact Json.decodeText_stringChars (by rw [Uuid.read_chars]; rfl)

theorem decodeTimestamp_string {time : Timestamp} :
    decodeTimestamp ((Json.string (String.ofList time.chars)).compactChars ++ rest) =
      .ok (time, rest) := by
  rw [Json.compactChars, decodeTimestamp]
  exact Json.decodeText_stringChars (by rw [Timestamp.read_chars]; rfl)

theorem decodeChoice_name {type : EventType} :
    Json.decodeChoice EventType.choices ((Json.string type.name).compactChars ++ rest) =
      .ok (type, rest) := by
  rw [Json.compactChars]
  refine Json.decodeChoice_stringChars ?_
  cases type with
  | uriRejected => rfl
  | processStarted => rfl
  | processStopped => rfl

theorem decodeDetails_of_fits {details : Json} (fits : details.Fits detailsDepth)
    (ordered : details.Ordered) (ends : EndsValue rest) :
    decodeDetails (details.compactChars ++ rest) = .ok (details, rest) := by
  rw [decodeDetails, Json.readsBack_of_fits fits _ rest _ ends,
    Json.sorted_of_ordered ordered]
  rw [List.length_append]
  omega

/-! ## Records -/

/-- A member that is written only where there is a value for it: without it the draft is
left as it is. -/
theorem takes_optionalMember {α δ ρ : Type} {kind : Json.RecordKind δ ρ} {name : String}
    {get : δ → Option (Option α)} {put : δ → Option α → δ}
    {decode : List Char → Except Json.Fault (α × List Char)} {draft : δ} {toJson : α → Json}
    (named : kind.fields.find? (·.name = name) =
      some (field name get put (Json.decodeOption decode)))
    (missing : get draft = none)
    (decoded : ∀ value rest, Json.decodeOption decode ((toJson value).compactChars ++ rest) =
      .ok (some value, rest)) (value : Option α) :
    kind.Takes draft (Entry.optionalMember name (value.map toJson))
      (value.elim draft fun value => put draft (some value)) := by
  cases value with
  | none => exact .nil
  | some value =>
      have notGiven : (get draft).isSome = false := by rw [missing, Option.isSome_none]
      exact .cons named notGiven (fun rest _ => field_decode (decoded value rest)) .nil

theorem Source.decode_sourceJson {source : Source} :
    kind.decode ((Entry.sourceJson source).compactChars ++ rest) = .ok (source, rest) := by
  have inputDecoded (input : String) (rest : List Char) : Json.decodeOption decodePlain
      ((Json.string input).compactChars ++ rest) = .ok (some input, rest) :=
    Json.decodeOption_some (by decide) (by decide) decodePlain_string
  refine Json.RecordKind.decode_compactChars
    (.cons rfl rfl (fun _ _ => field_decode decodePlain_string)
      (takes_optionalMember rfl rfl inputDecoded source.input)) ?_
  obtain ⟨component, input⟩ := source
  cases input with
  | none => rfl
  | some input => rfl

theorem Rejection.decode_rejectionJson {rejection : Rejection} :
    kind.decode ((Entry.rejectionJson rejection).compactChars ++ rest) =
      .ok (rejection, rest) :=
  Json.RecordKind.decode_compactChars
    (.cons rfl rfl (fun _ _ => field_decode decodePlain_string)
      (.cons rfl rfl (fun _ _ => field_decode decodePlain_string) .nil)) rfl

end

namespace Entry

/-- The details of an entry are a value that the decoder can give back: it nests no deeper
than the decoder allows, its numbers are whole, and the members of its objects are in
order. -/
structure HasReadableDetails (entry : Entry) : Prop where
  fits : entry.details.Fits detailsDepth
  ordered : entry.details.Ordered

/-- The entry that a line shows, if it shows one. -/
def ofLine? (line : List UInt8) : Option Entry :=
  (Text.Utf8.decode? line).bind fun text => (read text).toOption

section

variable {entry : Entry}

theorem decode_toJson {rest : List Char} (details : entry.HasReadableDetails) :
    kind.decode (entry.toJson.compactChars ++ rest) = .ok (entry, rest) := by
  have rejectionDecoded (rejection : Rejection) (rest : List Char) :
      Json.decodeOption Rejection.kind.decode
        ((rejectionJson rejection).compactChars ++ rest) = .ok (some rejection, rest) :=
    Json.decodeOption_some (by decide) (by decide) Rejection.decode_rejectionJson
  refine Json.RecordKind.decode_compactChars (Json.RecordKind.Takes.append
    (.cons rfl rfl (fun _ _ => field_decode decodeId_string)
      (.cons rfl rfl (fun _ _ => field_decode decodeTimestamp_string)
        (.cons rfl rfl (fun _ _ => field_decode decodeChoice_name)
          (.cons rfl rfl (fun _ _ => field_decode Source.decode_sourceJson)
            (.cons rfl rfl (fun _ ends => field_decode
              (decodeDetails_of_fits details.fits details.ordered ends)) .nil)))))
    (takes_optionalMember rfl rfl rejectionDecoded entry.rejection)) ?_
  obtain ⟨_, _, _, _, rejection⟩ := entry
  cases rejection with
  | none => rfl
  | some rejection => rfl

/-- An entry is what its line is decoded as. -/
theorem read_lineChars (details : entry.HasReadableDetails) : read entry.lineChars = .ok entry := by
  have decoded := @decode_toJson entry [] details
  rw [List.append_nil] at decoded
  rw [read, lineChars, Json.decodeWhole, decoded]
  rfl

theorem ofLine?_lineBytes (details : entry.HasReadableDetails) :
    ofLine? entry.lineBytes = some entry := by
  rw [ofLine?, lineBytes, Text.Utf8.decode?_encode, Option.bind_some, read_lineChars details]
  rfl

theorem le_of_mem_lineBytes {byte : UInt8} (member : byte ∈ entry.lineBytes) :
    0x20 ≤ byte := by
  obtain ⟨c, inLine, inChar⟩ := List.mem_flatMap.mp member
  have visible : 0x20 ≤ c.toNat := Json.hasNoControls_compactChars entry.toJson c inLine
  simp only [UInt8.le_iff_toNat_le, UInt8.reduceToNat]
  by_cases ascii : byte.toNat < 0x80
  · rwa [← Text.Utf8.toNat_eq_of_mem_encodeChar ascii inChar]
  · omega

end

end Entry

theorem Writer.file_of_flushed {writer : Writer} {disk : Disk} {total : List UInt8}
    {calls : List Call} (before : writer.HasWritten disk total)
    (flushed : calls.getLast? = some .flush) :
    (writer.performAll disk calls).disk.root.get? writer.place =
      some (.file (total ++ linesOf (written calls))) := by
  obtain ⟨_, samePlace, after⟩ := @performAll_of_hasWritten writer disk total calls before
  rw [← samePlace]
  exact file_of_hasWritten after (waiting_of_flushed before flushed)

/-- Every entry stands on one line without control characters, and the line is decoded as
that entry.  The lines of some entries are split and decoded as just these entries, and
they are what a writer adds to a regular file for them, however often it is flushed. -/
theorem entries_read_back (entries : List Entry)
    (readable : ∀ entry ∈ entries, entry.HasReadableDetails) :
    (∀ entry ∈ entries, ∃ line, entry.bytes = line ++ [0x0A] ∧ (∀ byte ∈ line, 0x20 ≤ byte) ∧
      Entry.ofLine? line = some entry) ∧
    (∃ lines, (entries.flatMap Entry.bytes).splitOn 0x0A = lines ++ [[]] ∧
      lines.map Entry.ofLine? = entries.map some) ∧
    ∀ (disk opened : Disk) (path : Files.Path) (writer : Writer) (previous : List UInt8)
      (calls : List Writer.Call), Writer.openOn disk path = (opened, .ok writer) →
        opened.root.get? writer.place = some (.file previous) →
          Writer.written calls = entries → calls.getLast? = some .flush →
            (writer.performAll opened calls).disk.root.get? writer.place =
              some (.file (previous ++ entries.flatMap Entry.bytes)) := by
  refine ⟨fun entry member => ?_, ⟨entries.map Entry.lineBytes, Entry.splitOn_bytes, ?_⟩, ?_⟩
  · exact ⟨entry.lineBytes, Entry.bytes_eq, fun _ => Entry.le_of_mem_lineBytes,
      Entry.ofLine?_lineBytes (readable entry member)⟩
  · rw [List.map_map]
    exact List.map_congr_left fun entry member =>
      Entry.ofLine?_lineBytes (readable entry member)
  · rintro disk opened path writer previous calls opens file rfl flushed
    obtain ⟨atFirst, nothingWaits⟩ := Writer.hasWritten_of_openOn opens ⟨previous, file⟩
    have same := Writer.file_of_hasWritten atFirst nothingWaits
    rw [file, Option.some_inj, Files.Node.file.injEq] at same
    rw [← same] at atFirst
    rw [Writer.file_of_flushed atFirst flushed, linesOf_eq]

/-- The texts of this entry hold a quote, a backslash, a line feed, a carriage return, a
control character and a line separator, its second is a leap second far in the past, and
its details are nested. -/
theorem entries_read_back_nested :
    let time : Timestamp := ⟨⟨-262143, 1, 1⟩, ⟨0, 0, 60, 1500000⟩, by decide, by decide⟩
    let value : Json := .object [("", .array [.number (.negative 1), .object []]),
      ("a\n", .string "\"\u0000"), ("b", .bool true)]
    let entry : Entry :=
      { id := ⟨List.replicate 32 15, by decide⟩
        timestamp := time
        eventType := .uriRejected
        source := { component := "\\\u2028", input := some "null" }
        details := value
        rejection := some { candidate := "a\r\n\"b\"", rule := "" } }
    let disk : Disk := ⟨.directory [([0x61], .file [0x78])], []⟩
    let writer : Writer := { path := ⟨[0x61]⟩, place := [[0x61]] }
    let entries := [entry, Usage.plainEntry .processStopped]
    (∀ entry ∈ entries, ∃ line, entry.bytes = line ++ [0x0A] ∧ (∀ byte ∈ line, 0x20 ≤ byte) ∧
      Entry.ofLine? line = some entry) ∧
    (∃ lines, (entries.flatMap Entry.bytes).splitOn 0x0A = lines ++ [[]] ∧
      lines.map Entry.ofLine? = entries.map some) ∧
    (writer.performAll disk
      [.write entry, .flush, .write (Usage.plainEntry .processStopped), .flush]).disk.root.get?
        [[0x61]] = some (.file (0x78 :: entries.flatMap Entry.bytes)) := by
  intro time value entry disk writer entries
  have fits : value.Fits detailsDepth := by
    have deepest : (Json.array [.number (.negative 1), .object []]).Fits 125 :=
      .array (List.forall_mem_cons.mpr ⟨.negative (by decide) (by decide),
        List.forall_mem_singleton.mpr (.object (List.forall_mem_nil _))⟩)
    exact .object (List.forall_mem_cons.mpr ⟨deepest,
      List.forall_mem_cons.mpr ⟨.string, List.forall_mem_singleton.mpr .bool⟩⟩)
  have ordered : value.Ordered := by
    have inOrder : Json.InOrder [("", .array [.number (.negative 1), .object []]),
        ("a\n", .string "\"\u0000"), ("b", .bool true)] := by
      unfold Json.InOrder
      decide
    have deepest : (Json.array [.number (.negative 1), .object []]).Ordered :=
      .array (List.forall_mem_cons.mpr ⟨.number,
        List.forall_mem_singleton.mpr (.object List.Pairwise.nil (List.forall_mem_nil _))⟩)
    exact .object inOrder (List.forall_mem_cons.mpr ⟨deepest,
      List.forall_mem_cons.mpr ⟨.string, List.forall_mem_singleton.mpr .bool⟩⟩)
  have plain : (Usage.plainEntry .processStopped).HasReadableDetails := ⟨.null, .null⟩
  obtain ⟨shown, split, onFile⟩ := entries_read_back entries
    (List.forall_mem_cons.mpr ⟨⟨fits, ordered⟩, List.forall_mem_singleton.mpr plain⟩)
  exact ⟨shown, split, onFile disk disk ⟨[0x61]⟩ writer [0x78] _ rfl rfl rfl rfl⟩

end LinkVetting.Audit
