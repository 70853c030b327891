import Mathlib.Data.List.Forall2
import LinkVetting.Proofs.Report.Origin
import LinkVetting.Proofs.Text.Cuts

/-!
# Candidates on the lines of an input

Every line of an input is one candidate, numbered by its line, however the input comes
in chunks.  An input is text exactly where all of its lines are, and then it does not
matter whether it is decoded before it is cut or cut before it is decoded.
-/

namespace LinkVetting

namespace Candidate

open Text (CutsInto)

/-- How a line stands as a candidate: as the text that it encodes, or, where it encodes
none, with replacements and marked. -/
inductive StandsFor (place : Nat) : List UInt8 → Candidate → Prop where
  | text {value : String} : StandsFor place (Text.Utf8.encode value.toList)
      { source := s!"stdin:{place}", value, isText := true }
  | broken {line : List UInt8} : (∀ text, Text.Utf8.encode text ≠ line) →
      StandsFor place line
        { source := s!"stdin:{place}"
          value := String.ofList (Text.Utf8.decodeLossy line)
          isText := false }

section

variable {place : Nat} {bytes line : List UInt8} {chunks : List (List UInt8)}
variable {cut : List (List UInt8)}

theorem standsFor_ofLine : StandsFor place line (ofLine place line) := by
  rw [ofLine]
  split
  · rename_i text decoded
    rw [← Text.Utf8.encode_of_decode? decoded]
    have same : text = (String.ofList text).toList := String.toList_ofList.symm
    rw [same, String.ofList_toList]
    exact .text
  · rename_i refused
    refine .broken fun text encoded => ?_
    rw [← encoded, Text.Utf8.decode?_encode] at refused
    cases refused

theorem isText_ofLine_iff :
    (ofLine place line).isText = true ↔ ∃ text, Text.Utf8.encode text = line := by
  generalize made : ofLine place line = candidate
  have stands : StandsFor place line candidate := made ▸ standsFor_ofLine
  cases stands with
  | text => exact iff_of_true rfl ⟨_, rfl⟩
  | broken noText =>
      refine iff_of_false Bool.false_ne_true ?_
      rintro ⟨text, encoded⟩
      exact noText text encoded

/-! ## Numbered lines -/

theorem forall_isText_numbered_iff :
    (∀ candidate ∈ numbered ofLine place cut, candidate.isText = true) ↔
      ∀ line ∈ cut, ∃ text, Text.Utf8.encode text = line := by
  induction cut generalizing place with
  | nil => simp [numbered]
  | cons line cut induction =>
      rw [numbered, List.forall_mem_cons, List.forall_mem_cons, isText_ofLine_iff, induction]

theorem map_value_numbered {pieces : List (List Char)} :
    (numbered ofLine place (pieces.map Text.Utf8.encode)).map (·.value) =
      pieces.map String.ofList := by
  induction pieces generalizing place with
  | nil => rfl
  | cons piece pieces induction =>
      have shown : (ofLine place (Text.Utf8.encode piece)).value = String.ofList piece := by
        simp only [ofLine, Text.Utf8.decode?_encode]
      rw [List.map_cons, numbered, List.map_cons, induction, shown, List.map_cons]

theorem numbered_append {α : Type} {make : Nat → α → Candidate} {front back : List α} :
    numbered make place (front ++ back) =
      numbered make place front ++ numbered make (place + front.length) back := by
  induction front generalizing place with
  | nil => rfl
  | cons value front induction =>
      rw [List.cons_append, numbered, numbered, induction, List.cons_append, List.length_cons,
        Nat.add_assoc, Nat.add_comm 1]

/-! ## Inputs -/

theorem ofChunks_eq : ofChunks chunks = ofBytes chunks.flatten := by
  rw [ofChunks, ofBytes, Text.linesOfChunks_eq]

theorem ofBytes_of_cut (cuts : CutsInto 0x0A 0x0D bytes cut) :
    ofBytes bytes = numbered ofLine 1 cut := by
  rw [ofBytes, Text.lines_of_cutsInto (by decide) cuts]

/-- The lines of an input are cut, and each stands for itself at its place.  Texts that
fit on lines are given back by an input that holds them one per line. -/
theorem lines_of_chunks :
    (∃ cut, (∀ other, CutsInto 0x0A 0x0D chunks.flatten other ↔ other = cut) ∧
      List.Forall₂ (fun (line, place) => StandsFor place line) (cut.zipIdx 1)
        (ofChunks chunks)) ∧
      ∀ texts, HoldsLines chunks.flatten texts → (∀ text ∈ texts, IsLine text) →
        ofChunks chunks = ofTexts "stdin" texts := by
  rw [ofChunks_eq]
  constructor
  · refine ⟨Text.lines 0x0A 0x0D chunks.flatten, fun other =>
      Text.cutsInto_iff (by decide), ?_⟩
    rw [ofBytes_of_cut Text.cutsInto_lines, numbered_eq, List.forall₂_map_right_iff,
      List.forall₂_same]
    exact fun numbered _ => standsFor_ofLine
  · intro texts holds fit
    exact ofBytes_of_holdsLines holds fit

/-- The chunks part the bytes of a character and the two bytes of a line end. -/
theorem lines_of_chunks_parted :
    HoldsLines [[0xC3], [0xA9, 0x0D], [0x0A, 0x0A, 0x61]].flatten ["é", "", "a"] ∧
      (∀ text ∈ ["é", "", "a"], IsLine text) ∧
      ofChunks [[0xC3], [0xA9, 0x0D], [0x0A, 0x0A, 0x61]] =
        ofTexts "stdin" ["é", "", "a"] := by
  have holds : HoldsLines [[0xC3], [0xA9, 0x0D], [0x0A, 0x0A, 0x61]].flatten
      ["é", "", "a"] := by
    have last : HoldsLines [0x61] ["a"] := @HoldsLines.last "a" (by decide)
    have blank : HoldsLines [0x0A, 0x61] ["", "a"] :=
      @HoldsLines.cons "" [0x0A] _ _ (by decide) last
    exact @HoldsLines.cons "é" [0x0D, 0x0A] _ _ (by decide) blank
  have fit : ∀ text ∈ ["é", "", "a"], IsLine text := by decide
  exact ⟨holds, fit, lines_of_chunks.2 _ holds fit⟩

/-- An input is text exactly where each of its candidates is, and then the candidates are
the lines of the decoded input.  A line that is replaced by another one, text or not,
leaves the candidates in front of it and behind it as they are. -/
theorem decoding_by_line :
    ((∃ text, Text.Utf8.encode text = bytes) ↔
      ∀ candidate ∈ ofBytes bytes, candidate.isText = true) ∧
    (∀ text, Text.Utf8.decode? bytes = some text →
      ∃ pieces, (∀ other, CutsInto '\n' '\r' text other ↔ other = pieces) ∧
        (ofBytes bytes).map (·.value) = pieces.map String.ofList) ∧
    ∀ before after : List UInt8, (before = [] ∨ before.getLast? = some 0x0A) →
      ∃ front back, ∀ line : List UInt8, 0x0A ∉ line →
        ofBytes (before ++ line ++ 0x0A :: after) =
          front ++ ofLine (front.length + 1) (Text.dropReturn 0x0D line) :: back := by
  have cuts : CutsInto 0x0A 0x0D bytes (Text.lines 0x0A 0x0D bytes) := Text.cutsInto_lines
  refine ⟨?_, ?_, ?_⟩
  · rw [ofBytes_of_cut cuts, forall_isText_numbered_iff]
    constructor
    · rintro ⟨text, rfl⟩ line member
      have encoded : CutsInto 0x0A 0x0D (Text.Utf8.encode text)
          ((Text.lines '\n' '\r' text).map Text.Utf8.encode) := Text.cutsInto_lines.encode
      rw [Text.lines_of_cutsInto (by decide) encoded] at member
      obtain ⟨piece, _, same⟩ := List.mem_map.mp member
      exact ⟨piece, same⟩
    · exact cuts.exists_encode
  · intro text decoded
    refine ⟨Text.lines '\n' '\r' text, fun other => Text.cutsInto_iff (by decide), ?_⟩
    rw [← Text.Utf8.encode_of_decode? decoded, ofBytes_of_cut Text.cutsInto_lines.encode,
      map_value_numbered]
  · intro before after ended
    let front := Text.lines 0x0A 0x0D before
    refine ⟨numbered ofLine 1 front,
      numbered ofLine (front.length + 2) (Text.lines 0x0A 0x0D after), fun line free => ?_⟩
    rw [ofBytes, Text.lines_append_ended ended free, numbered_append, numbered,
      length_numbered, Nat.add_comm 1]

/-- A character that is parted by a line feed breaks the lines on both sides of it, and
no other one. -/
theorem decoding_by_line_parted :
    Text.Utf8.decode? [0xC3, 0xA9, 0x0D, 0x0A] = some ['é', '\r', '\n'] ∧
      (∃ pieces, (∀ other, CutsInto '\n' '\r' ['é', '\r', '\n'] other ↔ other = pieces) ∧
        (ofBytes [0xC3, 0xA9, 0x0D, 0x0A]).map (·.value) = pieces.map String.ofList) ∧
      ∃ front back,
        ofBytes [0x61, 0x0A, 0xC3, 0x0A, 0xA9, 0x0A] =
            front ++ ofLine (front.length + 1) [0xC3] :: back ∧
          ofBytes [0x61, 0x0A, 0x62, 0x0D, 0x0A, 0xA9, 0x0A] =
            front ++ ofLine (front.length + 1) [0x62] :: back := by
  have decoded : Text.Utf8.decode? [0xC3, 0xA9, 0x0D, 0x0A] = some ['é', '\r', '\n'] := by
    have encoded : Text.Utf8.encode ['é', '\r', '\n'] = [0xC3, 0xA9, 0x0D, 0x0A] := by decide
    rw [← encoded, Text.Utf8.decode?_encode]
  obtain ⟨_, values, others⟩ := @decoding_by_line [0xC3, 0xA9, 0x0D, 0x0A]
  obtain ⟨front, back, shown⟩ := others [0x61, 0x0A] [0xA9, 0x0A] (by decide)
  exact ⟨decoded, values _ decoded, front, back, shown [0xC3] (by decide),
    shown [0x62, 0x0D] (by decide)⟩

end

end Candidate

end LinkVetting
