import Mathlib.Data.List.Forall2
import LinkVetting.Proofs.Program.RecordedChecks
import LinkVetting.Proofs.Report.Origin

/-!
# Checks of arguments and checks of the input

A check answers texts on the lines of the input as it answers the same texts given
as arguments: it shows the same, ends with the same exit status, counts the same and
records the same, but for the name of the origin in each record of a rejection.
-/

namespace LinkVetting

open Audit (Entry Stamp Writer)
open CommandLine (Argument Request)
open Files (Disk)

/-- Two entries are the same but for the name of the origin of a candidate. -/
inductive Audit.Entry.DiffersInOrigin (first second : String) : Entry → Entry → Prop where
  | same {entry : Entry} :
      entry.source.input = none → DiffersInOrigin first second entry entry
  | moved {entry : Entry} {place : Nat} :
      DiffersInOrigin first second
        { entry with source := { entry.source with input := some s!"{first}:{place}" } }
        { entry with source := { entry.source with input := some s!"{second}:{place}" } }

/-! ## Entries of a check -/

namespace Report

variable {set : RuleSet} {texts : List String} {stamps : Nat → Stamp}

theorem entries_differ_in_origin {first second : String} :
    List.Forall₂ (Entry.DiffersInOrigin first second)
      ((ofCandidates set (Candidate.ofTexts first texts)).entries stamps)
      ((ofCandidates set (Candidate.ofTexts second texts)).entries stamps) := by
  simp only [entries, recordEntries, totals, checked_ofTexts, rejected_ofTexts,
    records_ofTexts, List.zipIdx_map, List.map_map, List.length_map]
  refine List.rel_append (.cons (.same rfl) ?_) (.cons (.same rfl) .nil)
  refine List.forall₂_map_left_iff.mpr (List.forall₂_map_right_iff.mpr ?_)
  refine List.forall₂_same.mpr ?_
  rintro ⟨⟨place, rejection⟩, index⟩ _
  exact @Entry.DiffersInOrigin.moved first second
    (Entry.ofRejection (stamps (index + 1)) { component := "link-guard" } rejection) place

end Report

/-! ## Checks of the same texts -/

namespace Surroundings

/-- Checks of some texts, which are arguments here and on the lines of the input there,
do the same but for the names of the origins. -/
structure ChecksAlike (set : RuleSet) (settings : Configuration) (filter : LogFilter)
    (json strict : Bool) (given piped : Surroundings) (texts : List String) : Prop where
  output :
    (given.carryOut set settings filter (.check texts json strict)).output =
      (piped.carryOut set settings filter (.check [] json strict)).output
  exitStatus :
    (given.carryOut set settings filter (.check texts json strict)).exitStatus =
      (piped.carryOut set settings filter (.check [] json strict)).exitStatus
  checked :
    (Report.ofCandidates set (given.candidates texts)).checked =
      (Report.ofCandidates set (piped.candidates [])).checked
  rejected :
    (Report.ofCandidates set (given.candidates texts)).rejected =
      (Report.ofCandidates set (piped.candidates [])).rejected
  entries :
    List.Forall₂ (Entry.DiffersInOrigin "argv" "stdin")
      ((Report.ofCandidates set (given.candidates texts)).entries given.stamps)
      ((Report.ofCandidates set (piped.candidates [])).entries piped.stamps)
  /-- A trail on a regular file grows by these entries. -/
  files : ∀ path opened writer, settings.auditLog = some path →
    Writer.openOn given.disk path = (opened, .ok writer) →
      (∃ content, opened.root.get? writer.place = some (.file content)) →
        (given.carryOut set settings filter
            (.check texts json strict)).disk.root.get? writer.place =
          some (.file (given.disk.contentAt writer.place ++
            ((Report.ofCandidates set (given.candidates texts)).entries
              given.stamps).flatMap Entry.bytes)) ∧
        (piped.carryOut set settings filter
            (.check [] json strict)).disk.root.get? writer.place =
          some (.file (given.disk.contentAt writer.place ++
            ((Report.ofCandidates set (piped.candidates [])).entries
              piped.stamps).flatMap Entry.bytes))

section

variable {given piped : Surroundings} {texts : List String}

theorem candidates_of_arguments (nonempty : texts ≠ []) :
    given.candidates texts = Candidate.ofTexts "argv" texts := by
  rw [candidates, if_neg (by simpa using nonempty), Candidate.ofArguments_eq]

theorem candidates_of_input (fit : ∀ text ∈ texts, IsLine text)
    (holds : Candidate.HoldsLines piped.input texts) :
    piped.candidates [] = Candidate.ofTexts "stdin" texts := by
  rw [candidates, List.isEmpty_nil, if_pos rfl, Candidate.ofBytes_of_holdsLines holds fit]

/-- What is shown and how a check ends do not depend on the log. -/
theorem shown_alike {set : RuleSet} {settings : Configuration} {filter other : LogFilter}
    {json strict : Bool} (nonempty : texts ≠ []) (fit : ∀ text ∈ texts, IsLine text)
    (holds : Candidate.HoldsLines piped.input texts) (disk : piped.disk = given.disk) :
    let first := given.carryOut set settings filter (.check texts json strict)
    let second := piped.carryOut set settings other (.check [] json strict)
    first.output = second.output ∧ first.exitStatus = second.exitStatus := by
  intro first second
  obtain ⟨shownFirst, statusFirst⟩ :=
    @carryOut_check given set settings filter texts json strict
  obtain ⟨shownSecond, statusSecond⟩ :=
    @carryOut_check piped set settings other [] json strict
  rw [candidates_of_arguments nonempty] at shownFirst statusFirst
  rw [candidates_of_input fit holds, disk] at shownSecond statusSecond
  constructor
  · rw [shownFirst, shownSecond, @Report.text_ofTexts set "argv" "stdin"]
  · rw [statusFirst, statusSecond, Report.rejected_ofTexts, Report.rejected_ofTexts]

theorem checksAlike {set : RuleSet} {settings : Configuration} {filter : LogFilter}
    {json strict : Bool} (nonempty : texts ≠ []) (fit : ∀ text ∈ texts, IsLine text)
    (holds : Candidate.HoldsLines piped.input texts) (disk : piped.disk = given.disk)
    (stamps : piped.stamps = given.stamps) :
    ChecksAlike set settings filter json strict given piped texts := by
  have fromArguments := @candidates_of_arguments given texts nonempty
  have fromInput := candidates_of_input fit holds
  obtain ⟨output, exitStatus⟩ :=
    @shown_alike given piped texts set settings filter filter json strict nonempty fit
      holds disk
  refine ⟨output, exitStatus, ?_, ?_, ?_, ?_⟩
  · rw [fromArguments, fromInput, Report.checked_ofTexts, Report.checked_ofTexts]
  · rw [fromArguments, fromInput, Report.rejected_ofTexts, Report.rejected_ofTexts]
  · rw [fromArguments, fromInput, stamps]
    exact Report.entries_differ_in_origin
  · intro path opened writer audited opens regular
    refine ⟨file_of_carryOut_check audited opens regular, ?_⟩
    rw [← disk] at opens ⊢
    exact file_of_carryOut_check audited opens regular

theorem run_alike {request : Request} {json strict : Bool} (nonempty : texts ≠ [])
    (fit : ∀ text ∈ texts, IsLine text) (holds : Candidate.HoldsLines piped.input texts)
    (disk : piped.disk = given.disk)
    (readGiven : Request.read given.arguments =
      .ok { request with command := .check texts json strict })
    (readPiped : Request.read piped.arguments =
      .ok { request with command := .check [] json strict }) :
    given.run.output = piped.run.output ∧ given.run.exitStatus = piped.run.exitStatus := by
  rcases run_of_read readGiven with
    ⟨_, _, wrong, ranGiven⟩ | ⟨loaded, filter, _, right, ranGiven⟩
  · rcases run_of_read readPiped with
      ⟨_, _, _, ranPiped⟩ | ⟨_, _, _, rightPiped, _⟩
    · rw [ranGiven, ranPiped]
      exact ⟨rfl, rfl⟩
    · rw [disk, wrong] at rightPiped
      cases rightPiped
  · -- both runs load the same configuration, though their notices may differ
    rcases run_of_read readPiped with
      ⟨_, _, wrongPiped, _⟩ | ⟨_, other, _, rightPiped, ranPiped⟩
    · rw [disk, right] at wrongPiped
      cases wrongPiped
    · rw [disk, right] at rightPiped
      obtain rfl := Except.ok.inj rightPiped
      rw [ranGiven, ranPiped]
      exact shown_alike nonempty fit holds disk

end

/-- Texts that fit on lines are checked alike as arguments and on the lines of the
input: by every set of rules, in every mode, and by the program as a whole. -/
theorem arguments_agree_with_input {surroundings : Surroundings} {texts : List String}
    {input : List UInt8} (nonempty : texts ≠ []) (fit : ∀ text ∈ texts, IsLine text)
    (holds : Candidate.HoldsLines input texts) :
    let piped := { surroundings with input }
    (∀ set settings filter json strict,
        ChecksAlike set settings filter json strict surroundings piped texts) ∧
      ∀ (request : Request) (given read : List Argument) (json strict : Bool),
        Request.read given = .ok { request with command := .check texts json strict } →
          Request.read read = .ok { request with command := .check [] json strict } →
            let first := { surroundings with arguments := given }.run
            let second := { piped with arguments := read }.run
            first.output = second.output ∧ first.exitStatus = second.exitStatus := by
  intro piped
  constructor
  · intro set settings filter json strict
    exact checksAlike nonempty fit holds rfl rfl
  · intro request given read json strict readGiven readPiped
    exact run_alike nonempty fit holds rfl readGiven readPiped

theorem arguments_agree_with_input_two_texts :
    let texts := ["", "ftp:x\ry"]
    let input := [0x0D, 0x0A] ++ Text.Utf8.encode "ftp:x\ry".toList
    let given := RecordedCheck.strictArguments ++
      ("--" :: texts).map fun text => Text.Utf8.encode text.toList
    let surroundings := (RecordedCheck.strictCheck [] []).surroundings
    let piped := { surroundings with input }
    texts ≠ [] ∧ (∀ text ∈ texts, IsLine text) ∧ Candidate.HoldsLines input texts ∧
      (Report.ofCandidates RuleSet.builtin (surroundings.candidates texts)).rejected =
        (Report.ofCandidates RuleSet.builtin (piped.candidates [])).rejected ∧
      { surroundings with arguments := given }.run.exitStatus = piped.run.exitStatus := by
  intro texts input given surroundings piped
  have nonempty : texts ≠ [] := by decide
  have fit : ∀ text ∈ texts, IsLine text := by decide
  have last : Candidate.HoldsLines (Text.Utf8.encode "ftp:x\ry".toList) ["ftp:x\ry"] :=
    .last (by decide)
  have returnFeed : [0x0D, 0x0A] ∈ [[0x0A], ([0x0D, 0x0A] : List UInt8)] := by decide
  have holds : Candidate.HoldsLines input texts :=
    @Candidate.HoldsLines.cons "" _ _ _ returnFeed last
  have readGiven : Request.read given =
      .ok { RecordedCheck.strictRequest with command := .check texts false true } := by
    decide +kernel
  obtain ⟨alike, runs⟩ :=
    @arguments_agree_with_input surroundings texts input nonempty fit holds
  refine ⟨nonempty, fit, holds, (alike RuleSet.builtin {} ⟨[]⟩ false true).rejected, ?_⟩
  exact (runs _ given _ false true readGiven RecordedCheck.read_strictArguments).2

end Surroundings

end LinkVetting
