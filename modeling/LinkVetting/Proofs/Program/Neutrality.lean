import LinkVetting.Proofs.Program.CheckUnderWay
import LinkVetting.Proofs.Program.RecordedChecks

/-!
# A trail changes no result

A check that records in a trail shows the same and ends with the same exit status as
the check without one.  This holds wherever the trail lies once it can be opened, and
for every medium under it and every order in which the check and the recorder go on.
Beside the recorder of the trail itself, such a check is a use of the trail like any
other (`CheckUnderWay.exists_usage`).
-/

namespace LinkVetting

open Audit (Medium Writer)
open CommandLine (Request)
open Files (Disk)

/-- A run that checks candidates: its command line can be read and its configuration
loaded. -/
structure ConfiguredCheck where
  surroundings : Surroundings
  request : Request
  arguments : List String
  json : Bool
  strict : Bool
  loaded : Option Configuration
  requested : Request.read surroundings.arguments = .ok request
  checks : request.command = .check arguments json strict
  configured : Configuration.load surroundings.disk request.config = .ok loaded

namespace ConfiguredCheck

def settings (check : ConfiguredCheck) : Configuration :=
  (check.loaded.getD {}).overridden check.request

/-- Whether outcomes are shown as JSON, by the command line or by the configuration. -/
def isJson (check : ConfiguredCheck) : Bool := check.json || check.settings.json

/-- Whether rejections make the run fail, by the command line or by the
configuration. -/
def isStrict (check : ConfiguredCheck) : Bool := check.strict || check.settings.strict

/-- The report on the candidates, from the arguments or from the input. -/
def report (check : ConfiguredCheck) : Report :=
  Report.ofCandidates RuleSet.builtin (check.surroundings.candidates check.arguments)

/-- The check and a recorder on some medium, before they do anything. -/
def start {σ : Type} (check : ConfiguredCheck) (state : σ) : CheckUnderWay σ :=
  .ofCandidates check.surroundings.stamps check.isJson RuleSet.builtin
    (check.surroundings.candidates check.arguments) state

/-- Two checks are the same but for the trail, which the second one does not have. -/
structure DiffersInTrail (recorded plain : ConfiguredCheck) : Prop where
  arguments : recorded.arguments = plain.arguments
  input : recorded.surroundings.input = plain.surroundings.input
  isJson : recorded.isJson = plain.isJson
  isStrict : recorded.isStrict = plain.isStrict
  noTrail : plain.settings.auditLog = none

section

variable {check recorded plain : ConfiguredCheck} {path : Files.Path}
variable {opened : Disk} {writer : Writer}

theorem run_eq (check : ConfiguredCheck) :
    ∃ filter notices, check.surroundings.run =
      { check.surroundings.carryOut RuleSet.builtin check.settings filter
          (.check check.arguments check.json check.strict) with notices } := by
  rw [← check.checks]
  exact Surroundings.run_of_loaded check.requested check.configured

theorem run_of_opensTrail
    (opens : Report.opensTrail check.surroundings.disk check.settings.auditLog = true) :
    check.surroundings.run.output = check.report.text check.isJson ∧
      check.surroundings.run.exitStatus =
        if check.isStrict && check.report.rejected > 0 then 1 else 0 := by
  obtain ⟨filter, notices, ran⟩ := check.run_eq
  obtain ⟨output, exitStatus⟩ := @Surroundings.carryOut_check check.surroundings
    RuleSet.builtin check.settings filter check.arguments check.json check.strict
  rw [opens] at output exitStatus
  rw [ran]
  exact ⟨output, exitStatus⟩

/-- What a check leaves on the disk is what its recorder leaves of the entries. -/
theorem disk_of_opens (asked : check.settings.auditLog = some path)
    (opens : Writer.openOn check.surroundings.disk path = (opened, .ok writer)) :
    check.surroundings.run.disk =
      (Audit.Recorder.run Writer.medium ⟨(writer, opened), false⟩
        ((check.report.entries check.surroundings.stamps).map .entry ++ [.ended])).1.state.2 := by
  obtain ⟨filter, notices, ran⟩ := check.run_eq
  rw [ran, report]
  exact Surroundings.disk_carryOut_of_openOn asked opens

theorem report_of_differsInTrail (alike : recorded.DiffersInTrail plain) :
    recorded.report = plain.report := by
  rw [report, report, Surroundings.candidates, Surroundings.candidates, alike.arguments,
    alike.input]

/-- A check with a trail that can be opened shows what the check without one shows and
ends alike.  It is a run of the check beside a recorder on the trail; and beside a recorder
on any medium, whose writes and flushes may fail at any time, every run of the check shows
no more than that, comes to its end after a bounded number of turns, and ends alike. -/
theorem trail_changes_no_result (alike : recorded.DiffersInTrail plain)
    (asked : recorded.settings.auditLog = some path)
    (opens : Writer.openOn recorded.surroundings.disk path = (opened, .ok writer)) :
    let result := plain.surroundings.run
    recorded.surroundings.run.output = result.output ∧
      recorded.surroundings.run.exitStatus = result.exitStatus ∧
      (∃ turns last, (recorded.start (writer, opened)).run Writer.medium turns = some last ∧
        last.hasEnded = true ∧ last.recorder.state.2 = recorded.surroundings.run.disk) ∧
      ∀ (σ : Type) (medium : Medium σ) (state : σ) (turns : List CheckUnderWay.Turn)
        (last : CheckUnderWay σ), (recorded.start state).run medium turns = some last →
          last.shown <+: result.output ∧
            (last.hasEnded = true →
              last.shown = result.output ∧
                last.exitStatus recorded.isStrict = result.exitStatus) ∧
            (last.hasEnded = false →
              ∃ turn, turn ≠ .pause ∧ (last.step medium turn).isSome = true) ∧
            turns.countP (· ≠ .pause) ≤ (recorded.start state).work := by
  intro result
  have openable : Report.opensTrail recorded.surroundings.disk recorded.settings.auditLog =
      true := by
    rw [asked]
    exact Report.opensTrail_of_openOn opens
  obtain ⟨output, exitStatus⟩ := run_of_opensTrail openable
  obtain ⟨plainOutput, plainStatus⟩ :=
    @run_of_opensTrail plain (by rw [alike.noTrail]; rfl)
  have sameReport := report_of_differsInTrail alike
  rw [sameReport, alike.isJson, ← plainOutput] at output
  rw [sameReport, alike.isStrict, ← plainStatus] at exitStatus
  refine ⟨output, exitStatus, ?_, ?_⟩
  · obtain ⟨turns, last, ran, ended, recorder⟩ :=
      @CheckUnderWay.exists_run _ Writer.medium (recorded.start (writer, opened)) rfl rfl
    have entries : (recorded.start (writer, opened)).deeds.filterMap Deed.entry? =
        recorded.report.entries recorded.surroundings.stamps := Check.entries_deeds
    have atFirst : (recorded.start (writer, opened)).recorder = ⟨(writer, opened), false⟩ := rfl
    rw [entries, atFirst] at recorder
    exact ⟨turns, last, ran, ended, by rw [recorder, disk_of_opens asked opens]⟩
  · intro σ medium state turns last ran
    have atFirst : (recorded.start state).Makes (recorded.report.text recorded.isJson)
        recorded.report.rejected := CheckUnderWay.makes_ofCandidates
    obtain ⟨shown, counted, ended⟩ := atFirst.run ran
    rw [sameReport, alike.isJson, ← plainOutput] at shown
    refine ⟨⟨_, shown⟩, fun hasEnded => ?_, CheckUnderWay.exists_step, ?_⟩
    · obtain ⟨done, _⟩ := ended hasEnded
      rw [done] at shown counted
      refine ⟨by simpa using shown, ?_⟩
      rw [plainStatus, ← alike.isStrict, ← sameReport, ← counted]
      rfl
    · exact Nat.le_trans (Nat.le_add_left _ _) (CheckUnderWay.work_run ran)

/-- A strict check of an input that is not text, with a full device in its directory. -/
def undecodableCheck (arguments : List CommandLine.Argument) (auditLog : Option Files.Path)
    (requested : Request.read arguments = .ok { RecordedCheck.strictRequest with auditLog }) :
    ConfiguredCheck where
  surroundings :=
    { arguments
      input := [0xFF]
      disk := ⟨.directory [([0x61], .device true)], []⟩
      stamps := fun _ => (Audit.Usage.plainEntry .processStarted).toStamp }
  request := { RecordedCheck.strictRequest with auditLog }
  arguments := []
  json := false
  strict := true
  loaded := none
  requested
  checks := rfl
  configured := rfl

theorem trail_changes_no_result_full_device :
    ∃ recorded plain : ConfiguredCheck, recorded.DiffersInTrail plain ∧
      recorded.settings.auditLog = some ⟨[0x61]⟩ ∧
        recorded.surroundings.disk.root.get? [[0x61]] = some (.device true) ∧
          recorded.surroundings.run.output = plain.surroundings.run.output ∧
            recorded.surroundings.run.exitStatus = 1 ∧ plain.surroundings.run.exitStatus = 1 := by
  have readPlain : Request.read
      (["check", "--strict"].map fun argument => Text.Utf8.encode argument.toList) =
        .ok { RecordedCheck.strictRequest with auditLog := none } := by
    decide +kernel
  let recorded := undecodableCheck _ (some ⟨[0x61]⟩) RecordedCheck.read_strictArguments
  let plain := undecodableCheck _ none readPlain
  have alike : recorded.DiffersInTrail plain := ⟨rfl, rfl, rfl, rfl, rfl⟩
  have opens : Writer.openOn recorded.surroundings.disk ⟨[0x61]⟩ =
      (recorded.surroundings.disk, .ok { path := ⟨[0x61]⟩, place := [[0x61]] }) := rfl
  obtain ⟨output, exitStatus, _⟩ := trail_changes_no_result alike rfl opens
  have candidates : Candidate.ofBytes [0xFF] =
      [{ source := "stdin:1", value := "\uFFFD", isText := false }] := by
    decide +kernel
  have undecodable : plain.report.rejected = 1 := by
    change (Report.ofCandidates RuleSet.builtin (Candidate.ofBytes [0xFF])).rejected = 1
    rw [candidates]
    rfl
  obtain ⟨_, plainStatus⟩ := @run_of_opensTrail plain rfl
  rw [undecodable] at plainStatus
  exact ⟨recorded, plain, alike, rfl, rfl, output, exitStatus.trans plainStatus, plainStatus⟩

end

end ConfiguredCheck

end LinkVetting
