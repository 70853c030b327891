import LinkVetting.Proofs.Audit.EntryLines
import LinkVetting.Proofs.Program.TrailUse

/-!
# Checks that are recorded

A check with a trail on a regular file adds one block of lines to the file: a line
for the start, one for each rejection, and one for the end with the counts, in
whatever order it and the recorder of the trail go on.  Checks one after the other on a
file add their blocks one after the other.
-/

namespace LinkVetting

open Audit (Entry Stamp Writer)
open CommandLine (Request)
open Files (Disk)

/-! ## Runs of the program -/

/-- What a check of candidates records: its start with the number of candidates,
their rejections in order, and its end with the counts. -/
def recordedBlock (stamps : Nat → Stamp) (candidates : List Candidate) : List Entry :=
  let rejections := RuleSet.builtin.rejections candidates
  let started : Entry :=
    { stamps 0 with
      eventType := .processStarted
      source := { component := "link-guard" }
      details := .object [("candidates", .ofNat candidates.length),
        ("version", .string CommandLine.version)] }
  let stopped : Entry :=
    { stamps (rejections.length + 1) with
      eventType := .processStopped
      source := { component := "link-guard" }
      details := .object [("checked", .ofNat candidates.length),
        ("rejected", .ofNat rejections.length)] }
  started ::
    (rejections.zipIdx.map fun ((candidate, rule), index) =>
      candidate.rejectionEntry (stamps (index + 1)) rule) ++ [stopped]

theorem Report.entries_ofCandidates {stamps : Nat → Stamp} {candidates : List Candidate} :
    (ofCandidates RuleSet.builtin candidates).entries stamps =
      recordedBlock stamps candidates := by
  have rejected := @rejectionEntries_ofCandidates RuleSet.builtin candidates
    fun index => stamps (index + 1)
  rw [rejectionEntries] at rejected
  rw [entries, recordEntries, rejected, ← rejected_eq, totals, rejected_ofCandidates,
    checked_ofCandidates]
  rfl

/-- A run that checks candidates and records them in a trail on a regular file. -/
structure RecordedCheck where
  surroundings : Surroundings
  request : Request
  arguments : List String
  json : Bool
  strict : Bool
  loaded : Option Configuration
  path : Files.Path
  opened : Disk
  writer : Writer
  requested : Request.read surroundings.arguments = .ok request
  checks : request.command = .check arguments json strict
  configured : Configuration.load surroundings.disk request.config = .ok loaded
  audited : ((loaded.getD {}).overridden request).auditLog = some path
  opens : Writer.openOn surroundings.disk path = (opened, .ok writer)
  regular : ∃ content, opened.root.get? writer.place = some (.file content)

namespace RecordedCheck

/-- The candidates, from the arguments or from the input. -/
def candidates (check : RecordedCheck) : List Candidate :=
  check.surroundings.candidates check.arguments

/-- Whether rejections make the run fail, by the command line or by the
configuration. -/
def isStrict (check : RecordedCheck) : Bool :=
  check.strict || (check.loaded.getD {}).strict

/-- The content of the file before the run. -/
def contentBefore (check : RecordedCheck) : List UInt8 :=
  check.surroundings.disk.contentAt check.writer.place

/-- The content of the file after the run. -/
def contentAfter (check : RecordedCheck) : List UInt8 :=
  check.surroundings.run.disk.contentAt check.writer.place

def block (check : RecordedCheck) : List Entry :=
  recordedBlock check.surroundings.stamps check.candidates

/-- The rejected candidates with the rules that reject them. -/
def rejections (check : RecordedCheck) : List (Candidate × String) :=
  RuleSet.builtin.rejections check.candidates

/-- The check and the recorder of its trail, before they do anything. -/
def start (check : RecordedCheck) : CheckUnderWay (Writer × Disk) :=
  .ofCandidates check.surroundings.stamps
    (check.json || (check.loaded.getD {}).json) RuleSet.builtin check.candidates
    (check.writer, check.opened)

theorem run_eq (check : RecordedCheck) :
    ∃ output notices disk,
      check.surroundings.run =
          { exitStatus := if check.isStrict ∧ 0 < check.rejections.length then 1 else 0
            output, notices, disk } ∧
        disk.root.get? check.writer.place =
          some (.file (check.contentBefore ++ check.block.flatMap Entry.bytes)) := by
  obtain ⟨filter, notices, ran⟩ :=
    Surroundings.run_of_loaded check.requested check.configured
  rw [check.checks] at ran
  let settings := (check.loaded.getD {}).overridden check.request
  let carried := check.surroundings.carryOut RuleSet.builtin settings filter
    (.check check.arguments check.json check.strict)
  have file := @Surroundings.file_of_carryOut_check check.surroundings RuleSet.builtin
    settings filter check.arguments check.json check.strict _ _ _ check.audited check.opens
    check.regular
  obtain ⟨_, status⟩ := @Surroundings.carryOut_check check.surroundings RuleSet.builtin
    settings filter check.arguments check.json check.strict
  have opens : Report.opensTrail check.surroundings.disk settings.auditLog = true := by
    rw [check.audited]
    exact Report.opensTrail_of_openOn check.opens
  rw [← candidates] at file status
  rw [Report.entries_ofCandidates] at file
  rw [opens, if_pos rfl, Report.rejected_ofCandidates] at status
  have ended : carried.exitStatus =
      if check.isStrict ∧ 0 < check.rejections.length then 1 else 0 := by
    refine status.trans ?_
    simp [isStrict, rejections, settings, Configuration.overridden]
  refine ⟨carried.output, notices, carried.disk, ?_, file⟩
  rw [ran, ← ended]

/-- In whatever order a check and its recorder go on, the check ends alike and leaves the
same on the file. -/
theorem file_and_status_of_ended (check : RecordedCheck) {turns : List CheckUnderWay.Turn}
    {last : CheckUnderWay (Writer × Disk)}
    (ran : check.start.run Writer.medium turns = some last) (hasEnded : last.hasEnded = true) :
    last.recorder.state.2.root.get? check.writer.place =
        some (.file (check.contentBefore ++ check.block.flatMap Entry.bytes)) ∧
      last.exitStatus check.isStrict =
        if check.isStrict ∧ 0 < check.rejections.length then 1 else 0 := by
  have file := CheckUnderWay.file_of_ended check.opens check.regular ran hasEnded
  obtain ⟨_, counted, ends⟩ := CheckUnderWay.makes_ofCandidates.run ran
  rw [(ends hasEnded).1, List.countP_nil, Nat.add_zero, Report.rejected_ofCandidates] at counted
  rw [Report.entries_ofCandidates] at file
  refine ⟨file, ?_⟩
  rw [CheckUnderWay.exitStatus, counted, ← rejections]
  simp

/-- Checks one after the other on a file, from its content before the first one to
that after the last. -/
inductive Follow : List UInt8 → List RecordedCheck → List UInt8 → Prop where
  | nil {content : List UInt8} : Follow content [] content
  | cons {check : RecordedCheck} {later : List RecordedCheck} {last : List UInt8} :
      Follow check.contentAfter later last → Follow check.contentBefore (check :: later) last

theorem contentAfter_eq (check : RecordedCheck) :
    check.contentAfter = check.contentBefore ++ check.block.flatMap Entry.bytes := by
  obtain ⟨output, notices, disk, ran, file⟩ := check.run_eq
  rw [contentAfter, ran]
  exact Disk.contentAt_of_file file

theorem Follow.content {before after : List UInt8} {checks : List RecordedCheck}
    (follow : Follow before checks after) :
    after = before ++ (checks.flatMap block).flatMap Entry.bytes := by
  induction follow with
  | nil => simp
  | cons later induction =>
      rw [induction, contentAfter_eq, List.flatMap_cons, List.flatMap_append,
        List.append_assoc]

theorem countP_block (check : RecordedCheck) :
    check.block.countP (fun entry => entry.eventType = .uriRejected) =
      check.rejections.length := by
  have rejected : (check.rejections.zipIdx.map fun ((candidate, rule), index) =>
      candidate.rejectionEntry (check.surroundings.stamps (index + 1)) rule).countP
        (fun entry => entry.eventType = .uriRejected) = check.rejections.length := by
    rw [List.countP_map, ← List.length_zipIdx, List.countP_eq_length]
    exact fun _ _ => rfl
  rw [rejections] at rejected ⊢
  simp [block, recordedBlock, rejected]

/-- Whatever the candidates are and whatever is on the file before, every check in a
row on a file adds its block of lines: its start with the number of candidates, each
rejection in order, and its end with the counts.  It fails exactly where rejections
make it fail and its block has one.  In whatever order the check and the recorder of its
trail go on, it leaves this block and ends in this way. -/
theorem blocks_of_follow {before after : List UInt8} {checks : List RecordedCheck}
    (follow : Follow before checks after) :
    after = before ++
        (checks.flatMap block).flatMap (fun entry => entry.lineBytes ++ [0x0A]) ∧
      ((checks.flatMap block).flatMap fun entry => entry.lineBytes ++ [0x0A]).splitOn 0x0A =
        (checks.flatMap block).map Entry.lineBytes ++ [[]] ∧
      ∀ check ∈ checks,
        check.surroundings.run.disk.root.get? check.writer.place =
            some (.file (check.contentBefore ++
              check.block.flatMap fun entry => entry.lineBytes ++ [0x0A])) ∧
          check.block.countP (fun entry => entry.eventType = .uriRejected) =
            check.rejections.length ∧
          check.surroundings.run.exitStatus =
            (if check.isStrict ∧ 0 < check.rejections.length then 1 else 0) ∧
          ∀ turns last, check.start.run Writer.medium turns = some last →
            last.hasEnded = true →
              last.recorder.state.2.root.get? check.writer.place =
                  some (.file (check.contentBefore ++
                    check.block.flatMap fun entry => entry.lineBytes ++ [0x0A])) ∧
                last.exitStatus check.isStrict = check.surroundings.run.exitStatus := by
  have bytes : (fun entry : Entry => entry.lineBytes ++ [0x0A]) = Entry.bytes :=
    funext fun _ => Entry.bytes_eq.symm
  rw [bytes]
  refine ⟨follow.content, Entry.splitOn_bytes, fun check _ => ?_⟩
  obtain ⟨output, notices, disk, ran, file⟩ := check.run_eq
  refine ⟨?_, check.countP_block, ?_, fun turns last ranOn hasEnded => ?_⟩
  · rw [ran]
    exact file
  · rw [ran]
  · rw [ran]
    exact check.file_and_status_of_ended ranOn hasEnded

/-- The arguments of a strict check of the input, with a trail. -/
def strictArguments : List CommandLine.Argument :=
  ["check", "--audit-log=a", "--strict"].map fun argument => Text.Utf8.encode argument.toList

def strictRequest : Request where
  config := CommandLine.defaultConfig
  auditLog := some ⟨[0x61]⟩
  logLevel := none
  command := .check [] false true

theorem read_strictArguments : Request.read strictArguments = .ok strictRequest := by
  decide +kernel

/-- A strict check of an input that is recorded on a file with some content. -/
def strictCheck (content input : List UInt8) : RecordedCheck where
  surroundings :=
    { arguments := strictArguments
      input
      disk := ⟨.directory [([0x61], .file content)], []⟩
      stamps := fun _ => (Audit.Usage.plainEntry .processStarted).toStamp }
  request := strictRequest
  arguments := []
  json := false
  strict := true
  loaded := none
  path := ⟨[0x61]⟩
  opened := ⟨.directory [([0x61], .file content)], []⟩
  writer := { path := ⟨[0x61]⟩, place := [[0x61]] }
  requested := read_strictArguments
  checks := rfl
  configured := rfl
  audited := rfl
  opens := rfl
  regular := ⟨content, rfl⟩

theorem contentBefore_strictCheck {content input : List UInt8} :
    (strictCheck content input).contentBefore = content := rfl

theorem blocks_of_follow_two_checks :
    ∃ first second after, Follow [0x78, 0x0A] [first, second] after ∧
      after = [0x78, 0x0A] ++
        ([first, second].flatMap block).flatMap (fun entry => entry.lineBytes ++ [0x0A]) ∧
        first.surroundings.run.exitStatus = 0 ∧ second.surroundings.run.exitStatus = 1 := by
  let first := strictCheck [0x78, 0x0A] []
  let second := strictCheck first.contentAfter [0xFF]
  have ran : Follow second.contentBefore [second] second.contentAfter := .cons .nil
  rw [contentBefore_strictCheck] at ran
  have follow : Follow [0x78, 0x0A] [first, second] second.contentAfter := ran.cons
  obtain ⟨content, _, each⟩ := blocks_of_follow follow
  have accepted : first.rejections = [] := rfl
  have candidates : Candidate.ofBytes [0xFF] =
      [{ source := "stdin:1", value := "\uFFFD", isText := false }] := by
    decide +kernel
  have undecodable : second.rejections.length = 1 := by
    change (RuleSet.builtin.rejections (Candidate.ofBytes [0xFF])).length = 1
    rw [candidates]
    rfl
  refine ⟨first, second, _, follow, content, ?_, ?_⟩
  · obtain ⟨_, _, status, _⟩ := each first (by simp)
    rw [status, accepted]
    rfl
  · obtain ⟨_, _, status, _⟩ := each second (by simp)
    rw [status, undecodable]
    rfl

end RecordedCheck

end LinkVetting
