import LinkVetting.Program
import LinkVetting.Proofs.Audit.Interleaving
import LinkVetting.Proofs.Audit.LiveSink
import LinkVetting.Proofs.Report.Channels
import LinkVetting.Proofs.Report.Outlets

/-!
# What a check leaves behind

A check makes a report and records it in a trail if one is asked for.  What is shown
and how the check ends follow from the report, unless the trail cannot be opened;
what is recorded is left to a recorder on the opened trail.
-/

namespace LinkVetting

open Audit (Entry Recorder Rejection Session Source Stamp Trail TrailFault Writer)
open CommandLine (Request)
open Files (Disk)

/-! ## The entries of a check -/

namespace Report

/-- The entries for some records, with the stamps behind the first one. -/
def recordEntries (stamps : Nat → Stamp) (records : List (Source × Rejection)) : List Entry :=
  records.zipIdx.map fun ((source, rejection), index) =>
    Entry.ofRejection (stamps (index + 1)) source rejection

/-- The entries of a whole check. -/
def entries (stamps : Nat → Stamp) (report : Report) : List Entry :=
  startEntry report.checked (stamps 0) :: recordEntries stamps report.records ++
    [stopEntry report.totals (stamps (report.records.length + 1))]

/-- Whether a trail can be opened at a path, if one is asked for. -/
def opensTrail (disk : Disk) : Option Files.Path → Bool
  | none => true
  | some path => (Writer.openOn disk path).2.isOk

section

variable {stamps : Nat → Stamp} {records : List (Source × Rejection)}

theorem length_recordEntries : (recordEntries stamps records).length = records.length := by
  rw [recordEntries, List.length_map, List.length_zipIdx]

theorem recordEntries_concat {source : Source} {rejection : Rejection} :
    recordEntries stamps (records ++ [(source, rejection)]) =
      recordEntries stamps records ++
        [Entry.ofRejection (stamps (records.length + 1)) source rejection] := by
  simp [recordEntries, List.zipIdx_append]

theorem opensTrail_of_openOn {disk opened : Disk} {path : Files.Path} {writer : Writer}
    (answer : Writer.openOn disk path = (opened, .ok writer)) :
    opensTrail disk (some path) = true := by
  rw [opensTrail, answer]
  rfl

end

end Report

/-! ## The progress of a check -/

namespace Progress

/-- The entries that a check has logged on a trail that has just been opened. -/
structure Logs (first : Trail) (opened : Disk) (entries : List Entry) (progress : Progress) :
    Prop where
  count : progress.entries = entries.length
  live : ∃ trail events, progress.session.HasLiveSink sinkName trail ∧
    first.Advances opened entries events trail progress.session.disk

section

variable {stamps : Nat → Stamp} {set : RuleSet} {json : Bool} {candidates : List Candidate}
variable {progress : Progress} {first : Trail} {disk opened : Disk} {entries : List Entry}

theorem Logs.log {entry : Stamp → Entry} (logs : progress.Logs first opened entries) :
    (progress.log stamps entry).Logs first opened (entries ++ [entry (stamps entries.length)]) := by
  obtain ⟨count, trail, events, live, advances⟩ := logs
  obtain ⟨next, liveNext, logged⟩ :=
    @Session.HasLiveSink.log _ _ _ (entry (stamps progress.entries)) live
  rw [count] at liveNext logged
  rw [Progress.log, count]
  refine ⟨?_, next, _, liveNext, advances.trans logged⟩
  rw [List.length_append, List.length_singleton]

theorem Logs.tell {event : Event} (logs : progress.Logs first opened entries) :
    (progress.tell event).Logs first opened entries := ⟨logs.count, logs.live⟩

/-- What a check tells and prints is no matter of the trail. -/
theorem keeps_logs {started : Entry} :
    (outlet stamps).Keeps fun account progress =>
      progress.Logs first opened (started :: Report.recordEntries stamps account.records) where
  tell := Logs.tell
  record := by
    intro account progress source rejection logs
    have logged := @Logs.log stamps _ _ _ _ (Entry.ofRejection · source rejection) logs
    rw [List.length_cons, Report.length_recordEntries] at logged
    rwa [Report.recordEntries_concat]
  print := by
    intro account progress text next logs printed
    cases printed
    exact ⟨logs.count, logs.live⟩

theorem keeps_output :
    (outlet stamps).Keeps fun account progress => progress.output.toList = account.text where
  tell := id
  record := id
  print := by
    intro account progress text next shown printed
    cases printed
    rw [print, String.toList_append, String.toList_ofList, shown]

theorem session_log (noSink : progress.session.sinks = []) {entry : Stamp → Entry} :
    (progress.log stamps entry).session = progress.session := by
  simp [log, Session.log, noSink]

theorem keeps_session {session : Session} (noSink : session.sinks = []) :
    (outlet stamps).Keeps fun _ progress => progress.session = session where
  tell := id
  record := by
    rintro _ progress _ _ rfl
    exact session_log noSink
  print := by
    intro _ _ _ _ same printed
    cases printed
    exact same

theorem Logs.disk_finish {totals : Check.Totals} (logs : progress.Logs first opened entries)
    (only : first.sinks = 1) :
    (progress.finish stamps totals).session.disk =
      ((first.recorder opened).run Writer.medium
        ((first.pending ++ (entries ++ [stopEntry totals (stamps entries.length)])).map .entry ++
          [.ended])).1.state.2 := by
  have told : (progress.tell (.checkFinished totals.checked totals.rejected)).Logs first opened
      entries := logs.tell
  obtain ⟨_, trail, events, live, advances⟩ := @Logs.log stamps _ _ _ _ (stopEntry totals) told
  rw [advances.run_ended]
  exact live.join (advances.sinks.trans only)

theorem check_of_run {stopped : Progress} {totals : Check.Totals}
    (ran : Check.run (outlet stamps) json set {}
      (progress.log stamps (startEntry candidates.length)) candidates = (stopped, .ok totals)) :
    check stamps set json candidates progress = (stopped.finish stamps totals, totals) := by
  rw [check, ran]

/-- A check shows the text of its report and answers its totals. -/
theorem check_shows (nothing : progress.output = "") :
    let report := Report.ofCandidates set candidates
    (check stamps set json candidates progress).1.output.toList = report.text json ∧
      (check stamps set json candidates progress).2 = report.totals := by
  intro report
  have atFirst : (progress.log stamps (startEntry candidates.length)).output.toList = [] := by
    rw [log, nothing]
    rfl
  obtain ⟨stopped, ran, shown⟩ :=
    @Check.Outlet.Keeps.run_of_prints _ _ set json candidates _ _ keeps_output atFirst
  rw [check_of_run ran]
  exact ⟨shown, rfl⟩

/-- A check on a trail leaves on the disk what the recorder leaves of its entries. -/
theorem disk_check (logs : progress.Logs first opened []) (only : first.sinks = 1) :
    (check stamps set json candidates progress).1.session.disk =
      ((first.recorder opened).run Writer.medium
        ((first.pending ++ (Report.ofCandidates set candidates).entries stamps).map .entry ++
          [.ended])).1.state.2 := by
  have begun := @Logs.log stamps _ _ _ _ (startEntry candidates.length) logs
  obtain ⟨stopped, ran, logged⟩ :=
    @Check.Outlet.Keeps.run_of_prints _ _ set json candidates _ _
      (@keeps_logs stamps first opened _) begun
  rw [check_of_run ran]
  dsimp only
  rw [logged.disk_finish only, List.length_cons, Report.length_recordEntries, Report.entries,
    Report.checked_ofCandidates]
  rfl

theorem disk_check_of_no_trail (noTrail : progress.session = { disk }) :
    (check stamps set json candidates progress).1.session.disk = disk := by
  have begun : (progress.log stamps (startEntry candidates.length)).session = { disk } := by
    rw [session_log (by rw [noTrail]), noTrail]
  obtain ⟨stopped, ran, same⟩ := @Check.Outlet.Keeps.run_of_prints _ _ set json candidates _ _
    (@keeps_session stamps { disk } rfl) begun
  rw [check_of_run ran]
  dsimp only
  rw [finish, session_log (by rw [tell, same]), tell, same]
  rfl

end

end Progress

/-! ## What a check answers -/

namespace Surroundings

section

variable {surroundings : Surroundings} {set : RuleSet} {settings : Configuration}
variable {filter : LogFilter} {arguments : List String} {json strict : Bool}
variable {path : Files.Path} {disk opened : Disk} {writer : Writer}

theorem startTrail_of_openOn (answer : Writer.openOn disk path = (opened, .ok writer)) :
    ∃ started, startTrail disk (some path) = (started, .ok [.trailOpened path]) ∧
      { session := started, events := [.trailOpened path].toArray : Progress }.Logs
        { writer, deadline := Trail.pauseLength } opened [] := by
  obtain ⟨started, begun, startDisk, live⟩ :=
    @Session.start_of_openOn sinkName disk opened path writer answer
  refine ⟨started, ?_, rfl, _, [], live, ?_⟩
  · rw [startTrail, begun]
    rfl
  · rw [startDisk]
    exact .refl

theorem startTrail_of_error {fault : TrailFault}
    (answer : Writer.openOn disk path = (opened, .error fault)) :
    startTrail disk (some path) = ({ disk := opened }, .error (.ofTrailFault path fault)) := by
  rw [startTrail, Session.start, Trail.start, answer]
  rfl

theorem isOk_startTrail {asked : Option Files.Path} :
    (startTrail disk asked).2.isOk = Report.opensTrail disk asked := by
  cases asked with
  | none => rfl
  | some path =>
      rw [Report.opensTrail]
      cases answer : Writer.openOn disk path with
      | mk opened result =>
          cases result with
          | error fault =>
              rw [startTrail_of_error answer]
              rfl
          | ok writer =>
              obtain ⟨started, begun, _⟩ := startTrail_of_openOn answer
              rw [begun]
              rfl

/-- The output and the exit status of a check follow from its report and from
whether the trail can be opened. -/
theorem carryOut_check :
    let report := Report.ofCandidates set (surroundings.candidates arguments)
    let run := surroundings.carryOut set settings filter (.check arguments json strict)
    let opens := Report.opensTrail surroundings.disk settings.auditLog
    run.output = (if opens then report.text (json || settings.json) else []) ∧
      run.exitStatus =
        if opens then
          if (strict || settings.strict) && report.rejected > 0 then 1 else 0
        else 1 := by
  intro report run opens
  have answered : (startTrail surroundings.disk settings.auditLog).2.isOk = opens :=
    isOk_startTrail
  simp only [run, carryOut]
  cases started : startTrail surroundings.disk settings.auditLog with
  | mk session result =>
      rw [started] at answered
      cases result with
      | error failure =>
          rw [← answered]
          exact ⟨rfl, rfl⟩
      | ok events =>
          obtain ⟨output, totals⟩ := @Progress.check_shows surroundings.stamps set
            (json || settings.json) (surroundings.candidates arguments)
            { session, events := events.toArray } rfl
          rw [← answered]
          refine ⟨output, ?_⟩
          simp only [totals]
          rfl

/-- Once its trail is open, the disk after a check is what the recorder leaves of the entries,
whatever that writes to. -/
theorem disk_carryOut_of_openOn (audited : settings.auditLog = some path)
    (opens : Writer.openOn surroundings.disk path = (opened, .ok writer)) :
    (surroundings.carryOut set settings filter (.check arguments json strict)).disk =
      (Recorder.run Writer.medium ⟨(writer, opened), false⟩
        (((Report.ofCandidates set (surroundings.candidates arguments)).entries
          surroundings.stamps).map .entry ++ [.ended])).1.state.2 := by
  obtain ⟨started, begun, logs⟩ := startTrail_of_openOn opens
  have nothing : { writer, deadline := Trail.pauseLength : Trail }.pending = [] := rfl
  have atFirst : { writer, deadline := Trail.pauseLength : Trail }.recorder opened =
      ⟨(writer, opened), false⟩ := rfl
  have left := @Progress.disk_check surroundings.stamps set (json || settings.json)
    (surroundings.candidates arguments) _ _ _ logs rfl
  rw [atFirst, nothing, List.nil_append] at left
  simp only [carryOut, audited, begun]
  exact left

theorem disk_carryOut_of_error {fault : TrailFault} (audited : settings.auditLog = some path)
    (fails : Writer.openOn surroundings.disk path = (opened, .error fault)) :
    (surroundings.carryOut set settings filter (.check arguments json strict)).disk = opened := by
  simp only [carryOut, audited, startTrail_of_error fails]

theorem disk_carryOut_of_no_trail (unaudited : settings.auditLog = none) :
    (surroundings.carryOut set settings filter (.check arguments json strict)).disk =
      surroundings.disk := by
  have started : startTrail surroundings.disk settings.auditLog =
      ({ disk := surroundings.disk }, .ok []) := by rw [unaudited, startTrail]
  have kept := @Progress.disk_check_of_no_trail surroundings.stamps set (json || settings.json)
    (surroundings.candidates arguments) { session := { disk := surroundings.disk } } _ rfl
  simp only [carryOut, started]
  exact kept

theorem file_of_carryOut_check (audited : settings.auditLog = some path)
    (opens : Writer.openOn surroundings.disk path = (opened, .ok writer))
    (regular : ∃ content, opened.root.get? writer.place = some (.file content)) :
    (surroundings.carryOut set settings filter
        (.check arguments json strict)).disk.root.get? writer.place =
      some (.file (surroundings.disk.contentAt writer.place ++
        ((Report.ofCandidates set (surroundings.candidates arguments)).entries
          surroundings.stamps).flatMap Entry.bytes)) := by
  obtain ⟨written, nothingWaits⟩ := Writer.hasWritten_of_openOn opens regular
  have recorded : Recorder.HasRecorded writer.place (surroundings.disk.contentAt writer.place)
      ⟨(writer, opened), false⟩ := ⟨rfl, written, fun _ => nothingWaits⟩
  rw [disk_carryOut_of_openOn audited opens]
  exact recorded.run

/-- A run that reads a request leaves behind what is carried out, with notices of its
own, unless its configuration cannot be loaded. -/
theorem run_of_read {request : Request}
    (requested : Request.read surroundings.arguments = .ok request) :
    (∃ fault notices,
        Configuration.load surroundings.disk request.config = .error fault ∧
          surroundings.run = { exitStatus := 1, notices, disk := surroundings.disk }) ∨
      ∃ loaded filter notices,
        Configuration.load surroundings.disk request.config = .ok loaded ∧
          surroundings.run =
            { surroundings.carryOut RuleSet.builtin ((loaded.getD {}).overridden request)
                filter request.command with notices } := by
  rw [run, requested]
  simp only [answer]
  cases Configuration.load surroundings.disk request.config with
  | error fault => exact Or.inl ⟨fault, _, rfl, rfl⟩
  | ok loaded => exact Or.inr ⟨loaded, _, _, rfl, rfl⟩

theorem run_of_loaded {request : Request} {loaded : Option Configuration}
    (requested : Request.read surroundings.arguments = .ok request)
    (configured : Configuration.load surroundings.disk request.config = .ok loaded) :
    ∃ filter notices, surroundings.run =
      { surroundings.carryOut RuleSet.builtin ((loaded.getD {}).overridden request)
          filter request.command with notices } := by
  rcases run_of_read requested with ⟨_, _, wrong, _⟩ | ⟨others, filter, notices, right, ran⟩
  · rw [configured] at wrong
    cases wrong
  · rw [configured] at right
    obtain rfl := Except.ok.inj right
    exact ⟨filter, notices, ran⟩

end

end Surroundings

end LinkVetting
