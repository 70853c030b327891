import LinkVetting.Proofs.Audit.LiveSink
import LinkVetting.Proofs.Report.AnswerLines
import LinkVetting.Proofs.Report.Outlets

/-!
# Agreement of what a report says

A report counts its candidates, shows them, warns about them and has entries for
them.  All of this follows from the rejections alone: each of them is counted
once, shown as rejected once, warned about once and recorded once, in order, and
nothing else is.
-/

namespace LinkVetting

open Audit (Entry Session Stamp Trail)

/-- The entry for a candidate that is rejected by a rule. -/
def Candidate.rejectionEntry (stamp : Stamp) (candidate : Candidate) (rule : String) : Entry :=
  { stamp with
    eventType := .uriRejected
    source := { component := "link-guard", input := some candidate.source }
    details := .null
    rejection := some { candidate := candidate.value, rule } }

/-- Whether a line of a report in JSON says that its candidate is not accepted. -/
def saysRejected : Except Json.Fault Json → Bool
  | .ok (.object members) =>
      match members.lookup "accepted" with
      | some (.bool accepted) => !accepted
      | _ => false
  | _ => false

namespace RuleSet

variable {set : RuleSet} {candidates : List Candidate} {β : Type}

/-- What is said where a rule rejects a candidate, and only there, is said about
the rejections. -/
theorem filterMap_eq_map_rejections {say : Candidate → Option β}
    {sayRejected : Candidate × String → β}
    (same : ∀ candidate, say candidate =
      (set.rejectingRule? candidate).map fun rule => sayRejected (candidate, rule)) :
    candidates.filterMap say = (set.rejections candidates).map sayRejected := by
  rw [rejections, List.map_filterMap]
  congr
  funext candidate
  rw [same, Option.map_map]
  rfl

theorem filter_map_eq_map_rejections {say : Candidate → β} {pick : β → Bool}
    {sayRejected : Candidate × String → β}
    (same : ∀ candidate, Option.guard pick (say candidate) =
      (set.rejectingRule? candidate).map fun rule => sayRejected (candidate, rule)) :
    (candidates.map say).filter pick = (set.rejections candidates).map sayRejected := by
  rw [← List.filterMap_eq_filter, List.filterMap_map]
  exact filterMap_eq_map_rejections same

end RuleSet

namespace Report

variable {set : RuleSet} {candidates : List Candidate}

theorem checked_ofCandidates : (ofCandidates set candidates).checked = candidates.length :=
  List.length_map _

theorem records_ofCandidates :
    (ofCandidates set candidates).records =
      (set.rejections candidates).map fun (candidate, rule) =>
        ({ component := "link-guard", input := some candidate.source },
          { candidate := candidate.value, rule }) := by
  rw [records, ofCandidates, List.filterMap_map]
  refine RuleSet.filterMap_eq_map_rejections fun candidate => ?_
  rw [Function.comp, RuleSet.ofCandidate_eq]
  rfl

theorem rejected_eq {report : Report} : report.rejected = report.records.length := by
  rw [records, List.length_filterMap_eq_countP, rejected]
  congr
  funext outcome
  simp [Outcome.record?, Outcome.isRejected]

theorem rejected_ofCandidates :
    (ofCandidates set candidates).rejected = (set.rejections candidates).length := by
  rw [rejected_eq, records_ofCandidates, List.length_map]

theorem warnings_ofCandidates :
    ((ofCandidates set candidates).events.filter fun event => event.level = .warn) =
      (set.rejections candidates).map fun (candidate, rule) =>
        set.warning candidate rule := by
  rw [events, ofCandidates, List.map_map]
  refine RuleSet.filter_map_eq_map_rejections fun candidate => ?_
  rw [Function.comp, RuleSet.ofCandidate_eq, RuleSet.vettingEvent]
  cases set.rejectingRule? candidate with
  | none => rfl
  | some rule =>
      have warns : (set.warning candidate rule).level = .warn := by
        rw [RuleSet.warning]
        split
        · rfl
        · rfl
      simp [Option.guard, warns]

theorem rejected_answers :
    ((candidates.map fun candidate => Except.ok (set.answer candidate)).filter saysRejected) =
      (set.rejections candidates).map fun (candidate, rule) =>
        .ok (.object [("accepted", .bool false), ("candidate", .string candidate.value),
          ("rule", .string rule), ("sanitized", .string "")]) := by
  refine RuleSet.filter_map_eq_map_rejections fun candidate => ?_
  rw [RuleSet.answer]
  cases set.rejectingRule? candidate with
  | none => rfl
  | some rule => rfl

/-- The entries for the rejections of a report. -/
def rejectionEntries (stamps : Nat → Stamp) (report : Report) : List Entry :=
  report.records.zipIdx.map fun ((source, rejection), index) =>
    Entry.ofRejection (stamps index) source rejection

theorem rejectionEntries_ofCandidates {stamps : Nat → Stamp} :
    (ofCandidates set candidates).rejectionEntries stamps =
      (set.rejections candidates).zipIdx.map fun ((candidate, rule), index) =>
        candidate.rejectionEntry (stamps index) rule := by
  rw [rejectionEntries, records_ofCandidates, List.zipIdx_map, List.map_map]
  rfl

/-- A check leaves what its report says.  Everything that this says about rejections, and
what comes to a live sink, agrees with the rejections, one by one and in order. -/
theorem says_rejections {session : Session} {name : String} {trail : Trail}
    {stamps : Nat → Stamp} (live : session.HasLiveSink name trail) :
    let report := ofCandidates set candidates
    let rejections := set.rejections candidates
    let logged := session.logAll name (report.rejectionEntries stamps)
    (∀ json, Check.run .accounting json set {} {} candidates =
      (report.account json, .ok report.totals)) ∧
      report.checked = candidates.length ∧
      report.rejected = rejections.length ∧
      (∃ next, logged.1.HasLiveSink name next ∧
        trail.Advances session.disk
          (rejections.zipIdx.map fun ((candidate, rule), index) =>
            candidate.rejectionEntry (stamps index) rule)
          logged.2 next logged.1.disk) ∧
      ((report.events ++ logged.2).filter fun event => event.level = .warn) =
        rejections.map (fun (candidate, rule) => set.warning candidate rule) ∧
      (∃ lines, (report.text true).splitOn '\n' = lines ++ [[]] ∧
        (lines.map Json.read).filter saysRejected =
          rejections.map fun (candidate, rule) =>
            .ok (.object [("accepted", .bool false), ("candidate", .string candidate.value),
              ("rule", .string rule), ("sanitized", .string "")])) ∧
      ∀ candidate ∈ candidates, candidate.isText = false →
        (candidate, "invalid_utf8") ∈ rejections := by
  intro report rejections logged
  obtain ⟨next, liveAfter, advances⟩ :=
    @Session.HasLiveSink.logAll session name trail (report.rejectionEntries stamps) live
  obtain ⟨lines, together, answers⟩ := @exists_lines_json set candidates
  refine ⟨fun _ => Check.run_accounting, checked_ofCandidates, rejected_ofCandidates, ⟨next, liveAfter, ?_⟩, ?_,
    ⟨lines, together, ?_⟩, fun candidate => RuleSet.mem_rejections_of_not_isText⟩
  · rw [← rejectionEntries_ofCandidates]
    exact advances
  · rw [List.filter_append, warnings_ofCandidates]
    obtain ⟨taken, ran, _⟩ := advances.recorded
    -- what the recorder reports about entries are errors
    have noWarning : (logged.2.filter fun event => event.level = .warn) = [] := by
      refine List.filter_eq_nil_iff.mpr fun event member => ?_
      rw [← congrArg Prod.snd ran] at member
      simp [Audit.Recorder.level_of_mem_run_entries member]
    rw [noWarning, List.append_nil]
  · rw [answers, rejected_answers]

theorem says_rejections_undecodable :
    let candidate : Candidate := { source := "stdin:1", value := "/ok", isText := false }
    let trail : Trail :=
      { writer := { path := ⟨[0x61]⟩, place := [[0x61]] }, deadline := 500 }
    let session : Session :=
      { disk := ⟨.directory [([0x61], .file [])], []⟩, trails := [trail], sinks := [("run", 0)] }
    session.HasLiveSink "run" trail ∧ candidate.isText = false ∧
      (ofCandidates ⟨[]⟩ [candidate]).rejected = 1 ∧
        (candidate, "invalid_utf8") ∈ (RuleSet.mk []).rejections [candidate] := by
  intro candidate trail session
  have live : session.HasLiveSink "run" trail :=
    { trails := rfl
      sink := rfl
      running := rfl
      shared := by decide
      fair := fun waits => absurd rfl waits }
  obtain ⟨_, _, rejected, _, _, _, undecodable⟩ :=
    @says_rejections ⟨[]⟩ [candidate] session "run" trail
      (fun _ => ⟨⟨List.replicate 32 ⟨0, by decide⟩, rfl⟩, .epoch⟩) live
  exact ⟨live, rfl, rejected.trans rfl, undecodable candidate List.mem_cons_self rfl⟩

end Report

end LinkVetting
