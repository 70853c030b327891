import LinkVetting.Check

/-!
# What a check leaves at its outlet

A check goes through its candidates one by one and keeps running totals.  Whatever its
outlet is, it leaves there what the report on the candidates says: the events, the
records and the lines, in order.  Where a line cannot be printed the check stops; then
its candidate has been told and recorded, and nothing has come of those behind it.
-/

namespace LinkVetting

/-- What has been told, recorded and printed. -/
structure Account where
  events : List Event := []
  records : List (Audit.Source × Audit.Rejection) := []
  text : List Char := []

theorem Outcome.length_record? {outcome : Outcome} :
    outcome.record?.toList.length = outcome.isRejected.toNat := by
  rw [record?, isRejected]
  cases outcome.rule <;> rfl

namespace Report

/-- All that is told, recorded and printed about a report. -/
def account (json : Bool) (report : Report) : Account :=
  ⟨report.events, report.records, report.text json⟩

def totals (report : Report) : Check.Totals := ⟨report.checked, report.rejected⟩

section

variable {set : RuleSet} {json : Bool} {front : List Candidate} {candidate : Candidate}

theorem account_concat :
    (ofCandidates set (front ++ [candidate])).account json =
      let done := (ofCandidates set front).account json
      let outcome := Outcome.ofCandidate set candidate
      ⟨done.events ++ [outcome.event], done.records ++ outcome.record?.toList,
        done.text ++ outcome.line json⟩ := by
  simp only [account, events, records, text, ofCandidates, List.map_append, List.map_singleton,
    List.filterMap_append, List.flatMap_append, List.flatMap_singleton, Account.mk.injEq,
    List.append_cancel_left_eq, and_true, true_and]
  cases record : (Outcome.ofCandidate set candidate).record? <;> simp [record]

theorem totals_concat :
    (ofCandidates set (front ++ [candidate])).totals =
      let done := (ofCandidates set front).totals
      ⟨done.checked + 1,
        done.rejected + (Outcome.ofCandidate set candidate).record?.toList.length⟩ := by
  simp only [totals, checked, rejected, ofCandidates, List.map_append, List.map_singleton,
    List.length_append, List.length_singleton, List.countP_append, List.countP_singleton,
    Outcome.length_record?]
  cases (Outcome.ofCandidate set candidate).isRejected <;> rfl

end

end Report

namespace Check

variable {σ ε : Type} {outlet : Outlet σ ε} {holds : Account → σ → Prop}

/-- A relation between an account and the state behind an outlet that everything the outlet
does without a fault preserves. -/
structure Outlet.Keeps (outlet : Outlet σ ε) (holds : Account → σ → Prop) : Prop where
  tell : ∀ {account state event}, holds account state →
    holds { account with events := account.events ++ [event] } (outlet.tell state event)
  record : ∀ {account state source rejection}, holds account state →
    holds { account with records := account.records ++ [(source, rejection)] }
      (outlet.record state source rejection)
  print : ∀ {account state text next}, holds account state →
    outlet.print state text = (next, .ok ()) →
      holds { account with text := account.text ++ text } next

/-- A check has stopped at a candidate that stands behind some others. -/
inductive StopsAt (outlet : Outlet σ ε) (holds : Account → σ → Prop) (set : RuleSet)
    (json : Bool) (front : List Candidate) (candidate : Candidate) : Fault ε → σ → Prop where
  /-- Nothing of the line has been printed. -/
  | body {before last : σ} {cause : ε} :
      holds
        { (Report.ofCandidates set (front ++ [candidate])).account json with
          text := (Report.ofCandidates set front).text json } before →
      outlet.print before ((Outcome.ofCandidate set candidate).body json) =
        (last, .error cause) →
      StopsAt outlet holds set json front candidate
        { context := if json then some "failed to encode report" else none, cause } last
  /-- All of the line but its end has been printed. -/
  | lineEnd {before last : σ} {cause : ε} :
      holds
        { (Report.ofCandidates set (front ++ [candidate])).account json with
          text := (Report.ofCandidates set front).text json ++
            (Outcome.ofCandidate set candidate).body json } before →
      outlet.print before ['\n'] = (last, .error cause) →
      StopsAt outlet holds set json front candidate { cause } last

section

variable {set : RuleSet} {json : Bool} {front candidates : List Candidate}
variable {candidate : Candidate} {state : σ}

theorem Outlet.Keeps.note (keeps : outlet.Keeps holds)
    (atFirst : holds ((Report.ofCandidates set front).account json) state) :
    let report := Report.ofCandidates set (front ++ [candidate])
    ∃ told, note outlet (Report.ofCandidates set front).totals state
        (Outcome.ofCandidate set candidate) = (report.totals, told) ∧
      holds
        { report.account json with text := (Report.ofCandidates set front).text json } told := by
  intro report
  have account := @Report.account_concat set json front candidate
  simp only [report, Report.totals_concat, account, Check.note]
  cases record : (Outcome.ofCandidate set candidate).record? with
  | none =>
      refine ⟨_, rfl, ?_⟩
      simpa [Report.account] using keeps.tell atFirst
  | some recorded =>
      obtain ⟨source, rejection⟩ := recorded
      refine ⟨_, rfl, ?_⟩
      simpa [Report.account] using keeps.record (keeps.tell atFirst)

/-- What comes of one candidate extends the report on those before it, or the check stops. -/
theorem Outlet.Keeps.leave (keeps : outlet.Keeps holds)
    (atFirst : holds ((Report.ofCandidates set front).account json) state) :
    let totals := (Report.ofCandidates set front).totals
    let outcome := Outcome.ofCandidate set candidate
    (∃ next, leave outlet json totals state outcome =
        (next, .ok (Report.ofCandidates set (front ++ [candidate])).totals) ∧
      holds ((Report.ofCandidates set (front ++ [candidate])).account json) next) ∨
    ∃ fault last, leave outlet json totals state outcome = (last, .error fault) ∧
      StopsAt outlet holds set json front candidate fault last := by
  intro totals outcome
  obtain ⟨told, noted, recorded⟩ :=
    @Outlet.Keeps.note _ _ _ _ set json front candidate state keeps atFirst
  rw [Check.leave, noted]
  dsimp only
  rw [printLine]
  cases body : outlet.print told (outcome.body json) with
  | mk middle answer =>
      cases answer with
      | error cause => exact Or.inr ⟨_, _, rfl, .body recorded body⟩
      | ok _ =>
          have shown := keeps.print recorded body
          dsimp only at shown ⊢
          cases lineEnd : outlet.print middle ['\n'] with
          | mk last answer =>
              cases answer with
              | error cause => exact Or.inr ⟨_, _, rfl, .lineEnd shown lineEnd⟩
              | ok _ =>
                  refine Or.inl ⟨last, rfl, ?_⟩
                  have whole := keeps.print shown lineEnd
                  rw [Report.account_concat] at whole ⊢
                  rwa [List.append_assoc] at whole

/-- A check that goes on behind some candidates ends with the report on all of them, or it
stops at one of the others. -/
theorem Outlet.Keeps.runOn (keeps : outlet.Keeps holds)
    (atFirst : holds ((Report.ofCandidates set front).account json) state) :
    let totals := (Report.ofCandidates set front).totals
    let report := Report.ofCandidates set (front ++ candidates)
    (∃ last, run outlet json set totals state candidates = (last, .ok report.totals) ∧
      holds (report.account json) last) ∨
    ∃ middle candidate later fault last, candidates = middle ++ candidate :: later ∧
      run outlet json set totals state candidates = (last, .error fault) ∧
        StopsAt outlet holds set json (front ++ middle) candidate fault last := by
  induction candidates generalizing front state with
  | nil =>
      left
      rw [List.append_nil]
      exact ⟨state, rfl, atFirst⟩
  | cons candidate later induction =>
      intro totals report
      rcases @Outlet.Keeps.leave _ _ _ _ set json front candidate state keeps atFirst with
        ⟨next, left, holdsNext⟩ | ⟨fault, last, left, stops⟩
      · have behind : front ++ candidate :: later = front ++ [candidate] ++ later := by simp
        have sameRun : run outlet json set totals state (candidate :: later) =
            run outlet json set (Report.ofCandidates set (front ++ [candidate])).totals next
              later := by
          rw [run, left]
        rw [sameRun]
        simp only [report, behind]
        rcases induction holdsNext with whole | ⟨middle, other, rest, fault, last, cut, ran, stops⟩
        · exact Or.inl whole
        · refine Or.inr ⟨candidate :: middle, other, rest, fault, last, ?_, ran, ?_⟩
          · rw [cut, List.cons_append]
          · rwa [List.append_cons]
      · refine Or.inr ⟨[], candidate, later, fault, last, rfl, ?_, ?_⟩
        · rw [run, left]
        · rwa [List.append_nil]

/-- A check of candidates counts them and leaves what the report on them says, or it stops at
one of them. -/
theorem Outlet.Keeps.run (keeps : outlet.Keeps holds) (atFirst : holds {} state) :
    let report := Report.ofCandidates set candidates
    (∃ last, Check.run outlet json set {} state candidates = (last, .ok report.totals) ∧
      holds (report.account json) last) ∨
    ∃ front candidate later fault last, candidates = front ++ candidate :: later ∧
      Check.run outlet json set {} state candidates = (last, .error fault) ∧
        StopsAt outlet holds set json front candidate fault last :=
  @Outlet.Keeps.runOn _ _ _ _ set json [] candidates state keeps atFirst

theorem Outlet.Keeps.run_of_prints {outlet : Outlet σ Empty} (keeps : outlet.Keeps holds)
    (atFirst : holds {} state) :
    let report := Report.ofCandidates set candidates
    ∃ last, Check.run outlet json set {} state candidates = (last, .ok report.totals) ∧
      holds (report.account json) last := by
  rcases @Outlet.Keeps.run _ _ _ _ set json candidates state keeps atFirst with
    whole | ⟨_, _, _, fault, _⟩
  · exact whole
  · exact nomatch fault.cause

/-- The outlet that keeps an account. -/
def Outlet.accounting : Outlet Account Empty where
  tell := fun account event => { account with events := account.events ++ [event] }
  record := fun account source rejection =>
    { account with records := account.records ++ [(source, rejection)] }
  print := fun account text => ({ account with text := account.text ++ text }, .ok ())

/-- The totals, the events, the records and the text of a check are those of its report. -/
theorem run_accounting :
    let report := Report.ofCandidates set candidates
    run .accounting json set {} {} candidates = (report.account json, .ok report.totals) := by
  intro report
  have keeps : Outlet.accounting.Keeps Eq :=
    { tell := by
        rintro account _ event rfl
        rfl
      record := by
        rintro account _ source rejection rfl
        rfl
      print := by
        rintro account _ text next rfl printed
        exact (Prod.mk.inj printed).1 }
  obtain ⟨last, ran, same⟩ :=
    @Outlet.Keeps.run_of_prints _ Eq set json candidates {} .accounting keeps rfl
  rw [ran, same]

end

end Check

end LinkVetting
