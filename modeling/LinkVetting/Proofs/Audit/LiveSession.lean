import LinkVetting.Audit.Session
import LinkVetting.Proofs.Audit.Resting

/-!
# Live sessions

A session that uses one trail on a regular file is live while the trail is at work
and the session holds all its sinks.  Sinks come and go, and idle periods give the
recorder a turn and let it rest; they can be split.
-/

namespace LinkVetting.Audit

open Files (Disk)

namespace Session

/-- The entries that no recorder has taken. -/
def pending (session : Session) : List Entry := session.trails.flatMap Trail.pending

/-- The bytes that are held back. -/
def heldBack (session : Session) : List UInt8 := session.trails.flatMap (·.writer.waiting)

/-! ## Sinks -/

section

variable {session : Session} {trail : Trail} {name copy : String}

/-- Among sinks of different names one is given up by the name of a held one. -/
theorem length_others {sinks : List (String × Nat)} {index : Nat}
    (names : (sinks.map Prod.fst).Nodup) (found : sinks.lookup name = some index) :
    (sinks.filter (·.1 != name)).length + 1 = sinks.length := by
  induction sinks with
  | nil => cases found
  | cons sink sinks induction =>
      rw [List.map_cons, List.nodup_cons] at names
      by_cases same : sink.1 = name
      · have all : sinks.filter (·.1 != name) = sinks := by
          refine List.filter_eq_self.mpr fun other member => ?_
          rw [bne_iff_ne]
          intro otherSame
          exact names.1 (List.mem_map.mpr ⟨other, member, otherSame.trans same.symm⟩)
        simp [same, all]
      · have notFirst : (name == sink.1) = false := by simpa using Ne.symm same
        rw [List.lookup_cons, notFirst] at found
        simp [same, induction names.2 found]

theorem names_others {sinks : List (String × Nat)} (names : (sinks.map Prod.fst).Nodup) :
    ((sinks.filter (·.1 != name)).map Prod.fst).Nodup :=
  names.sublist (List.filter_sublist.map _)

theorem names_copied {sinks : List (String × Nat)} {place : Nat}
    (names : (sinks.map Prod.fst).Nodup) :
    (((copy, place) :: sinks.filter (·.1 != copy)).map Prod.fst).Nodup := by
  rw [List.map_cons, List.nodup_cons]
  refine ⟨fun member => ?_, names_others names⟩
  obtain ⟨sink, sinkMember, same⟩ := List.mem_map.mp member
  simpa [same] using (List.mem_filter.mp sinkMember).2

theorem places_others {sinks : List (String × Nat)} (places : ∀ sink ∈ sinks, sink.2 = 0) :
    ∀ sink ∈ sinks.filter (·.1 != name), sink.2 = 0 :=
  fun sink member => places sink (List.mem_filter.mp member).1

theorem places_copied {sinks : List (String × Nat)} (places : ∀ sink ∈ sinks, sink.2 = 0) :
    ∀ sink ∈ (copy, 0) :: sinks.filter (·.1 != copy), sink.2 = 0 :=
  List.forall_mem_cons.mpr ⟨rfl, places_others places⟩

theorem place_of_lookup {sinks : List (String × Nat)} {index : Nat}
    (places : ∀ sink ∈ sinks, sink.2 = 0) (found : sinks.lookup name = some index) :
    index = 0 := by
  obtain ⟨before, after, cut, _⟩ := List.lookup_eq_some_iff.mp found
  exact places (name, index) (by simp [cut])

theorem dropSink_cases (trails : session.trails = [trail])
    (names : (session.sinks.map Prod.fst).Nodup) (places : ∀ sink ∈ session.sinks, sink.2 = 0) :
    session.dropSink name = session ∧ session.sinks.filter (·.1 != name) = session.sinks ∨
      session.dropSink name =
          { session with
            trails := [trail.dropSink]
            sinks := session.sinks.filter (·.1 != name) } ∧
        (session.sinks.filter (·.1 != name)).length + 1 = session.sinks.length := by
  cases found : session.sinks.lookup name with
  | none =>
      refine Or.inl ⟨by rw [dropSink, found], List.filter_eq_self.mpr ?_⟩
      intro sink member
      rw [bne_comm]
      exact List.lookup_eq_none_iff.mp found sink member
  | some index =>
      obtain rfl := place_of_lookup places found
      refine Or.inr ⟨?_, length_others names found⟩
      rw [dropSink, found, trails]
      rfl

theorem dropSink_of_only (trails : session.trails = [trail])
    (names : (session.sinks.map Prod.fst).Nodup) (places : ∀ sink ∈ session.sinks, sink.2 = 0) :
    let others := session.sinks.filter (·.1 != name)
    session.dropSink name =
      { session with
        trails := [{ trail with sinks := trail.sinks - (session.sinks.length - others.length) }]
        sinks := others } := by
  intro others
  rcases @dropSink_cases session trail name trails names places with
    ⟨unchanged, all⟩ | ⟨dropped, fewer⟩
  · have same : others = session.sinks := all
    rw [unchanged, same, Nat.sub_self, Nat.sub_zero, ← trails]
  · have one : session.sinks.length - others.length = 1 :=
      Nat.sub_eq_of_eq_add (fewer.symm.trans (Nat.add_comm _ _))
    rw [dropped, one]
    rfl

end

/-! ## Live sessions -/

/-- A session has one trail, at work on a regular file, and holds its sinks.  The pause
of the recorder is not over yet. -/
structure IsLive (place : List Files.Name) (previous : List UInt8) (logged : List Entry)
    (session : Session) (trail : Trail) : Prop where
  trails : session.trails = [trail]
  running : trail.state = .running
  sinks : trail.sinks = session.sinks.length
  names : (session.sinks.map Prod.fst).Nodup
  places : ∀ sink ∈ session.sinks, sink.2 = 0
  keeps : trail.Keeps place previous logged session.disk
  notOver : session.now ≤ trail.deadline
  overSoon : trail.deadline ≤ session.now + Trail.pauseLength

/-- A live session has gone on to another one while it has logged some entries and its
recorder has taken some. -/
structure GoesOn (place : List Files.Name) (previous : List UInt8) (logged : List Entry)
    (session : Session) (trail : Trail) (entries taken : List Entry) (next : Session)
    (after : Trail) : Prop where
  live : next.IsLive place previous (logged ++ entries) after
  accounted : taken ++ after.pending = trail.pending ++ entries
  passes : trail.Passes session.now next.now taken after
  ordered : session.now ≤ next.now

section

variable {place : List Files.Name} {previous : List UInt8} {entries : List Entry}
variable {session : Session} {trail : Trail} {name copy : String} {entry : Entry}

theorem IsLive.of_sinks {sinks : List (String × Nat)}
    (live : session.IsLive place previous entries trail)
    (names : (sinks.map Prod.fst).Nodup) (places : ∀ sink ∈ sinks, sink.2 = 0) :
    GoesOn place previous entries session trail [] []
      { session with trails := [{ trail with sinks := sinks.length }], sinks }
      { trail with sinks := sinks.length } :=
  { live :=
      { trails := rfl
        running := live.running
        sinks := rfl
        names := names
        places := places
        keeps := by
          obtain ⟨samePlace, recorded, clean, bounded, full⟩ := live.keeps
          rw [List.append_nil]
          exact ⟨samePlace, recorded, clean, bounded, full⟩
        notOver := live.notOver
        overSoon := live.overSoon }
    accounted := (List.append_nil _).symm
    passes := .of_same rfl rfl
    ordered := Nat.le_refl _ }

theorem IsLive.dropSink (live : session.IsLive place previous entries trail) :
    ∃ after, GoesOn place previous entries session trail [] [] (session.dropSink name) after := by
  rw [dropSink_of_only live.trails live.names live.places]
  have fewer : (session.sinks.filter (·.1 != name)).length ≤ session.sinks.length :=
    List.length_filter_le _ _
  have count : trail.sinks -
      (session.sinks.length - (session.sinks.filter (·.1 != name)).length) =
        (session.sinks.filter (·.1 != name)).length := by
    rw [live.sinks]
    omega
  rw [count]
  exact ⟨_, live.of_sinks (names_others live.names) (places_others live.places)⟩

theorem IsLive.clone (live : session.IsLive place previous entries trail) :
    ∃ after, GoesOn place previous entries session trail [] [] (session.clone name copy)
      after := by
  cases found : session.sinks.lookup name with
  | none =>
      have unchanged : session.clone name copy = session := by rw [Session.clone, found]
      rw [unchanged]
      refine ⟨trail, ?_, (List.append_nil _).symm, .of_same rfl rfl, Nat.le_refl _⟩
      rwa [List.append_nil]
  | some index =>
      obtain rfl := place_of_lookup live.places found
      have dropped := @dropSink_of_only { session with trails := [trail.addSink] }
        trail.addSink copy rfl live.names live.places
      simp only at dropped
      have fewer : (session.sinks.filter (·.1 != copy)).length ≤ session.sinks.length :=
        List.length_filter_le _ _
      have cloned : session.clone name copy =
          { session with
            trails := [{ trail with
              sinks := ((copy, 0) :: session.sinks.filter (·.1 != copy)).length }]
            sinks := (copy, 0) :: session.sinks.filter (·.1 != copy) } := by
        have count : trail.addSink.sinks -
            (session.sinks.length - (session.sinks.filter (·.1 != copy)).length) =
              ((copy, 0) :: session.sinks.filter (·.1 != copy)).length := by
          change trail.sinks + 1 - _ = _
          rw [live.sinks, List.length_cons]
          omega
        rw [count] at dropped
        simp only [Session.clone, found, live.trails, List.modify_zero_cons, dropped]
        rfl
      rw [cloned]
      exact ⟨_, live.of_sinks (names_copied live.names) (places_copied live.places)⟩

/-! ## Turns and rests of live sessions -/

theorem turnAll_of_only (trails : session.trails = [trail]) :
    session.turnAll =
      let turned := trail.turn session.disk session.now
      ({ session with disk := turned.2.1, trails := [turned.1] }, turned.2.2) := by
  simp [turnAll, turns, turnOf, setTrail, trails]

theorem pauses_of_restsUntil {next : Trail} {disk later : Disk} {events : List Event}
    {target fuel : Nat} (rests : trail.RestsUntil target disk next later events)
    (running : trail.state = .running)
    (enough : target ≤ trail.deadline + fuel * Trail.pauseLength) :
    { session with disk, trails := [trail] }.pauses target fuel =
      ({ session with disk := later, trails := [next] }, events) := by
  induction rests generalizing fuel with
  | @reached trail disk early =>
      cases fuel with
      | zero => rfl
      | succ fuel =>
          have noPause : { session with disk, trails := [trail] }.nextPause? target = none := by
            simp [nextPause?, running, Nat.not_lt.mpr early]
          rw [pauses, noPause]
  | @pause trail middle next disk middleDisk later events reports elapsed paused _ induction =>
      obtain ⟨sameState, _, _, deadline⟩ := Trail.pause_frame paused
      cases fuel with
      | zero => omega
      | succ fuel =>
          have found : { session with disk, trails := [trail] }.nextPause? target =
              some (0, trail) := by
            simp [nextPause?, running, elapsed]
          have laterPauses := @induction fuel (sameState.trans running)
            (by rw [deadline]; simp only [Trail.pauseLength] at enough ⊢; omega)
          rw [pauses, found]
          simp only [paused, setTrail, List.set_cons_zero, laterPauses]

theorem IsLive.pending_eq (live : session.IsLive place previous entries trail) :
    session.pending = trail.pending := by
  simp [Session.pending, live.trails]

theorem IsLive.heldBack_eq (live : session.IsLive place previous entries trail) :
    session.heldBack = trail.writer.waiting := by
  simp [Session.heldBack, live.trails]

/-- The file and what is held back are the lines of the entries that have been taken. -/
theorem IsLive.file {taken : List Entry} (live : session.IsLive place previous entries trail)
    (accounted : taken ++ trail.pending = entries) :
    ∃ content, session.disk.root.get? place = some (.file content) ∧
      content ++ session.heldBack = previous ++ linesOf taken := by
  obtain ⟨samePlace, ⟨others, ⟨⟨content, file, together⟩, _⟩, all⟩, _⟩ := live.keeps
  have same : others = taken := List.append_cancel_right (all.trans accounted.symm)
  refine ⟨content, samePlace ▸ file, ?_⟩
  rw [live.heldBack_eq, together, same, linesOf_eq]

theorem IsLive.shared (live : session.IsLive place previous entries trail)
    (held : session.sinks ≠ []) : trail.sinks ≠ 0 := by
  rw [live.sinks]
  exact fun none => held (List.length_eq_zero_iff.mp none)

theorem IsLive.turnAll (live : session.IsLive place previous entries trail)
    (held : session.sinks ≠ []) :
    ∃ turned, GoesOn place previous entries session trail [] trail.pending session.turnAll.1
        turned ∧
      turned.pending = [] ∧ session.turnAll.2 = [] ∧
        session.turnAll.1.now = session.now ∧ session.turnAll.1.sinks = session.sinks := by
  obtain ⟨turned, later, answer, keeps, sameState, sameSinks, nothing, unchanged, begun,
    together⟩ := @Trail.Keeps.turn_of_sink _ _ _ _ _ session.now live.keeps live.running
      (live.shared held)
  have notOver := live.notOver
  have overSoon := live.overSoon
  have deadlines : trail.deadline ≤ turned.deadline ∧
      turned.deadline ≤ session.now + Trail.pauseLength := by
    by_cases noPending : trail.pending = []
    · rw [(unchanged noPending).1]
      exact ⟨Nat.le_refl _, overSoon⟩
    · rw [begun noPending]
      exact ⟨overSoon, Nat.le_refl _⟩
  rw [turnAll_of_only live.trails, answer]
  refine ⟨turned, ?_, nothing, rfl, rfl, rfl⟩
  exact
    { live :=
        { trails := rfl
          running := sameState.trans live.running
          sinks := sameSinks.trans live.sinks
          names := live.names
          places := live.places
          keeps := by rwa [List.append_nil]
          notOver := Nat.le_trans notOver deadlines.1
          overSoon := deadlines.2 }
      accounted := by rw [nothing]
      passes := .held together deadlines.1 fun something => Nat.le_of_eq (begun something).symm
      ordered := Nat.le_refl _ }

theorem IsLive.turnAll_of_nothing (live : session.IsLive place previous entries trail)
    (held : session.sinks ≠ []) (nothing : trail.pending = []) :
    session.turnAll = (session, []) := by
  obtain ⟨turned, later, answer, _, _, _, _, unchanged, _⟩ :=
    @Trail.Keeps.turn_of_sink _ _ _ _ _ session.now live.keeps live.running (live.shared held)
  obtain ⟨rfl, rfl⟩ := unchanged nothing
  simp only [turnAll_of_only live.trails, answer, ← live.trails]

theorem IsLive.idle_of_restsUntil {milliseconds : Nat} {after : Trail} {later : Disk}
    {events : List Event} (live : session.IsLive place previous entries trail)
    (held : session.sinks ≠ []) (nothing : trail.pending = [])
    (rests : trail.RestsUntil (session.now + milliseconds) session.disk after later events) :
    session.idle milliseconds =
      ({ session with disk := later, now := session.now + milliseconds, trails := [after] },
        events) := by
  have notOver := live.notOver
  have enough : session.now + milliseconds ≤
      trail.deadline + 1 * (milliseconds / Trail.pauseLength + 2) * Trail.pauseLength := by
    have whole := Nat.div_add_mod milliseconds Trail.pauseLength
    have part := Nat.mod_lt milliseconds (show Trail.pauseLength > 0 by decide)
    simp only [Trail.pauseLength] at *
    omega
  have paused := @pauses_of_restsUntil session _ _ _ _ _ _ _ rests live.running enough
  rw [← live.trails] at paused
  simp only [Session.idle, live.turnAll_of_nothing held nothing, live.trails,
    List.length_singleton, paused, List.nil_append]

/-- An idle session first gives its recorder a turn. -/
theorem IsLive.idle_turnAll {milliseconds : Nat}
    (live : session.IsLive place previous entries trail) (held : session.sinks ≠ []) :
    session.idle milliseconds = session.turnAll.1.idle milliseconds := by
  obtain ⟨turned, goesOn, nothing, noEvents, _, sameSinks⟩ := live.turnAll held
  have settled := goesOn.live.turnAll_of_nothing (sameSinks ▸ held) nothing
  cases answer : session.turnAll with
  | mk next events =>
      rw [answer] at settled noEvents
      cases noEvents
      simp only [Session.idle, answer, settled]

theorem IsLive.rest {later : Nat} {after : Trail} {disk : Disk} {events : List Event}
    (live : session.IsLive place previous entries trail) (nothing : trail.pending = [])
    (ordered : session.now ≤ later)
    (rests : trail.RestsUntil later session.disk after disk events) :
    GoesOn place previous entries session trail [] []
        { session with disk, now := later, trails := [after] } after ∧
      after.pending = [] := by
  have overSoon := live.overSoon
  obtain ⟨sameState, sameSinks, samePending⟩ := rests.frame
  obtain ⟨notOver, nextSoon⟩ := rests.deadline (by omega)
  obtain ⟨keeps, _⟩ := live.keeps.rest rests
  refine ⟨?_, samePending.trans nothing⟩
  exact
    { live :=
        { trails := rfl
          running := sameState.trans live.running
          sinks := sameSinks.trans live.sinks
          names := live.names
          places := live.places
          keeps := by rwa [List.append_nil]
          notOver := notOver
          overSoon := nextSoon }
      accounted := by rw [samePending, List.nil_append, List.append_nil]
      passes := live.keeps.passes_rest rests
      ordered := ordered }

/-- While a session is idle all that is pending is taken, and once the pause after it is
over nothing is held back. -/
theorem IsLive.idle {milliseconds : Nat} (live : session.IsLive place previous entries trail)
    (held : session.sinks ≠ []) :
    ∃ after, GoesOn place previous entries session trail [] trail.pending
        (session.idle milliseconds).1 after ∧
      after.pending = [] ∧
        (Trail.pauseLength < milliseconds → after.writer.waiting = []) := by
  obtain ⟨turned, turns, nothing, _, sameTime, sameSinks⟩ := live.turnAll held
  obtain ⟨after, later, events, rests⟩ := @Trail.exists_restsUntil turned
    session.turnAll.1.disk (session.turnAll.1.now + milliseconds)
  obtain ⟨rested, stillNothing⟩ := turns.live.rest nothing (Nat.le_add_right _ _) rests
  obtain ⟨_, flushed⟩ := turns.live.keeps.rest rests
  have overSoon := turns.live.overSoon
  rw [live.idle_turnAll held,
    turns.live.idle_of_restsUntil (sameSinks ▸ held) nothing rests]
  refine ⟨after, ?_, stillNothing, fun long => flushed (Or.inl (by omega))⟩
  exact
    { live := by simpa using rested.live
      accounted := by rw [stillNothing]
      passes := turns.passes.trans rested.passes rested.ordered
      ordered := Nat.le_trans turns.ordered rested.ordered }

/-- An idle period can be split into two. -/
theorem IsLive.idle_add {first second : Nat}
    (live : session.IsLive place previous entries trail) (held : session.sinks ≠ []) :
    session.idle (first + second) =
      let middle := session.idle first
      ((middle.1.idle second).1, middle.2 ++ (middle.1.idle second).2) := by
  obtain ⟨turned, turns, nothing, _, _, sameSinks⟩ := live.turnAll held
  have stillHeld : session.turnAll.1.sinks ≠ [] := sameSinks ▸ held
  obtain ⟨between, disk, events, rests⟩ := @Trail.exists_restsUntil turned
    session.turnAll.1.disk (session.turnAll.1.now + first)
  obtain ⟨rested, stillNothing⟩ := turns.live.rest nothing (Nat.le_add_right _ _) rests
  obtain ⟨after, later, reports, restsOn⟩ := @Trail.exists_restsUntil between disk
    (session.turnAll.1.now + first + second)
  have whole := rests.trans restsOn (Nat.le_add_right _ _)
  rw [Nat.add_assoc] at whole
  rw [live.idle_turnAll held, live.idle_turnAll held,
    turns.live.idle_of_restsUntil stillHeld nothing rests,
    turns.live.idle_of_restsUntil stillHeld nothing whole]
  simp only [rested.live.idle_of_restsUntil stillHeld stillNothing restsOn, Nat.add_assoc]

end

end Session

end LinkVetting.Audit
