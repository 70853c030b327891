import Mathlib.Algebra.GroupWithZero.Nat
import LinkVetting.Proofs.Audit.LiveSession

/-!
# Idle flushes

A session logs entries on its only trail and is idle, in any order, while a sink of
the trail is held.  Its recorder flushes when it has taken nothing for a pause of
500 milliseconds: no entry comes on the file before that unless too many bytes wait,
and after a longer idle period every entry is there.
-/

namespace LinkVetting.Audit

open Files (Disk)

namespace Session

/-! ## Moves of a session -/

/-- What a session can do with its trails. -/
inductive Move where
  | log (name : String) (entry : Entry)
  | clone (name copy : String)
  | drop (name : String)
  | idle (milliseconds : Nat)

def move (session : Session) : Move → Session × List Event
  | .log name entry => session.log name entry
  | .clone name copy => (session.clone name copy, [])
  | .drop name => (session.dropSink name, [])
  | .idle milliseconds => session.idle milliseconds

/-- Moves one after the other. -/
def moveAll (session : Session) : List Move → Session × List Event
  | [] => (session, [])
  | move :: later =>
      let (session, events) := session.move move
      let (session, reports) := moveAll session later
      (session, events ++ reports)

/-- The entry that a move logs, through a sink that is held. -/
def loggedBy (session : Session) : Move → List Entry
  | .log name entry => if (session.sinks.lookup name).isSome then [entry] else []
  | _ => []

/-- The entries that moves log, in order. -/
def logged (session : Session) : List Move → List Entry
  | [] => []
  | move :: later => session.loggedBy move ++ logged (session.move move).1 later

/-- The entries that are taken in a move: the first ones of those that are pending and
that it logs, up to those that are pending then. -/
def takenBy (session : Session) (move : Move) : List Entry :=
  let due := session.pending ++ session.loggedBy move
  due.take (due.length - (session.move move).1.pending.length)

/-- The entries that are taken in moves, with the time.  A recorder takes entries before
time passes. -/
def takings (session : Session) : List Move → List (Nat × Entry)
  | [] => []
  | move :: later =>
      (session.takenBy move).map (session.now, ·) ++ takings (session.move move).1 later

/-- Fewer bytes than a writer may hold back wait in each move. -/
def HasRoom (session : Session) : List Move → Prop
  | [] => True
  | move :: later =>
      (session.heldBack ++ linesOf (session.takenBy move)).length < Writer.capacity ∧
        HasRoom (session.move move).1 later

section

variable {session : Session} {earlier later : List Move}

theorem moveAll_append :
    session.moveAll (earlier ++ later) =
      let middle := session.moveAll earlier
      ((middle.1.moveAll later).1, middle.2 ++ (middle.1.moveAll later).2) := by
  induction earlier generalizing session with
  | nil => rfl
  | cons move earlier induction =>
      simp only [List.cons_append, moveAll, induction, List.append_assoc]

theorem logged_append :
    session.logged (earlier ++ later) =
      session.logged earlier ++ (session.moveAll earlier).1.logged later := by
  induction earlier generalizing session with
  | nil => rfl
  | cons move earlier induction =>
      simp only [List.cons_append, logged, moveAll, induction, List.append_assoc]

end
/-! ## Moves of live sessions -/

section

variable {place : List Files.Name} {previous : List UInt8} {entries : List Entry}
variable {session : Session} {trail : Trail} {name : String} {entry : Entry}

theorem log_of_held (trails : session.trails = [trail])
    (found : session.sinks.lookup name = some 0) :
    session.log name entry =
      let logged : Session := { session with trails := [(trail.log entry).1] }
      if (trail.log entry).1.blocked.isEmpty then (logged, (trail.log entry).2)
      else (logged.turnAll.1, (trail.log entry).2 ++ logged.turnAll.2) := by
  simp only [Session.log, found, trails, List.getElem?_cons_zero, setTrail, List.set_cons_zero]

theorem IsLive.log (live : session.IsLive place previous entries trail) :
    ∃ after taken, GoesOn place previous entries session trail
      (session.loggedBy (.log name entry)) taken (session.log name entry).1 after := by
  cases found : session.sinks.lookup name with
  | none =>
      have nothing : session.loggedBy (.log name entry) = [] := by simp [loggedBy, found]
      have unchanged : session.log name entry = (session, []) := by rw [Session.log, found]
      rw [nothing, unchanged]
      refine ⟨trail, [], ?_, (List.append_nil _).symm, .of_same rfl rfl, Nat.le_refl _⟩
      rwa [List.append_nil]
  | some index =>
      obtain rfl := place_of_lookup live.places found
      have held : session.sinks ≠ [] := fun none => by simp [none] at found
      have one : session.loggedBy (.log name entry) = [entry] := by simp [loggedBy, found]
      rw [one, log_of_held live.trails found]
      obtain ⟨writer, deadline, pending⟩ :=
        @Trail.Keeps.log_pending _ _ _ _ _ entry live.keeps live.running
      obtain ⟨sameState, sameSinks⟩ := @Trail.log_frame trail entry
      have loggedLive : { session with trails := [(trail.log entry).1] }.IsLive place previous
          (entries ++ [entry]) (trail.log entry).1 :=
        { trails := rfl
          running := sameState.trans live.running
          sinks := sameSinks.trans live.sinks
          names := live.names
          places := live.places
          keeps := live.keeps.log live.running
          notOver := deadline ▸ live.notOver
          overSoon := deadline ▸ live.overSoon }
      simp only
      split
      · exact ⟨_, [], loggedLive, pending, .of_same writer deadline, Nat.le_refl _⟩
      · obtain ⟨turned, goesOn, nothing, _, sameTime, _⟩ :=
          loggedLive.turnAll held
        refine ⟨turned, (trail.log entry).1.pending, ?_, ?_, ?_, goesOn.ordered⟩
        · simpa using goesOn.live
        · rw [nothing, List.append_nil, pending]
        · exact goesOn.passes.of_frame writer deadline

theorem IsLive.move {move : Move} (live : session.IsLive place previous entries trail)
    (held : session.sinks ≠ []) :
    ∃ after, GoesOn place previous entries session trail (session.loggedBy move)
      (session.takenBy move) (session.move move).1 after := by
  have moved : ∃ after taken, GoesOn place previous entries session trail
      (session.loggedBy move) taken (session.move move).1 after := by
    cases move with
    | log name entry => exact live.log
    | clone name copy =>
        obtain ⟨after, goesOn⟩ := @IsLive.clone _ _ _ _ _ name copy live
        exact ⟨after, [], goesOn⟩
    | drop name =>
        obtain ⟨after, goesOn⟩ := @IsLive.dropSink _ _ _ _ _ name live
        exact ⟨after, [], goesOn⟩
    | idle milliseconds =>
        obtain ⟨after, goesOn, _, _⟩ := @IsLive.idle _ _ _ _ _ milliseconds live held
        exact ⟨after, trail.pending, goesOn⟩
  obtain ⟨after, taken, goesOn⟩ := moved
  have same : session.takenBy move = taken := by
    have accounted := goesOn.accounted
    rw [takenBy, live.pending_eq, goesOn.live.pending_eq, ← accounted]
    simp
  exact ⟨after, same ▸ goesOn⟩

end

/-! ## Sinks that stay held -/

section

variable {session : Session} {moves : List Move} {move : Move}

theorem sinks_turns {indices : List Nat} : (session.turns indices).1.sinks = session.sinks := by
  induction indices generalizing session with
  | nil => rfl
  | cons index indices induction =>
      have same : (session.turnOf index).1.sinks = session.sinks := by
        rw [turnOf]
        split <;> rfl
      rw [turns]
      exact induction.trans same

theorem sinks_pauses {target fuel : Nat} :
    (session.pauses target fuel).1.sinks = session.sinks := by
  induction fuel generalizing session with
  | zero => rfl
  | succ fuel induction =>
      rw [pauses]
      split
      · rfl
      · exact induction

theorem sinks_idle {milliseconds : Nat} :
    (session.idle milliseconds).1.sinks = session.sinks := by
  rw [idle]
  exact sinks_pauses.trans sinks_turns

/-- Once no sink is held none comes again. -/
theorem held_of_held_move (held : (session.move move).1.sinks ≠ []) : session.sinks ≠ [] := by
  intro none
  cases move with
  | log name entry => simp [Session.move, Session.log, none] at held
  | clone name copy => simp [Session.move, Session.clone, none] at held
  | drop name => simp [Session.move, Session.dropSink, none] at held
  | idle milliseconds => exact held (sinks_idle.trans none)

theorem held_of_held (held : (session.moveAll moves).1.sinks ≠ []) : session.sinks ≠ [] := by
  induction moves generalizing session with
  | nil => exact held
  | cons move moves induction => exact held_of_held_move (induction held)

end

/-! ## Runs of live sessions -/

section

variable {place : List Files.Name} {previous : List UInt8} {entries : List Entry}
variable {session : Session} {trail : Trail} {moves : List Move}

/-- A live session stays live while a sink is held.  Its recorder takes the entries in
the order in which they are logged. -/
theorem IsLive.moveAll (live : session.IsLive place previous entries trail)
    (held : (session.moveAll moves).1.sinks ≠ []) :
    ∃ after, (session.moveAll moves).1.IsLive place previous
        (entries ++ session.logged moves) after ∧
      (session.takings moves).map Prod.snd ++ after.pending =
        trail.pending ++ session.logged moves ∧
      ∀ takings, session.HasRoom moves → trail.HoldsYoung takings session.now →
        after.HoldsYoung (takings ++ session.takings moves) (session.moveAll moves).1.now := by
  induction moves generalizing session trail entries with
  | nil =>
      refine ⟨trail, by simpa [Session.moveAll, logged] using live,
        by simp [takings, logged], ?_⟩
      intro takings _ holds
      simpa [Session.moveAll, Session.takings] using holds
  | cons move moves induction =>
      obtain ⟨between, goesOn⟩ := @IsLive.move _ _ _ _ _ move live (held_of_held held)
      obtain ⟨after, stillLive, accounted, young⟩ := induction goesOn.live held
      refine ⟨after, ?_, ?_, ?_⟩
      · simpa [Session.moveAll, logged] using stillLive
      · have first := goesOn.accounted
        simp only [takings, logged, List.map_append, List.map_map, List.append_assoc]
        rw [accounted, ← List.append_assoc, ← List.append_assoc, ← first]
        congr 2
        exact List.map_id _
      · intro takings room holds
        have holdsThen :=
          holds.passes goesOn.passes goesOn.ordered (live.heldBack_eq ▸ room.1)
        rw [Session.takings, ← List.append_assoc]
        exact young _ room.2 holdsThen

theorem IsLive.idle_sum {durations : List Nat}
    (live : session.IsLive place previous entries trail) (held : session.sinks ≠ [])
    (several : durations ≠ []) :
    session.moveAll (durations.map .idle) = session.idle durations.sum := by
  induction durations generalizing session trail entries with
  | nil => exact absurd rfl several
  | cons first others induction =>
      cases others with
      | nil => simp [Session.moveAll, Session.move]
      | cons second others =>
          obtain ⟨between, goesOn, _⟩ := @IsLive.idle _ _ _ _ _ first live held
          have stillHeld : (session.idle first).1.sinks ≠ [] := sinks_idle.symm ▸ held
          have rest := induction goesOn.live stillHeld (List.cons_ne_nil second others)
          rw [List.sum_cons, live.idle_add held, List.map_cons, Session.moveAll]
          simp only [Session.move, rest]

/-- After an idle period that is longer than a pause nothing is pending or held back. -/
theorem IsLive.nothing_of_idle {earlier : List Move} {milliseconds : Nat}
    (live : session.IsLive place previous entries trail)
    (held : (session.moveAll (earlier ++ [.idle milliseconds])).1.sinks ≠ [])
    (long : Trail.pauseLength < milliseconds) :
    let after := (session.moveAll (earlier ++ [.idle milliseconds])).1
    after.heldBack = [] ∧ after.pending = [] := by
  intro after
  have moved : after = ((session.moveAll earlier).1.idle milliseconds).1 := by
    simp [after, moveAll_append, Session.moveAll, Session.move]
  have stillHeld : (session.moveAll earlier).1.sinks ≠ [] := by
    rw [← @sinks_idle _ milliseconds, ← moved]
    exact held
  obtain ⟨middle, middleLive, _⟩ := live.moveAll stillHeld
  obtain ⟨rested, goesOn, nothing, flushed⟩ :=
    @IsLive.idle _ _ _ _ _ milliseconds middleLive stillHeld
  rw [← moved] at goesOn
  exact ⟨goesOn.live.heldBack_eq.trans (flushed long), goesOn.live.pending_eq.trans nothing⟩

/-- While few bytes wait, entries that were taken less than a pause ago are held back. -/
theorem IsLive.young_of_room {earlier later : List Move}
    (live : session.IsLive place previous entries trail)
    (held : (session.moveAll (earlier ++ later)).1.sinks ≠ []) :
    let middle := (session.moveAll earlier).1
    let after := (session.moveAll (earlier ++ later)).1
    middle.HasRoom later →
      ∃ kept waiting, middle.takings later = kept ++ waiting ∧
        linesOf (waiting.map Prod.snd) <:+ after.heldBack ∧
          ∀ taken ∈ kept, taken.1 + Trail.pauseLength ≤ after.now := by
  intro middle after room
  have cut : after = (middle.moveAll later).1 := by simp [after, middle, moveAll_append]
  have laterHeld : (middle.moveAll later).1.sinks ≠ [] := cut ▸ held
  obtain ⟨between, middleLive, _⟩ := live.moveAll (held_of_held laterHeld)
  obtain ⟨last, lastLive, _, young⟩ := middleLive.moveAll laterHeld
  obtain ⟨kept, waiting, split, lines, old, _⟩ := young [] room
    ⟨[], [], rfl, List.nil_suffix, by simp, by simp⟩
  rw [← lastLive.heldBack_eq] at lines
  exact ⟨kept, waiting, split, cut ▸ lines, cut ▸ old⟩

theorem IsLive.moveAll_split {earlier later : List Move} {durations : List Nat}
    (live : session.IsLive place previous entries trail)
    (held : (session.moveAll earlier).1.sinks ≠ []) (several : durations ≠ []) :
    session.moveAll (earlier ++ durations.map .idle ++ later) =
      session.moveAll (earlier ++ .idle durations.sum :: later) := by
  obtain ⟨middle, middleLive, _⟩ := live.moveAll held
  have same : (session.moveAll earlier).1.moveAll (durations.map .idle ++ later) =
      (session.moveAll earlier).1.moveAll (.idle durations.sum :: later) := by
    rw [moveAll_append, middleLive.idle_sum held several]
    rfl
  rw [List.append_assoc, moveAll_append, @moveAll_append _ earlier (.idle _ :: later)]
  simp only [same]

end

section

variable {disk opened : Disk} {path : Files.Path} {name : String} {writer : Writer}
variable {now : Nat} {session : Session} {events : List Event} {moves : List Move}

theorem isLive_of_start (answer : Writer.openOn disk path = (opened, .ok writer))
    (regular : ∃ content, opened.root.get? writer.place = some (.file content))
    (started : ({ disk, now } : Session).start name path = (session, .ok events)) :
    ∃ trail, session.IsLive writer.place (disk.contentAt writer.place) [] trail ∧
      trail.pending = [] := by
  obtain ⟨written, nothingWaits⟩ := Writer.hasWritten_of_openOn answer regular
  simp only [start, Trail.start, answer, dropSink, List.lookup_nil] at started
  cases started
  refine ⟨{ writer, deadline := now + Trail.pauseLength }, ?_, rfl⟩
  exact
    { trails := rfl
      running := rfl
      sinks := rfl
      names := by simp
      places := fun sink member => by rw [List.mem_singleton.mp member]; rfl
      keeps :=
        { place := rfl
          recorded := ⟨[], by simpa using written, rfl⟩
          clean := fun _ => nothingWaits
          bounded := Nat.zero_le _
          full := fun waits => absurd rfl waits }
      notOver := Nat.le_add_right _ _
      overSoon := Nat.le_refl _ }

/-- While a sink is held, the file and what is held back are the lines of all entries that
have been taken, and those are all that have been logged up to the ones pending.  After
an idle period that is longer than a pause all of them are on the file.  Entries taken
less than a pause ago are not, as long as few bytes wait.  An idle period can be split
into shorter ones. -/
theorem file_of_idle (answer : Writer.openOn disk path = (opened, .ok writer))
    (regular : ∃ content, opened.root.get? writer.place = some (.file content))
    (started : ({ disk, now } : Session).start name path = (session, .ok events))
    (held : (session.moveAll moves).1.sinks ≠ []) :
    let previous := disk.contentAt writer.place
    let after := (session.moveAll moves).1
    (∃ content, after.disk.root.get? writer.place = some (.file content) ∧
        content ++ after.heldBack =
          previous ++ linesOf ((session.takings moves).map Prod.snd)) ∧
      (session.takings moves).map Prod.snd ++ after.pending = session.logged moves ∧
      (∀ earlier milliseconds, moves = earlier ++ [.idle milliseconds] →
        Trail.pauseLength < milliseconds →
          after.disk.root.get? writer.place =
              some (.file (previous ++ linesOf (session.logged moves))) ∧
            after.heldBack = [] ∧ after.pending = []) ∧
      (∀ earlier later, moves = earlier ++ later →
        let middle := (session.moveAll earlier).1
        middle.HasRoom later →
          ∃ kept waiting, middle.takings later = kept ++ waiting ∧
            linesOf (waiting.map Prod.snd) <:+ after.heldBack ∧
              ∀ taken ∈ kept, taken.1 + Trail.pauseLength ≤ after.now) ∧
      ∀ earlier milliseconds later durations,
        moves = earlier ++ .idle milliseconds :: later → durations ≠ [] →
          durations.sum = milliseconds →
            session.moveAll (earlier ++ durations.map .idle ++ later) =
              session.moveAll moves := by
  intro previous after
  obtain ⟨trail, live, nothing⟩ := isLive_of_start answer regular started
  obtain ⟨last, lastLive, accounted, _⟩ := live.moveAll held
  rw [nothing, List.nil_append] at accounted
  have lastFile := lastLive.file accounted
  rw [← lastLive.pending_eq] at accounted
  refine ⟨lastFile, accounted, ?_, ?_, ?_⟩
  · rintro earlier milliseconds rfl long
    obtain ⟨content, file, together⟩ := lastFile
    obtain ⟨noneHeld, nonePending⟩ := live.nothing_of_idle held long
    rw [nonePending, List.append_nil] at accounted
    rw [noneHeld, List.append_nil, accounted] at together
    exact ⟨together ▸ file, noneHeld, nonePending⟩
  · rintro earlier later rfl
    exact live.young_of_room held
  · rintro earlier milliseconds later durations rfl several rfl
    rw [moveAll_append] at held
    exact live.moveAll_split (held_of_held held) several

theorem file_of_idle_two_entries :
    let disk : Disk := ⟨.directory [([0x61], .file [0x78, 0x0A])], []⟩
    let writer : Writer := { path := ⟨[0x61]⟩, place := [[0x61]] }
    let started := Usage.plainEntry .processStarted
    let stopped := Usage.plainEntry .processStopped
    let moves := [.log "a" started, .idle 300, .clone "a" "b", .drop "a", .log "b" stopped,
      .idle 600]
    Writer.openOn disk ⟨[0x61]⟩ = (disk, .ok writer) ∧
      ∃ session events, ({ disk, now := 7 } : Session).start "a" ⟨[0x61]⟩ = (session, .ok events) ∧
        (session.moveAll moves).1.sinks ≠ [] ∧ session.HasRoom moves ∧
          (session.moveAll moves).1.disk.root.get? [[0x61]] =
            some (.file ([0x78, 0x0A] ++ linesOf [started, stopped])) := by
  intro disk writer started stopped moves
  have opens : Writer.openOn disk ⟨[0x61]⟩ = (disk, .ok writer) := rfl
  let session : Session := ⟨disk, 7, [{ writer, deadline := 507 }], [("a", 0)]⟩
  have begun : ({ disk, now := 7 } : Session).start "a" ⟨[0x61]⟩ =
      (session, .ok [.trailOpened ⟨[0x61]⟩]) := rfl
  have held : (session.moveAll moves).1.sinks ≠ [] := by decide +kernel
  have room : session.HasRoom moves :=
    ⟨by decide +kernel, by decide +kernel, by decide +kernel, by decide +kernel,
      by decide +kernel, by decide +kernel, trivial⟩
  let earlier : List Move := [.log "a" started, .idle 300, .clone "a" "b", .drop "a"]
  have copied : (session.moveAll earlier).1.sinks = [("b", 0)] := by decide +kernel
  have cut : moves = earlier ++ [.log "b" stopped, .idle 600] := rfl
  have logged : session.logged moves = [started, stopped] := by
    rw [cut, logged_append]
    simp [Session.logged, loggedBy, copied, session, earlier]
  have previous : disk.contentAt writer.place = [0x78, 0x0A] := rfl
  obtain ⟨_, _, flushed, _⟩ := file_of_idle opens ⟨[0x78, 0x0A], rfl⟩ begun held
  obtain ⟨file, _⟩ := flushed (earlier ++ [.log "b" stopped]) 600 rfl (by decide)
  rw [logged, previous] at file
  exact ⟨opens, session, _, begun, held, room, file⟩

end

end Session

end LinkVetting.Audit
