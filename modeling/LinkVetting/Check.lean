import LinkVetting.Report

/-!
# Checks

A check goes through candidates one by one. It counts each of them, tells what came of it, records
it if it was rejected, and shows its line. Where a line cannot be shown the check stops, and what it
has counted so far is not answered.

Whom it tells, where it records and on what it shows the lines is left open.
-/

namespace LinkVetting

namespace Check

/-- Where a check leaves its results, on a state of some kind. -/
structure Outlet (σ ε : Type) where
  tell : σ → Event → σ
  record : σ → Audit.Source → Audit.Rejection → σ
  print : σ → List Char → σ × Except ε Unit

/-- Why a check stopped. -/
structure Fault (ε : Type) where
  /-- What the check was about when it could not print, if that is told. -/
  context : Option String := none
  cause : ε

structure Totals where
  checked : Nat := 0
  rejected : Nat := 0
  deriving DecidableEq, Repr

section

variable {σ ε : Type} (outlet : Outlet σ ε) (json : Bool)

/-- Prints the line of an outcome, its end behind the rest. -/
def printLine (state : σ) (outcome : Outcome) : σ × Except (Fault ε) Unit :=
  match outlet.print state (outcome.body json) with
  | (state, .error cause) =>
    (state, .error { context := if json then some "failed to encode report" else none, cause })
  | (state, .ok ()) =>
    match outlet.print state ['\n'] with
    | (state, .error cause) => (state, .error { cause })
    | (state, .ok ()) => (state, .ok ())

/-- Counts and tells what came of one candidate, and records it if it was rejected. -/
def note (totals : Totals) (state : σ) (outcome : Outcome) : Totals × σ :=
  let totals := { totals with checked := totals.checked + 1 }
  let state := outlet.tell state outcome.event
  match outcome.record? with
  | some (source, rejection) =>
    ({ totals with rejected := totals.rejected + 1 }, outlet.record state source rejection)
  | none => (totals, state)

/-- Leaves what came of one candidate. A rejection is recorded before its line is shown. -/
def leave (totals : Totals) (state : σ) (outcome : Outcome) : σ × Except (Fault ε) Totals :=
  let (totals, state) := note outlet totals state outcome
  match printLine outlet json state outcome with
  | (state, .ok ()) => (state, .ok totals)
  | (state, .error fault) => (state, .error fault)

/-- Checks candidates one after the other and goes on counting. -/
def run (set : RuleSet) (totals : Totals) (state : σ) :
    List Candidate → σ × Except (Fault ε) Totals
  | [] => (state, .ok totals)
  | candidate :: later =>
    match leave outlet json totals state (.ofCandidate set candidate) with
    | (state, .ok totals) => run set totals state later
    | (state, .error fault) => (state, .error fault)

end

end Check

end LinkVetting
