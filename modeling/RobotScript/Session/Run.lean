import RobotScript.Session.Basic

/-!
Runs inside a session.

A run goes round three phases: it polls the stop flag, dispatches one instruction, and after a tick
pauses, at the end of which it looks at the flag again. Between two phases other clients may act on
the session. A watcher is told every event; it may raise or lower the stop flag but has no hold on
the field.
-/

namespace RobotScript.Session

/-- Where a run stands between two of its actions. -/
inductive Phase where
  /-- About to look at the stop flag. -/
  | polling
  /-- About to dispatch an instruction. -/
  | advancing
  /-- In the pause after a tick. -/
  | pausing
  /-- Done with its program, but still the active run. -/
  | leaving (result : Except Failure Report)
  /-- No longer the active run. -/
  | left (result : Except Failure Report)

/-- A run of a session between two of its actions. -/
structure Run where
  program : Program
  machine : Machine := {}
  /-- The ticks so far, the newest first. -/
  ticks : List Tick := []
  phase : Phase := .polling

/-- A watcher with a state `σ`: it is told an event and the session right after it, and gives the
stop flag it leaves. -/
structure Watcher (σ : Type) where
  notice : Event → Session → σ → Bool × σ

/-- The watcher that ignores everything. -/
def Watcher.idle : Watcher Unit := ⟨fun _ s u => (s.stopRequested, u)⟩

namespace Run

/-- The report of a run so far. -/
def report (r : Run) (cancelled : Bool) : Report :=
  ⟨r.ticks.reverse, r.machine.dispatched, cancelled, r.program.skipped⟩

/-- The run on its way out because it was asked to stop. -/
def stopped (r : Run) : Run := { r with phase := .leaving (.ok (r.report true)) }

/-- The result of a run that is no longer active. -/
def result? (r : Run) : Option (Except Failure Report) :=
  match r.phase with
  | .left result => some result
  | _ => none

/-- Whether the run is in the pause after a tick. -/
def isPausing (r : Run) : Bool :=
  match r.phase with
  | .pausing => true
  | _ => false

/-- Whether the run is over. -/
def isLeft (r : Run) : Bool := r.result?.isSome

/-- The run after a dispatch. A tick is followed by a pause if the settings ask for one. -/
def after (r : Run) (delayMs : Nat) (a : Advance) : Run :=
  let r' := { r with machine := a.machine }
  match a.progress with
  | .halted => { r' with phase := .leaving (.ok (r'.report false)) }
  | .failed failure => { r' with phase := .leaving (.error failure) }
  | .silent => { r' with phase := .polling }
  | .ticked tick =>
    { r' with ticks := tick :: r.ticks, phase := if delayMs = 0 then .polling else .pausing }

end Run

/-- A session with a run of it and the state of the run's watcher. -/
structure Watched (σ : Type) where
  session : Session
  run : Run
  seen : σ

namespace Watched

variable {σ : Type}

/-- The run dispatches an instruction and tells its watcher the event. -/
def advance (watcher : Watcher σ) (w : Watched σ) : Watched σ :=
  let engine := w.session.engine
  let a := RobotScript.advance engine w.run.program w.run.machine w.session.field
  let run := w.run.after engine.settings.delayMs a
  let session := { w.session with field := a.field }
  match a.progress.event? with
  | none => ⟨session, run, w.seen⟩
  | some event =>
    let (stopRequested, seen) := watcher.notice event session w.seen
    ⟨{ session with stopRequested }, run, seen⟩

/-- The run makes its next action. -/
def step (watcher : Watcher σ) (w : Watched σ) : Watched σ :=
  match w.run.phase with
  | .polling =>
    if w.session.stopRequested then { w with run := w.run.stopped }
    else { w with run := { w.run with phase := .advancing } }
  | .advancing => w.advance watcher
  | .pausing =>
    if w.session.stopRequested then { w with run := w.run.stopped }
    else { w with run := { w.run with phase := .polling } }
  | .leaving result =>
    { w with session := w.session.leave result, run := { w.run with phase := .left result } }
  | .left _ => w

/-- The run makes up to `fuel` actions, until the condition on it holds. -/
def runUntil (watcher : Watcher σ) (goal : Run → Bool) : Nat → Watched σ → Watched σ
  | 0, w => w
  | fuel + 1, w => if goal w.run then w else (w.step watcher).runUntil watcher goal fuel

/-- How many actions a run can make: three for each dispatch and the one that finds the end, and one
to leave. -/
def budget (w : Watched σ) : Nat := 3 * (w.session.engine.settings.maxSteps + 1) + 1

/-- Goes on with a run until it is over. -/
def finish (watcher : Watcher σ) (w : Watched σ) : Watched σ :=
  w.runUntil watcher Run.isLeft w.budget

/-- Goes on with a run until the pause after its next tick, or until it is over. -/
def toPause (watcher : Watcher σ) (w : Watched σ) : Watched σ :=
  w.runUntil watcher (fun r => r.isPausing || r.isLeft) w.budget

end Watched

/-- Begins a run of a script, unless a run is active. -/
def start {σ : Type} (s : Session) (source : String) (seen : σ) : Except Failure (Watched σ) :=
  match s.begin? with
  | .error failure => .error failure
  | .ok session => .ok ⟨session, { program := s.engine.read source }, seen⟩

/-- Runs a script to its end, with no other client but the watcher. -/
def run {σ : Type} (s : Session) (source : String) (watcher : Watcher σ) (seen : σ) :
    Except Failure Report × Session × σ :=
  match s.start source seen with
  | .error failure => (.error failure, s, seen)
  | .ok w =>
    let w' := w.finish watcher
    let result := w'.run.result?.getD (.error (.stepLimitExceeded s.engine.settings.maxSteps))
    (result, w'.session, w'.seen)

end RobotScript.Session
