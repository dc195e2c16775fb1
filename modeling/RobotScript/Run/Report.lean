import RobotScript.Run.Machine

/-!
Whole runs and their reports.

`advance` makes one dispatch as a run sees it: with the event to show and the tick to report.
`Engine.execute` repeats it until the program halts or fails. The step limit bounds the number of
dispatches, so every run ends.
-/

namespace RobotScript

/-- A step or a painting of a run. -/
@[ext]
structure Tick where
  /-- The index of the instruction. -/
  index : Nat
  /-- The line of the instruction. -/
  line : Nat
  event : Event
  /-- Where the robot stands afterwards. -/
  position : Cell
deriving DecidableEq

/-- What a run that did not fail did. -/
@[ext]
structure Report where
  ticks : List Tick := []
  dispatched : Nat := 0
  /-- Whether the run was asked to stop before its end. -/
  cancelled : Bool := false
  /-- The lines of the script that were not understood. -/
  skipped : List Nat := []
deriving DecidableEq

/-- The cells the robot stepped onto, in order. -/
def Report.path (r : Report) : List Cell :=
  (r.ticks.filter (·.event.isMove)).map (·.position)

/-- What a dispatch means to a run. -/
inductive Progress where
  | halted
  | silent
  | ticked (tick : Tick)
  | failed (failure : Failure)
deriving DecidableEq

/-- The event that a dispatch shows: that of its tick, or the refused step. -/
def Progress.event? : Progress → Option Event
  | ticked tick => some tick.event
  | failed (.blockedMove start goal _) => some (.wallHit start goal)
  | _ => none

/-- One dispatch of a run with the machine and the field it leaves behind. -/
structure Advance where
  progress : Progress
  machine : Machine
  field : Field

/-- Makes one dispatch of a run. -/
def advance (e : Engine) (p : Program) (m : Machine) (f : Field) : Advance :=
  let d := m.step e p f
  let progress :=
    match d.result with
    | .ok .halted => .halted
    | .ok .silent => .silent
    | .ok (.tick event) =>
      .ticked ⟨m.pc, lineAt p.instructions m.pc, event, d.field.robot.position⟩
    | .error failure => .failed failure
  ⟨progress, d.machine, d.field⟩

/-- An event together with the field right after it. -/
structure Sighting where
  event : Event
  field : Field
deriving DecidableEq

/-- A run between two dispatches. -/
structure Underway where
  machine : Machine := {}
  field : Field
  /-- The ticks so far, the newest first. -/
  ticks : List Tick := []
  /-- What the run has shown so far, the newest first. -/
  sightings : List Sighting := []

namespace Underway

/-- The run after a dispatch. -/
def after (u : Underway) (a : Advance) : Underway where
  machine := a.machine
  field := a.field
  ticks :=
    match a.progress with
    | .ticked tick => tick :: u.ticks
    | _ => u.ticks
  sightings :=
    match a.progress.event? with
    | some event => ⟨event, a.field⟩ :: u.sightings
    | none => u.sightings

end Underway

/-- How a run ended, and the state it ended in. -/
structure Execution where
  result : Except Failure Report
  last : Underway

namespace Execution

/-- The field the run left. -/
def field (x : Execution) : Field := x.last.field

/-- What the run showed, in order. -/
def sightings (x : Execution) : List Sighting := x.last.sightings.reverse

end Execution

namespace Underway

/-- The run ended by a failure. -/
def fail (u : Underway) (failure : Failure) : Execution := ⟨.error failure, u⟩

/-- The run ended at the end of its program. -/
def finish (u : Underway) (p : Program) : Execution :=
  ⟨.ok ⟨u.ticks.reverse, u.machine.dispatched, false, p.skipped⟩, u⟩

end Underway

namespace Engine

/-- Goes on with a run for at most `fuel` dispatches. -/
def runFor (e : Engine) (p : Program) : Nat → Underway → Execution
  | 0, u => u.fail (.stepLimitExceeded e.settings.maxSteps)
  | fuel + 1, u =>
    let a := advance e p u.machine u.field
    match a.progress with
    | .halted => (u.after a).finish p
    | .failed failure => (u.after a).fail failure
    | _ => e.runFor p fuel (u.after a)

/-- Runs a program on a field without pausing. The last of the allowed dispatches is the one that
finds the program at its end or its steps used up. -/
def execute (e : Engine) (p : Program) (f : Field) : Execution :=
  e.runFor p (e.settings.maxSteps + 1) { field := f }

/-- Reads a script and runs it. -/
def run (e : Engine) (source : String) (f : Field) : Execution := e.execute (e.read source) f

end Engine

end RobotScript
