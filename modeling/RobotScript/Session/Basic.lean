import RobotScript.Run.Report
import RobotScript.Field.Snapshot

/-!
Sessions: one field shared by a run and those who control it.

A session holds the field, the status of its current or last run and a flag that asks the run to
stop. At most one run is active. While it is, changes of the field by others are refused, and so is
a second run. Each function here is one indivisible action of a client.
-/

namespace RobotScript

/-- The status of the current or last run of a session. -/
inductive Status where
  | idle
  | running
  /-- The last run reached the end of its script. -/
  | completed
  /-- The last run was asked to stop. -/
  | cancelled
  /-- The last run ended with a failure. -/
  | failed
deriving DecidableEq

namespace Status

/-- The written name of a status. -/
def name : Status → String
  | idle => "idle"
  | running => "running"
  | completed => "completed"
  | cancelled => "cancelled"
  | failed => "failed"

/-- Whether a run is active. -/
def isRunning (s : Status) : Bool := s = running

/-- The status a run leaves behind. -/
def ofResult : Except Failure Report → Status
  | .ok report => if report.cancelled then cancelled else completed
  | .error _ => failed

end Status

/-- A field, the engine that runs scripts on it, and the state of its runs. -/
structure Session where
  field : Field := default
  engine : Engine := {}
  status : Status := .idle
  /-- Whether the active run is asked to stop. -/
  stopRequested : Bool := false

instance : Inhabited Session := ⟨{}⟩

namespace Session

/-! ### The stop flag -/

/-- Raises the stop flag, whether or not a run is active. -/
def raiseStop (s : Session) : Session := { s with stopRequested := true }

/-- Lowers the stop flag. -/
def clearStop (s : Session) : Session := { s with stopRequested := false }

/-- Asks the active run to stop; without one nothing changes. -/
def cancel (s : Session) : Session := if s.status.isRunning then s.raiseStop else s

@[simp] theorem cancel_of_running {s : Session} (h : s.status = .running) :
    s.cancel = s.raiseStop := by
  simp [cancel, Status.isRunning, h]

@[simp] theorem cancel_of_not_running {s : Session} (h : s.status ≠ .running) : s.cancel = s := by
  simp [cancel, Status.isRunning, h]

/-! ### The field -/

/-- Lets a client change the field, unless a run is active. -/
def edit {α : Type} (s : Session) (change : Field → Except Field.Error α × Field) :
    Except Field.Error α × Session :=
  if s.status.isRunning then (.error .busy, s)
  else
    let (result, field) := change s.field
    (result, { s with field })

/-- A change that comes during a run is refused and has no effect. -/
theorem edit_of_running {α : Type} {s : Session} (h : s.status = .running)
    (change : Field → Except Field.Error α × Field) : s.edit change = (.error .busy, s) := by
  simp [edit, Status.isRunning, h]

/-- Applies a partial update, unless a run is active. -/
def update (s : Session) (u : Field.Update) : Except Field.Error Unit × Session :=
  s.edit fun f =>
    match f.apply u with
    | .ok f' => (.ok (), f')
    | .error e => (.error e, f)

/-- Resets the field, unless a run is active. -/
def reset (s : Session) : Except Field.Error Unit × Session := s.edit fun f => (.ok (), f.reset)

/-! ### Beginning and leaving a run -/

/-- Begins a run, unless one is active. A stop asked for earlier does not concern the new run. -/
def begin? (s : Session) : Except Failure Session :=
  if s.status.isRunning then .error .alreadyRunning
  else .ok { s with status := .running, stopRequested := false }

theorem begin?_of_running {s : Session} (h : s.status = .running) :
    s.begin? = .error .alreadyRunning := by
  simp [begin?, Status.isRunning, h]

theorem begin?_of_not_running {s : Session} (h : s.status ≠ .running) :
    s.begin? = .ok { s with status := .running, stopRequested := false } := by
  simp [begin?, Status.isRunning, h]

/-- Ends the active run with its result. -/
def leave (s : Session) (result : Except Failure Report) : Session :=
  { s with status := .ofResult result }

end Session

end RobotScript
