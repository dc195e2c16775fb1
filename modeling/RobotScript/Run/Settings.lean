/-!
Settings of a run: how long it pauses, how commands move the robot, and how far it may go.
-/

namespace RobotScript

/-- What a direction command does. -/
inductive Motion where
  /-- Turn, then step one cell. -/
  | step
  /-- Only turn. -/
  | orient
deriving DecidableEq

/-- The written name of a motion. -/
def Motion.name : Motion → String
  | step => "step"
  | orient => "orient"

/-- The settings of a run. -/
@[ext]
structure Settings where
  /-- The pause after every tick, in milliseconds. -/
  delayMs : Nat := 500
  motion : Motion := .step
  /-- How many instructions may be dispatched. -/
  maxSteps : Nat := 100000
deriving DecidableEq

instance : Inhabited Settings := ⟨{}⟩

/-- The largest number of 64 bits. -/
def maxWord : Nat := 18446744073709551615

namespace Settings

/-- The settings with a pause of whole seconds and nanoseconds. Parts of a millisecond are dropped,
and a pause beyond 64 bits of milliseconds becomes the longest one. -/
def withDelay (s : Settings) (seconds nanoseconds : Nat) : Settings :=
  { s with delayMs := min (seconds * 1000 + nanoseconds / 1000000) maxWord }

/-- The pause as whole seconds and nanoseconds. -/
def delay (s : Settings) : Nat × Nat := (s.delayMs / 1000, s.delayMs % 1000 * 1000000)

end Settings

end RobotScript
