import RobotScript.Grid.Direction

/-!
What a command word makes the robot do.
-/

namespace RobotScript

/-- The meaning of a command word. -/
inductive Command where
  /-- Turn towards a direction and, where motion is by steps, step one cell. -/
  | move (direction : Direction)
  /-- Paint the cell under the robot. -/
  | paint
deriving DecidableEq

namespace Command

/-- The written name of a command: that of its direction, or `paint`. -/
def name : Command → String
  | move d => d.name
  | paint => "paint"

/-- The command with the given name. -/
def ofName? (text : String) : Option Command :=
  if text = "paint" then some paint else (Direction.ofName? text).map move

@[simp] theorem ofName?_name (c : Command) : ofName? c.name = some c := by
  cases c with
  | move d => cases d <;> decide
  | paint => decide

end Command

end RobotScript
