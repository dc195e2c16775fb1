import RobotScript.Grid.Direction

/-!
What a run shows to those who watch it.
-/

namespace RobotScript

/-- A change of the field that a run makes, or a step it is refused. -/
inductive Event where
  /-- The robot stepped onto a neighbour. -/
  | moved (start goal : Cell) (direction : Direction)
  /-- The robot painted its cell; `fresh` tells whether it was unpainted. -/
  | painted (cell : Cell) (fresh : Bool)
  /-- A step was refused. This is the last event of a run. -/
  | wallHit (start goal : Cell)
deriving DecidableEq

namespace Event

/-- Whether the robot stepped. -/
def isMove : Event → Bool
  | moved .. => true
  | _ => false

end Event

end RobotScript
