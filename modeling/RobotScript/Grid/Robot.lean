import RobotScript.Grid.Direction

/-!
The robot: a cell and a heading.
-/

namespace RobotScript

/-- Where the robot stands and where it looks. -/
@[ext]
structure Robot where
  position : Cell
  direction : Direction
deriving DecidableEq

namespace Robot

/-- The robot in the upper left corner, looking east. -/
def initial : Robot := ⟨.origin, .east⟩

instance : Inhabited Robot := ⟨initial⟩

/-- The cell next to the robot on the given side, whatever its heading. -/
def neighbour (r : Robot) (side : Direction) : Cell := r.position + side.delta

end Robot

end RobotScript
