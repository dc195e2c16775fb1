import RobotScript.Grid.Wall

/-!
Why a change of a field is refused.
-/

namespace RobotScript.Field

/-- The causes for which a field refuses a change. -/
inductive Error where
  | invalidSize (size : Int)
  | wallOutOfRange (wall : Wall) (size : Int)
  | robotOutOfBounds (position : Cell) (size : Int)
  | cellOutOfBounds (cell : Cell) (size : Int)
  | busy
deriving DecidableEq

namespace Error

/-- The tag of a cause. -/
def kind : Error → String
  | invalidSize _ => "invalid_size"
  | wallOutOfRange .. => "wall_out_of_range"
  | robotOutOfBounds .. => "robot_out_of_bounds"
  | cellOutOfBounds .. => "cell_out_of_bounds"
  | busy => "busy"

/-- The text shown to people. -/
def message : Error → String
  | invalidSize size => s!"field size must be positive (got {size})"
  | wallOutOfRange wall size => s!"wall {wall.describe} lies outside a {size}x{size} field"
  | robotOutOfBounds p size => s!"robot position ({p.x}, {p.y}) is outside a {size}x{size} field"
  | cellOutOfBounds c size => s!"cell ({c.x}, {c.y}) is outside a {size}x{size} field"
  | busy => "field cannot be changed while a script is running"

/-- The cause with its parts by name, as a failed command prints it. -/
def detail : Error → String
  | invalidSize size => s!"InvalidSize \x7b size: {size} \x7d"
  | wallOutOfRange wall size =>
    s!"WallOutOfRange \x7b wall: {wall.describe}, size: {size} \x7d"
  | robotOutOfBounds p size =>
    s!"RobotOutOfBounds \x7b position: {p.describe}, size: {size} \x7d"
  | cellOutOfBounds c size => s!"CellOutOfBounds \x7b cell: {c.describe}, size: {size} \x7d"
  | busy => "Busy"

end Error

end RobotScript.Field
