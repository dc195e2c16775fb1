import RobotScript.Field.Basic

/-!
The field as a text picture.

Each cell is three characters wide. A line of wall marks `---` stands between the rows of cells and
a wall mark `|` between the cells of a row; the outer border is always drawn. A cell shows the robot
as an arrow, else paint as `#`, else `.`.
-/

namespace RobotScript

/-- The arrow that shows the heading of the robot. -/
def Direction.arrow : Direction → Char
  | east => '>'
  | south => 'v'
  | west => '<'
  | north => '^'

namespace Field

/-- The coordinates `0, 1, …` below a bound. -/
def coordinates (bound : Int) : List Int := (List.range bound.toNat).map Int.ofNat

/-- Whether the picture draws the upper edge of a cell. -/
def drawsAbove (f : Field) (c : Cell) : Bool :=
  c.y == 0 || c.y == f.size || f.hasWall (.above c)

/-- Whether the picture draws the left edge of a cell. -/
def drawsLeft (f : Field) (c : Cell) : Bool :=
  c.x == 0 || c.x == f.size || f.hasWall (.leftOf c)

/-- The mark inside a cell. -/
def mark (f : Field) (c : Cell) : Char :=
  if c = f.robot.position then f.robot.direction.arrow else if f.isPainted c then '#' else '.'

/-- The line of wall marks above row `y`. -/
def edgeLine (f : Field) (y : Int) : List Char :=
  (coordinates f.size).flatMap (fun x =>
    '+' :: if f.drawsAbove ⟨x, y⟩ then ['-', '-', '-'] else [' ', ' ', ' ']) ++ ['+']

/-- The wall mark on the left edge of a cell. -/
def sideMark (f : Field) (c : Cell) : Char := if f.drawsLeft c then '|' else ' '

/-- The line of cells of row `y`. -/
def cellLine (f : Field) (y : Int) : List Char :=
  (coordinates f.size).flatMap (fun x => [f.sideMark ⟨x, y⟩, ' ', f.mark ⟨x, y⟩, ' ']) ++
    [f.sideMark ⟨f.size, y⟩]

/-- The lines of the picture from top to bottom. -/
def picture (f : Field) : List (List Char) :=
  (coordinates f.size).flatMap (fun y => [f.edgeLine y, f.cellLine y]) ++ [f.edgeLine f.size]

/-- The picture as text; every line has a line feed. -/
def pictureText (f : Field) : String :=
  String.ofList (f.picture.flatMap (· ++ ['\n']))

end Field

end RobotScript
