import RobotScript.Field.Error
import RobotScript.Grid.Robot

/-!
The field: a square grid with walls on its edges, painted cells and one robot.

The field answers whether a step is possible but does not guard the robot: `Field.moveRobotTo` is
unconditional and its callers ask `Field.isFree` first. Walls and partial updates are checked, and
nothing changes when a check fails.
-/

namespace RobotScript

/-- A square field with its walls, painted cells and robot. -/
@[ext]
structure Field where
  size : Int
  robot : Robot
  walls : WallSet
  painted : CellSet
deriving DecidableEq

namespace Field

/-! ### Making a field -/

/-- A field without walls and paint, the robot in the upper left corner looking east. -/
def blank (size : Int) : Field := ⟨size, .initial, ∅, ∅⟩

/-- The side length of a field when none is given. -/
def defaultSize : Int := 10

instance : Inhabited Field := ⟨blank defaultSize⟩

/-- The blank field of a size, which has to be positive. -/
def ofSize (size : Int) : Except Error Field :=
  if size ≤ 0 then .error (.invalidSize size) else .ok (blank size)

/-! ### Questions -/

/-- Whether a cell lies on a field of the given size. -/
def covers (size : Int) (c : Cell) : Bool :=
  0 ≤ c.x && c.x < size && 0 ≤ c.y && c.y < size

/-- Whether a cell lies on the field. -/
def inBounds (f : Field) (c : Cell) : Bool := covers f.size c

/-- Whether a cell is painted. -/
def isPainted (f : Field) (c : Cell) : Bool := f.painted.contains c

/-- Whether a wall stands on the field. -/
def hasWall (f : Field) (w : Wall) : Bool := f.walls.contains w

/-- Whether a wall separates two cells. Only neighbours can be separated. -/
def hasWallBetween (f : Field) (a b : Cell) : Bool := (Wall.between? a b).any f.hasWall

/-- Whether a robot on `start` could step onto `goal`. -/
def isFree (f : Field) (goal start : Cell) : Bool :=
  f.inBounds goal && !f.hasWallBetween start goal

theorem isPainted_iff {f : Field} {c : Cell} : f.isPainted c ↔ c ∈ f.painted :=
  Std.ExtTreeSet.contains_iff_mem

theorem hasWall_iff {f : Field} {w : Wall} : f.hasWall w ↔ w ∈ f.walls :=
  Std.ExtTreeSet.contains_iff_mem

theorem covers_iff {size : Int} {c : Cell} :
    covers size c ↔ 0 ≤ c.x ∧ c.x < size ∧ 0 ≤ c.y ∧ c.y < size := by
  simp [covers, and_assoc]

/-! ### The robot -/

/-- Puts the robot onto a cell, whatever is in the way. -/
def moveRobotTo (f : Field) (c : Cell) : Field := { f with robot := { f.robot with position := c } }

/-- Turns the robot. -/
def setDirection (f : Field) (d : Direction) : Field :=
  { f with robot := { f.robot with direction := d } }

/-- Paints the robot's cell, and tells whether it was unpainted. -/
def paint (f : Field) : Bool × Field :=
  (!f.isPainted f.robot.position, { f with painted := f.painted.insert f.robot.position })

@[simp] theorem size_moveRobotTo (f : Field) (c : Cell) : (f.moveRobotTo c).size = f.size := rfl

@[simp] theorem walls_moveRobotTo (f : Field) (c : Cell) : (f.moveRobotTo c).walls = f.walls := rfl

@[simp] theorem painted_moveRobotTo (f : Field) (c : Cell) :
    (f.moveRobotTo c).painted = f.painted := rfl

@[simp] theorem robot_moveRobotTo (f : Field) (c : Cell) :
    (f.moveRobotTo c).robot = ⟨c, f.robot.direction⟩ := rfl

@[simp] theorem size_setDirection (f : Field) (d : Direction) : (f.setDirection d).size = f.size :=
  rfl

@[simp] theorem walls_setDirection (f : Field) (d : Direction) :
    (f.setDirection d).walls = f.walls := rfl

@[simp] theorem painted_setDirection (f : Field) (d : Direction) :
    (f.setDirection d).painted = f.painted := rfl

@[simp] theorem robot_setDirection (f : Field) (d : Direction) :
    (f.setDirection d).robot = ⟨f.robot.position, d⟩ := rfl

/-- Painting adds the robot's cell and nothing else. -/
theorem mem_painted_paint {f : Field} {c : Cell} :
    c ∈ f.paint.2.painted ↔ c = f.robot.position ∨ c ∈ f.painted := by
  rw [paint, Std.ExtTreeSet.mem_insert, Std.LawfulEqCmp.compare_eq_iff_eq, eq_comm]

/-! ### Walls -/

/-- Adds a wall, and tells whether it was missing. -/
def addWall (f : Field) (w : Wall) : Except Error (Bool × Field) :=
  if w.fits f.size then .ok (!f.hasWall w, { f with walls := f.walls.insert w })
  else .error (.wallOutOfRange w f.size)

theorem addWall_eq_ok {f : Field} {w : Wall} (h : w.fits f.size) :
    f.addWall w = .ok (!f.hasWall w, { f with walls := f.walls.insert w }) := if_pos h

/-- Removes a wall, and tells whether it was there. -/
def removeWall (f : Field) (w : Wall) : Bool × Field :=
  (f.hasWall w, { f with walls := f.walls.erase w })

/-- Removes a wall that is there or adds one that is not, and tells whether it is there now. -/
def toggleWall (f : Field) (w : Wall) : Except Error (Bool × Field) :=
  if !w.fits f.size then .error (.wallOutOfRange w f.size)
  else if f.hasWall w then .ok (false, { f with walls := f.walls.erase w })
  else .ok (true, { f with walls := f.walls.insert w })

/-- Removes walls and paint and puts the robot back into the corner. -/
def reset (f : Field) : Field := blank f.size

end Field

end RobotScript
