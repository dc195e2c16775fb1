import RobotScript.Field.Basic

/-!
Partial updates of a field.

An update lists new walls, new painted cells and a new robot, each of them optional. It is applied
as a whole or not at all, and whether it is applied depends on the size of the field only.
-/

namespace RobotScript.Field

/-- New contents for parts of a field; an absent part stays as it is. -/
@[ext]
structure Update where
  walls : Option (List Wall) := none
  painted : Option (List Cell) := none
  robot : Option Robot := none
deriving DecidableEq

namespace Update

/-- The first listed wall that does not fit. -/
def badWall? (u : Update) (size : Int) : Option Wall :=
  (u.walls.getD []).find? fun w => !w.fits size

/-- The first listed cell that does not lie on the field. The cells are those of a set, and the
order of the list is the order in which they are looked through. -/
def badCell? (u : Update) (size : Int) : Option Cell :=
  (u.painted.getD []).find? fun c => !covers size c

/-- The robot, if it does not stand on the field. -/
def badRobot? (u : Update) (size : Int) : Option Robot :=
  u.robot.filter fun r => !covers size r.position

/-- Why a field of the given size refuses the update. Walls come before cells and cells before the
robot. -/
def fault? (u : Update) (size : Int) : Option Error :=
  match u.badWall? size, u.badCell? size, u.badRobot? size with
  | some w, _, _ => some (.wallOutOfRange w size)
  | none, some c, _ => some (.cellOutOfBounds c size)
  | none, none, some r => some (.robotOutOfBounds r.position size)
  | none, none, none => none

theorem fault?_eq_none_iff {u : Update} {size : Int} :
    u.fault? size = none ↔
      u.badWall? size = none ∧ u.badCell? size = none ∧ u.badRobot? size = none := by
  unfold fault?
  split <;> simp_all

end Update

/-- The field with every part that an update lists replaced. -/
def overwrite (f : Field) (u : Update) : Field where
  size := f.size
  robot := u.robot.getD f.robot
  walls := u.walls.elim f.walls fun ws => .ofList ws
  painted := u.painted.elim f.painted fun cs => .ofList cs

/-- Applies an update, or refuses it for its first fault. -/
def apply (f : Field) (u : Update) : Except Error Field :=
  match u.fault? f.size with
  | some e => .error e
  | none => .ok (f.overwrite u)

theorem apply_eq_ok_iff {f g : Field} {u : Update} :
    f.apply u = .ok g ↔ u.fault? f.size = none ∧ f.overwrite u = g := by
  unfold apply
  split <;> simp_all

theorem apply_eq_error_iff {f : Field} {u : Update} {e : Error} :
    f.apply u = .error e ↔ u.fault? f.size = some e := by
  unfold apply
  split <;> simp_all

end RobotScript.Field
