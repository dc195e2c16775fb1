import RobotScript.Field.Update

/-!
Snapshots of a field.

A snapshot lists the walls and the painted cells of a field in order and without repetition, so
equal fields have equal snapshots. A field is built from any snapshot whose entries lie on it; order
and repetition do not matter there.
-/

namespace RobotScript.Field

/-- A field written out as lists. -/
@[ext]
structure Snapshot where
  size : Int
  robot : Robot
  walls : List Wall := []
  painted : List Cell := []
deriving DecidableEq

/-- The snapshot of a field. -/
def snapshot (f : Field) : Snapshot where
  size := f.size
  robot := f.robot
  walls := f.walls.toList
  painted := f.painted.toList

/-- The update that puts the contents of a snapshot onto a field. -/
def Snapshot.contents (s : Snapshot) : Update where
  walls := some s.walls
  painted := some s.painted
  robot := some s.robot

/-- The field a snapshot describes, if everything in it lies on a field of a positive size. -/
def ofSnapshot (s : Snapshot) : Except Error Field :=
  match ofSize s.size with
  | .error e => .error e
  | .ok f => f.apply s.contents

end RobotScript.Field
