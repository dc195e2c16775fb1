import RobotScript.Field.Snapshot
import RobotScript.Json.Codec
import RobotScript.Run.Report

/-!
The JSON forms of everything that is handed in or out.

Directions are written by name and taken by name in any letter case or by index. The robot has two
forms: one with its position as a cell, and a flat one, used in snapshots and updates, with the
coordinates beside the direction.
-/

namespace RobotScript.Json

namespace Codec

/-! ### Grid -/

/-- Directions. -/
def direction : Codec Direction where
  encode d := .str d.name
  decode
    | .int n =>
      if n < 0 then .error .form
      else
        match Direction.ofIndex? n.toNat with
        | some d => .ok d
        | none => .error (.direction (.index n.toNat))
    | .str s =>
      match Direction.ofName? (lowered s) with
      | some d => .ok d
      | none => .error (.direction (.name (lowered s)))
    | _ => .error .form

/-- Orientations. -/
def orientation : Codec Orientation :=
  choice Orientation.name [("horizontal", .horizontal), ("vertical", .vertical)]

/-- Cells, written as an array of two numbers. -/
def cell : Codec Cell where
  encode c := .arr [int32.encode c.x, int32.encode c.y]
  decode
    | .arr [x, y] =>
      match int32.decode x, int32.decode y with
      | .ok x, .ok y => .ok ⟨x, y⟩
      | .error e, _ => .error e
      | .ok _, .error e => .error e
    | _ => .error .form

/-- The coordinate `x`. -/
def xPart : Part Int := part "x" int32

/-- The coordinate `y`. -/
def yPart : Part Int := part "y" int32

/-- The orientation of a wall. -/
def orientationPart : Part Orientation := part "orientation" orientation

/-- Walls. -/
def wall : Codec Wall where
  encode w := .obj [xPart.member w.x, yPart.member w.y, orientationPart.member w.orientation]
  decode j := do
    let ms ← members [xPart.slot, yPart.slot, orientationPart.slot] j
    return ⟨← xPart.required ms, ← yPart.required ms, ← orientationPart.required ms⟩

/-- The position of the robot as a cell. -/
def positionPart : Part Cell := part "position" cell

/-- The direction of the robot. -/
def directionPart : Part Direction := part "direction" direction

/-- The robot with its position as a cell. -/
def robot : Codec Robot where
  encode r := .obj [positionPart.member r.position, directionPart.member r.direction]
  decode j := do
    let ms ← members [positionPart.slot, directionPart.slot] j
    return ⟨← positionPart.required ms, ← directionPart.required ms⟩

/-- The direction of the robot in flat form, which has an older name too. -/
def headingPart : Part Direction := ⟨["direction", "dir"], direction⟩

/-- The robot in flat form; it looks east where no direction is given. -/
def flatRobot : Codec Robot where
  encode r :=
    .obj [xPart.member r.position.x, yPart.member r.position.y, headingPart.member r.direction]
  decode j := do
    let ms ← members [xPart.slot, yPart.slot, headingPart.slot] j
    return ⟨⟨← xPart.required ms, ← yPart.required ms⟩, ← headingPart.getD ms .east⟩

/-! ### Field -/

/-- The size of a field. -/
def sizePart : Part Int := part "size" int32

/-- The robot of a snapshot. -/
def robotPart : Part Robot := part "robot" flatRobot

/-- The walls of a snapshot. -/
def wallsPart : Part (List Wall) := part "walls" (list wall)

/-- The painted cells of a snapshot. -/
def paintedPart : Part (List Cell) := part "painted" (list cell)

/-- Snapshots; walls and painted cells may be left out. -/
def snapshot : Codec Field.Snapshot where
  encode s := .obj [sizePart.member s.size, robotPart.member s.robot, wallsPart.member s.walls,
    paintedPart.member s.painted]
  decode j := do
    let ms ← members [sizePart.slot, robotPart.slot, wallsPart.slot, paintedPart.slot] j
    return ⟨← sizePart.required ms, ← robotPart.required ms, ← wallsPart.getD ms [],
      ← paintedPart.getD ms []⟩

/-- The new walls of an update. -/
def newWallsPart : Part (Option (List Wall)) := part "walls" (nullable (list wall))

/-- The new painted cells of an update. -/
def newPaintedPart : Part (Option (List Cell)) := part "painted" (nullable (list cell))

/-- The new robot of an update. -/
def newRobotPart : Part (Option Robot) := part "robot" (nullable flatRobot)

/-- The member that writes an optional field, if it has a value. -/
def Part.member? {α : Type} (p : Part (Option α)) (a : Option α) : List (String × Json) :=
  if a.isSome then [p.member a] else []

/-- Partial updates; an absent part is not written. -/
def update : Codec Field.Update where
  encode u := .obj (newWallsPart.member? u.walls ++ newPaintedPart.member? u.painted ++
    newRobotPart.member? u.robot)
  decode j := do
    let ms ← members [newWallsPart.slot, newPaintedPart.slot, newRobotPart.slot] j
    return ⟨← newWallsPart.getD ms none, ← newPaintedPart.getD ms none,
      ← newRobotPart.getD ms none⟩

/-! ### Runs -/

/-- Motions. -/
def motion : Codec Motion := choice Motion.name [("step", .step), ("orient", .orient)]

/-- The pause of a run. -/
def delayPart : Part Nat := part "delay_ms" word64

/-- The motion of a run. -/
def motionPart : Part Motion := part "motion" motion

/-- The step limit of a run. -/
def maxStepsPart : Part Nat := part "max_steps" word64

/-- Settings; each of them may be left out. -/
def settings : Codec Settings where
  encode s := .obj [delayPart.member s.delayMs, motionPart.member s.motion,
    maxStepsPart.member s.maxSteps]
  decode j := do
    let ms ← members [delayPart.slot, motionPart.slot, maxStepsPart.slot] j
    let standard : Settings := {}
    return ⟨← delayPart.getD ms standard.delayMs, ← motionPart.getD ms standard.motion,
      ← maxStepsPart.getD ms standard.maxSteps⟩

/-- The tag of a failure. -/
def kindPart : Part String := part "kind" text

/-- The text of a failure. -/
def messagePart : Part String := part "message" text

/-- The line of a failure. -/
def linePart : Part (Option Nat) := part "line" (nullable word64)

/-- Descriptors of failures; an absent line is not written. -/
def descriptor : Codec Failure.Descriptor where
  encode d := .obj ([kindPart.member d.kind, messagePart.member d.message] ++
    linePart.member? d.line)
  decode j := do
    let ms ← members [kindPart.slot, messagePart.slot, linePart.slot] j
    return ⟨← kindPart.required ms, ← messagePart.required ms, ← linePart.getD ms none⟩

end Codec

/-! ### Written only -/

/-- The JSON form of an operation. -/
def ofOp : Op → Json
  | .command keyword => .obj [("type", .str "command"), ("arg", .str keyword)]
  | .loopStart condition => .obj [("type", .str "loop_start"), ("arg", .str condition)]
  | .loopEnd => .obj [("type", .str "loop_end")]
  | .ifStart condition => .obj [("type", .str "if_start"), ("arg", .str condition)]
  | .ifEnd => .obj [("type", .str "if_end")]

/-- The JSON form of an instruction. -/
def ofInstruction (i : Instruction) : Json := .obj [("op", ofOp i.op), ("line", .nat i.line)]

/-- The JSON form of an event. -/
def ofEvent : Event → Json
  | .moved start goal d =>
    .obj [("action", .str "moved"), ("from", Codec.cell.encode start),
      ("to", Codec.cell.encode goal), ("direction", Codec.direction.encode d)]
  | .painted c fresh =>
    .obj [("action", .str "painted"), ("cell", Codec.cell.encode c), ("fresh", .bool fresh)]
  | .wallHit start goal =>
    .obj [("action", .str "wall_hit"), ("at", Codec.cell.encode start),
      ("towards", Codec.cell.encode goal)]

/-- The JSON form of a tick. -/
def ofTick (t : Tick) : Json :=
  .obj [("index", .nat t.index), ("line", .nat t.line), ("event", ofEvent t.event),
    ("position", Codec.cell.encode t.position)]

/-- The members of the JSON form of a report. -/
def reportMembers (r : Report) : List (String × Json) :=
  [("ticks", .arr (r.ticks.map ofTick)), ("dispatched", .nat r.dispatched),
    ("cancelled", .bool r.cancelled), ("skipped", .arr (r.skipped.map .nat))]

/-- The JSON form of a report. -/
def ofReport (r : Report) : Json := .obj (reportMembers r)

end RobotScript.Json
