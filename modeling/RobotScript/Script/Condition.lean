import RobotScript.Field.Basic
import RobotScript.Text.Blank
import RobotScript.Text.Lowercase

/-!
Conditions on the cells around the robot.

A condition is two words in any letter case: a side of the robot and what is expected there,
`свободно` (free) or `стена` (wall). A side is free when the robot could step there; the heading of
the robot plays no part.
-/

namespace RobotScript

/-- What a condition expects on a side of the robot. -/
inductive Outlook where
  /-- The robot could step there. -/
  | free
  /-- A wall or the border of the field is in the way. -/
  | wall
deriving DecidableEq

/-- A side of the robot and what is expected there. -/
@[ext]
structure Condition where
  side : Direction
  expect : Outlook
deriving DecidableEq

namespace Condition

/-- Why a text is not a condition. -/
inductive Error where
  | empty
  | unknownSide (word : String)
  | unknownState (word : String)
  | arity (words : Nat)
deriving DecidableEq

namespace Error

/-- The tag of a cause. -/
def kind : Error → String
  | empty => "empty"
  | unknownSide _ => "unknown_side"
  | unknownState _ => "unknown_state"
  | arity _ => "arity"

/-- The text shown to people. -/
def message : Error → String
  | empty => "condition is empty"
  | unknownSide word =>
    s!"unknown side \"{word}\" (expected справа, снизу, слева or сверху)"
  | unknownState word => s!"unknown cell state \"{word}\" (expected свободно or стена)"
  | arity words => s!"expected two words, found {words}"

end Error

/-- The word for a side of the robot. -/
def sideWord : Direction → String
  | .east => "справа"
  | .south => "снизу"
  | .west => "слева"
  | .north => "сверху"

/-- The word for what is expected on a side. -/
def outlookWord : Outlook → String
  | .free => "свободно"
  | .wall => "стена"

/-- The side a word in lower case names. -/
def sideOf? (word : String) : Option Direction :=
  Direction.all.find? fun d => sideWord d = word

/-- What a word in lower case expects. -/
def outlookOf? (word : String) : Option Outlook :=
  [Outlook.free, Outlook.wall].find? fun o => outlookWord o = word

/-- The condition of a side word and a state word. The side is judged first. -/
def ofWords (side state : String) : Except Error Condition :=
  match sideOf? (lowered side), outlookOf? (lowered state) with
  | none, _ => .error (.unknownSide side)
  | some _, none => .error (.unknownState state)
  | some d, some o => .ok ⟨d, o⟩

/-- Reads a condition from a text of two words. -/
def read (text : String) : Except Error Condition :=
  match Text.words text.toList with
  | [] => .error .empty
  | [side, state] => ofWords (String.ofList side) (String.ofList state)
  | ws => .error (.arity ws.length)

/-- Whether the condition holds for the robot on a field. -/
def holds (c : Condition) (f : Field) : Bool :=
  let free := f.isFree (f.robot.neighbour c.side) f.robot.position
  match c.expect with
  | .free => free
  | .wall => !free

/-- Reads a condition and tells whether it holds. -/
def evaluate (text : String) (f : Field) : Except Error Bool :=
  match read text with
  | .error e => .error e
  | .ok c => .ok (c.holds f)

@[simp] theorem sideOf?_sideWord (d : Direction) : sideOf? (sideWord d) = some d := by
  cases d <;> decide

@[simp] theorem outlookOf?_outlookWord (o : Outlook) : outlookOf? (outlookWord o) = some o := by
  cases o <;> decide

end Condition

end RobotScript
