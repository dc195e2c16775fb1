/-!
Programs: the instructions of a script, each with the line it stands on.

The words that open and close blocks are instructions of their own; a program is a flat list of
them, and its blocks need not match.
-/

namespace RobotScript

namespace Keyword

/-- Opens the body of a script. -/
def opening : String := "нач"

/-- Closes the body of a script. -/
def closing : String := "кон"

/-- Opens a loop. -/
def loopStart : String := "нц"

/-- Closes a loop. -/
def loopEnd : String := "кц"

/-- Opens a conditional. -/
def ifStart : String := "если"

/-- Ends the condition of a conditional. -/
def ifThen : String := "то"

/-- Closes a conditional. -/
def ifEnd : String := "все"

end Keyword

/-- What an instruction does. -/
inductive Op where
  /-- A command word; its meaning is looked up when the instruction is reached. -/
  | command (keyword : String)
  /-- Opens a loop. The empty condition always holds. -/
  | loopStart (condition : String)
  | loopEnd
  /-- Opens a conditional. -/
  | ifStart (condition : String)
  | ifEnd
deriving DecidableEq

namespace Op

/-- The line that stands for an operation. -/
def display : Op → String
  | command keyword => keyword
  | loopStart condition =>
    if condition = "" then Keyword.loopStart else Keyword.loopStart ++ " " ++ condition
  | loopEnd => Keyword.loopEnd
  | ifStart condition => Keyword.ifStart ++ " " ++ condition ++ " " ++ Keyword.ifThen
  | ifEnd => Keyword.ifEnd

/-- Whether an operation opens a loop. -/
def isLoopStart : Op → Bool
  | loopStart _ => true
  | _ => false

end Op

/-- An operation and the line it stands on; lines count from 1. -/
@[ext]
structure Instruction where
  op : Op
  line : Nat
deriving DecidableEq

/-- The instructions of a script and the lines that are none. -/
@[ext]
structure Program where
  instructions : List Instruction := []
  skipped : List Nat := []
deriving DecidableEq

instance : Inhabited Program := ⟨{}⟩

/-- The line of the instruction at an index, 0 where there is none. -/
def lineAt (code : List Instruction) (index : Nat) : Nat := (code[index]?.map (·.line)).getD 0

end RobotScript
