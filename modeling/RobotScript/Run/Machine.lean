import RobotScript.Run.Engine
import RobotScript.Run.Event
import RobotScript.Script.Blocks

/-!
The machine that runs a program one instruction at a time.

A machine knows the index of the next instruction, the loops it is in and how many instructions it
has dispatched. `Machine.step` dispatches one instruction. When a dispatch fails the index stays,
but the robot may have turned towards a wall and a loop whose guard failed may have been left.
-/

namespace RobotScript

/-- The state of one run over one program. -/
@[ext]
structure Machine where
  /-- The index of the next instruction. -/
  pc : Nat := 0
  /-- The indices of the loops being run, the innermost first. -/
  loops : List Nat := []
  /-- How many instructions have been dispatched. -/
  dispatched : Nat := 0
deriving DecidableEq

instance : Inhabited Machine := ⟨{}⟩

/-- What a dispatch did. -/
inductive Dispatch where
  /-- The robot stepped or painted. -/
  | tick (event : Event)
  /-- A turn, or an instruction that only directs the run. -/
  | silent
  /-- There was no instruction left. -/
  | halted
deriving DecidableEq

/-- The result of a dispatch with the machine and the field it leaves behind. -/
structure Dispatched where
  result : Except Failure Dispatch
  machine : Machine
  field : Field

/-- Evaluates the condition of the instruction on a line. -/
def checkCondition (text : String) (f : Field) (line : Nat) : Except Failure Bool :=
  match Condition.evaluate text f with
  | .error reason => .error (.invalidCondition text line reason)
  | .ok b => .ok b

/-- Evaluates the guard of a loop; the empty guard always holds. -/
def checkGuard (text : String) (f : Field) (line : Nat) : Except Failure Bool :=
  if text = "" then .ok true else checkCondition text f line

/-- Carries out a command. The robot turns before the way is checked. -/
def Command.perform (c : Command) (motion : Motion) (line : Nat) (f : Field) :
    Except Failure Dispatch × Field :=
  match c with
  | .paint =>
    let (fresh, f') := f.paint
    (.ok (.tick (.painted f.robot.position fresh)), f')
  | .move d =>
    let turned := f.setDirection d
    match motion with
    | .orient => (.ok .silent, turned)
    | .step =>
      let start := turned.robot.position
      let goal := start + d.delta
      if turned.isFree goal start then
        (.ok (.tick (.moved start goal d)), turned.moveRobotTo goal)
      else (.error (.blockedMove start goal line), turned)

namespace Machine

/-- Whether the program has no instruction left. -/
def isHalted (m : Machine) (p : Program) : Bool := p.instructions.length ≤ m.pc

/-- The loops after entering the one at `start`, which may have been entered before. -/
def enterLoop (loops : List Nat) (start : Nat) : List Nat :=
  if loops.head? = some start then loops else start :: loops

/-- The loops after leaving the one at `start`, if it was entered. -/
def leaveLoop (loops : List Nat) (start : Nat) : List Nat :=
  if loops.head? = some start then loops.tail else loops

/-- The machine one instruction further. -/
def next (m : Machine) : Machine := { m with pc := m.pc + 1 }

/-- Dispatches a command word. -/
def runCommand (e : Engine) (keyword : String) (line : Nat) (m : Machine) (f : Field) :
    Dispatched :=
  match e.vocabulary.find? keyword with
  | none => ⟨.error (.unknownCommand keyword line), m, f⟩
  | some command =>
    match command.perform e.settings.motion line f with
    | (.ok d, f') => ⟨.ok d, m.next, f'⟩
    | (.error failure, f') => ⟨.error failure, m, f'⟩

/-- Dispatches the start of a loop: into its body, or past its end. -/
def runLoopStart (code : List Instruction) (guard : String) (line : Nat) (m : Machine) (f : Field) :
    Dispatched :=
  match checkGuard guard f line with
  | .error failure => ⟨.error failure, m, f⟩
  | .ok true => ⟨.ok .silent, { m.next with loops := enterLoop m.loops m.pc }, f⟩
  | .ok false =>
    let left := { m with loops := leaveLoop m.loops m.pc }
    match loopExit code m.pc with
    | .error failure => ⟨.error failure, left, f⟩
    | .ok exit => ⟨.ok .silent, { left with pc := exit }, f⟩

/-- Dispatches the end of a loop: back to the start of the innermost loop. -/
def runLoopEnd (line : Nat) (m : Machine) (f : Field) : Dispatched :=
  match m.loops with
  | [] => ⟨.error (.unmatchedLoopEnd line), m, f⟩
  | start :: _ => ⟨.ok .silent, { m with pc := start }, f⟩

/-- Dispatches the start of a conditional: into its body, or past its end. -/
def runIfStart (code : List Instruction) (condition : String) (line : Nat) (m : Machine)
    (f : Field) : Dispatched :=
  match checkCondition condition f line with
  | .error failure => ⟨.error failure, m, f⟩
  | .ok true => ⟨.ok .silent, m.next, f⟩
  | .ok false =>
    match ifExit code m.pc with
    | .error failure => ⟨.error failure, m, f⟩
    | .ok exit => ⟨.ok .silent, { m with pc := exit }, f⟩

/-- Dispatches an instruction that has been counted. -/
def dispatch (e : Engine) (code : List Instruction) (i : Instruction) (m : Machine) (f : Field) :
    Dispatched :=
  match i.op with
  | .command keyword => runCommand e keyword i.line m f
  | .loopStart guard => runLoopStart code guard i.line m f
  | .loopEnd => runLoopEnd i.line m f
  | .ifStart condition => runIfStart code condition i.line m f
  | .ifEnd => ⟨.ok .silent, m.next, f⟩

/-- Dispatches the next instruction. A machine at the end of its program is halted, and a machine
that has used up its steps fails without counting. -/
def step (e : Engine) (p : Program) (m : Machine) (f : Field) : Dispatched :=
  match p.instructions[m.pc]? with
  | none => ⟨.ok .halted, m, f⟩
  | some i =>
    if e.settings.maxSteps ≤ m.dispatched then
      ⟨.error (.stepLimitExceeded e.settings.maxSteps), m, f⟩
    else dispatch e p.instructions i { m with dispatched := m.dispatched + 1 } f

theorem step_of_isHalted {e : Engine} {p : Program} {m : Machine} {f : Field}
    (h : m.isHalted p) : m.step e p f = ⟨.ok .halted, m, f⟩ := by
  have : p.instructions[m.pc]? = none := List.getElem?_eq_none (by simpa [isHalted] using h)
  rw [step, this]

end Machine

end RobotScript
