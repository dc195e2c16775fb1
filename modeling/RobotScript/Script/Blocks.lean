import RobotScript.Script.Failure
import RobotScript.Script.Program

/-!
Where the blocks of a program end.

A loop ends at the `кц` that closes it when the loops inside it are counted. Conditionals are not
counted: one ends at the first `все` after it, also when another conditional stands in between. The
exit of a block is the index just past its end.
-/

namespace RobotScript

namespace Blocks

/-- How many instructions it takes, up to and including a `кц`, to close a loop inside which
`depth` more loops are open. -/
def loopSpan? : Nat → List Instruction → Option Nat
  | _, [] => none
  | depth, i :: rest =>
    match i.op, depth with
    | .loopStart _, d => (loopSpan? (d + 1) rest).map (· + 1)
    | .loopEnd, 0 => some 1
    | .loopEnd, d + 1 => (loopSpan? d rest).map (· + 1)
    | _, d => (loopSpan? d rest).map (· + 1)

/-- How many instructions lead up to and include the first `все`. -/
def ifSpan? (code : List Instruction) : Option Nat :=
  (code.findIdx? (·.op = .ifEnd)).map (· + 1)

/-- A span is not empty and stays inside the code. -/
theorem loopSpan?_bounds {depth : Nat} {code : List Instruction} {n : Nat}
    (h : loopSpan? depth code = some n) : 0 < n ∧ n ≤ code.length := by
  fun_induction loopSpan? depth code generalizing n with
  | case1 => cases h
  | case3 =>
    cases h
    simp
  | case2 _ _ rest _ _ ih | case4 _ rest _ _ ih | case5 _ _ rest _ _ _ ih =>
    obtain ⟨m, hm, rfl⟩ := Option.map_eq_some_iff.1 h
    have := ih hm
    rw [List.length_cons]
    omega

theorem ifSpan?_bounds {code : List Instruction} {n : Nat} (h : ifSpan? code = some n) :
    0 < n ∧ n ≤ code.length := by
  obtain ⟨i, hi, rfl⟩ := Option.map_eq_some_iff.1 h
  have := (List.findIdx?_eq_some_iff_getElem.1 hi).1
  omega

end Blocks

/-- The exit of the loop that the instruction at `start` opens. -/
def loopExit (code : List Instruction) (start : Nat) : Except Failure Nat :=
  match Blocks.loopSpan? 0 (code.drop (start + 1)) with
  | some span => .ok (start + 1 + span)
  | none => .error (.unterminatedLoop (lineAt code start))

/-- The exit of the conditional that the instruction at `start` opens. -/
def ifExit (code : List Instruction) (start : Nat) : Except Failure Nat :=
  match Blocks.ifSpan? (code.drop (start + 1)) with
  | some span => .ok (start + 1 + span)
  | none => .error (.unterminatedConditional (lineAt code start))

/-- The exit of a loop comes after its start and inside the program or at its end. -/
theorem loopExit_bounds {code : List Instruction} {start exit : Nat}
    (h : loopExit code start = .ok exit) : start + 1 < exit ∧ exit ≤ code.length := by
  unfold loopExit at h
  split at h
  case h_1 span hs =>
    cases h
    have := Blocks.loopSpan?_bounds hs
    rw [List.length_drop] at this
    omega
  case h_2 => cases h

/-- The exit of a conditional comes after its start and inside the program or at its end. -/
theorem ifExit_bounds {code : List Instruction} {start exit : Nat}
    (h : ifExit code start = .ok exit) : start + 1 < exit ∧ exit ≤ code.length := by
  unfold ifExit at h
  split at h
  case h_1 span hs =>
    cases h
    have := Blocks.ifSpan?_bounds hs
    rw [List.length_drop] at this
    omega
  case h_2 => cases h

/-- Why there is no exit. -/
def Blocks.fault? : Except Failure Nat → Option Failure
  | .error e => some e
  | .ok _ => none

/-- Why the block that the instruction at an index opens has no exit. -/
def blockFault? (code : List Instruction) (index : Nat) : Option Failure :=
  match code[index]? with
  | some ⟨.loopStart _, _⟩ => Blocks.fault? (loopExit code index)
  | some ⟨.ifStart _, _⟩ => Blocks.fault? (ifExit code index)
  | _ => none

/-- The first block of a program without an exit. A run meets such a block only when it has to jump
past it, so this is a check to make beforehand. -/
def Program.blockFault? (p : Program) : Option Failure :=
  (List.range p.instructions.length).findSome? (RobotScript.blockFault? p.instructions)

end RobotScript
