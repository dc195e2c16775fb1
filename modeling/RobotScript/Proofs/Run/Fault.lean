import RobotScript.Proofs.Run.Course
import RobotScript.Proofs.Run.Effect

/-!
Why a dispatch fails.

`Machine.Fault` lists the causes for which the instruction of a machine can fail, each with what the
machine found at that instruction. `fault_step` says that a dispatch fails for one of them or for
the step limit, and `fault_execute` says it of the last dispatch of an execution; what a run can and
cannot fail for is derived from these without opening the instructions again.
-/

namespace RobotScript

/-- **Why the instruction of a machine fails on a field.** -/
inductive Machine.Fault (e : Engine) (code : List Instruction) (m : Machine) (f : Field) :
    Failure → Prop
  | unknownWord {keyword : String} {line : Nat}
      (at_pc : code[m.pc]? = some ⟨.command keyword, line⟩)
      (unknown : e.vocabulary.find? keyword = none) :
      Fault e code m f (.unknownCommand keyword line)
  | wall {keyword : String} {line : Nat} {d : Direction}
      (at_pc : code[m.pc]? = some ⟨.command keyword, line⟩)
      (word : e.vocabulary.find? keyword = some (.move d)) (motion : e.settings.motion = .step)
      (blocked : f.isFree (f.robot.neighbour d) f.robot.position = false) :
      Fault e code m f (.blockedMove f.robot.position (f.robot.neighbour d) line)
  | guard {text : String} {line : Nat} {reason : Condition.Error}
      (at_pc : code[m.pc]? = some ⟨.loopStart text, line⟩) (written : text ≠ "")
      (unread : Condition.read text = .error reason) :
      Fault e code m f (.invalidCondition text line reason)
  | openLoop {text : String} {line : Nat} (at_pc : code[m.pc]? = some ⟨.loopStart text, line⟩)
      (leaves : checkGuard text f line = .ok false)
      (noEnd : Blocks.loopSpan? 0 (code.drop (m.pc + 1)) = none) :
      Fault e code m f (.unterminatedLoop line)
  | strayEnd {line : Nat} (at_pc : code[m.pc]? = some ⟨.loopEnd, line⟩) (outside : m.loops = []) :
      Fault e code m f (.unmatchedLoopEnd line)
  | condition {text : String} {line : Nat} {reason : Condition.Error}
      (at_pc : code[m.pc]? = some ⟨.ifStart text, line⟩)
      (unread : Condition.read text = .error reason) :
      Fault e code m f (.invalidCondition text line reason)
  | openConditional {text : String} {line : Nat} (at_pc : code[m.pc]? = some ⟨.ifStart text, line⟩)
      (skips : checkCondition text f line = .ok false)
      (noEnd : Blocks.ifSpan? (code.drop (m.pc + 1)) = none) :
      Fault e code m f (.unterminatedConditional line)

section Instructions

variable {e : Engine} {code : List Instruction} {text keyword : String} {line start : Nat}
  {m : Machine} {f : Field} {failure : Failure}

/-! ### Conditions and exits -/

lemma checkCondition_eq_error (h : checkCondition text f line = .error failure) :
    ∃ reason, Condition.read text = .error reason ∧
      failure = .invalidCondition text line reason := by
  unfold checkCondition Condition.evaluate at h
  rcases hread : Condition.read text with reason | c
  · simp only [hread] at h
    cases h
    exact ⟨reason, rfl, rfl⟩
  · simp only [hread] at h
    cases h

lemma checkGuard_eq_error (h : checkGuard text f line = .error failure) :
    text ≠ "" ∧ ∃ reason, Condition.read text = .error reason ∧
      failure = .invalidCondition text line reason := by
  by_cases hempty : text = ""
  · rw [checkGuard, if_pos hempty] at h
    cases h
  · rw [checkGuard, if_neg hempty] at h
    exact ⟨hempty, checkCondition_eq_error h⟩

lemma loopExit_eq_error_iff :
    loopExit code start = .error failure ↔
      Blocks.loopSpan? 0 (code.drop (start + 1)) = none ∧
        failure = .unterminatedLoop (lineAt code start) := by
  unfold loopExit
  split
  · next hspan => simp [hspan]
  · next hspan => simp [hspan, eq_comm]

lemma ifExit_eq_error_iff :
    ifExit code start = .error failure ↔
      Blocks.ifSpan? (code.drop (start + 1)) = none ∧
        failure = .unterminatedConditional (lineAt code start) := by
  unfold ifExit
  split
  · next hspan => simp [hspan]
  · next hspan => simp [hspan, eq_comm]

lemma lineAt_of_getElem? {i : Instruction} (hi : code[start]? = some i) :
    lineAt code start = i.line := by
  simp [lineAt, hi]

/-! ### The causes of each instruction -/

/-- A command that fails is a step into a wall. -/
lemma perform_eq_error {c : Command} {motion : Motion} {g : Field}
    (h : c.perform motion line f = (.error failure, g)) :
    ∃ d, c = .move d ∧ motion = .step ∧
      f.isFree (f.robot.neighbour d) f.robot.position = false ∧
      failure = .blockedMove f.robot.position (f.robot.neighbour d) line := by
  cases c with
  | paint =>
    rw [Command.perform_paint] at h
    cases h
  | move d =>
    cases motion with
    | orient =>
      rw [Command.perform_turn] at h
      cases h
    | step =>
      rcases hfree : f.isFree (f.robot.neighbour d) f.robot.position with _ | _
      · rw [Command.perform_blocked line hfree] at h
        cases h
        exact ⟨d, rfl, rfl, hfree, rfl⟩
      · rw [Command.perform_step line hfree] at h
        cases h

lemma fault_runCommand (hi : code[m.pc]? = some ⟨.command keyword, line⟩)
    (h : (Machine.runCommand e keyword line m f).result = .error failure) :
    m.Fault e code f failure := by
  unfold Machine.runCommand at h
  rcases hw : e.vocabulary.find? keyword with _ | c
  · simp only [hw] at h
    cases h
    exact .unknownWord hi hw
  · rcases hp : c.perform e.settings.motion line f with ⟨failure' | d, g⟩
    · obtain ⟨d, rfl, hmotion, hblocked, rfl⟩ := perform_eq_error hp
      simp only [hw, hp] at h
      cases h
      exact .wall hi hw hmotion hblocked
    · simp only [hw, hp] at h
      cases h

lemma fault_runLoopStart (hi : code[m.pc]? = some ⟨.loopStart text, line⟩)
    (h : (Machine.runLoopStart code text line m f).result = .error failure) :
    m.Fault e code f failure := by
  unfold Machine.runLoopStart at h
  rcases hguard : checkGuard text f line with failure' | holds
  · simp only [hguard] at h
    cases h
    obtain ⟨hwritten, reason, hread, rfl⟩ := checkGuard_eq_error hguard
    exact .guard hi hwritten hread
  · cases holds with
    | true =>
      simp only [hguard] at h
      cases h
    | false =>
      rcases hexit : loopExit code m.pc with failure' | exit
      · simp only [hguard, hexit] at h
        cases h
        obtain ⟨hspan, rfl⟩ := loopExit_eq_error_iff.1 hexit
        rw [lineAt_of_getElem? hi]
        exact .openLoop hi hguard hspan
      · simp only [hguard, hexit] at h
        cases h

lemma fault_runLoopEnd (hi : code[m.pc]? = some ⟨.loopEnd, line⟩)
    (h : (Machine.runLoopEnd line m f).result = .error failure) : m.Fault e code f failure := by
  unfold Machine.runLoopEnd at h
  rcases hloops : m.loops with _ | ⟨start, outer⟩
  · simp only [hloops] at h
    cases h
    exact .strayEnd hi hloops
  · simp only [hloops] at h
    cases h

lemma fault_runIfStart (hi : code[m.pc]? = some ⟨.ifStart text, line⟩)
    (h : (Machine.runIfStart code text line m f).result = .error failure) :
    m.Fault e code f failure := by
  unfold Machine.runIfStart at h
  rcases hcondition : checkCondition text f line with failure' | holds
  · simp only [hcondition] at h
    cases h
    obtain ⟨reason, hread, rfl⟩ := checkCondition_eq_error hcondition
    exact .condition hi hread
  · cases holds with
    | true =>
      simp only [hcondition] at h
      cases h
    | false =>
      rcases hexit : ifExit code m.pc with failure' | exit
      · simp only [hcondition, hexit] at h
        cases h
        obtain ⟨hspan, rfl⟩ := ifExit_eq_error_iff.1 hexit
        rw [lineAt_of_getElem? hi]
        exact .openConditional hi hcondition hspan
      · simp only [hcondition, hexit] at h
        cases h

/-- **An instruction that fails has a fault.** -/
theorem fault_dispatch {i : Instruction} (hi : code[m.pc]? = some i)
    (h : (Machine.dispatch e code i m f).result = .error failure) : m.Fault e code f failure := by
  obtain ⟨op, line⟩ := i
  cases op with
  | command keyword => exact fault_runCommand hi h
  | loopStart guard => exact fault_runLoopStart hi h
  | loopEnd => exact fault_runLoopEnd hi h
  | ifStart condition => exact fault_runIfStart hi h
  | ifEnd => cases h

end Instructions

/-! ### Dispatches and executions -/

section Runs

variable {e : Engine} {p : Program} {m : Machine} {f : Field} {failure : Failure}

/-- **A dispatch fails for the step limit or for a fault of its instruction.** -/
theorem fault_step (h : (m.step e p f).result = .error failure) :
    failure = .stepLimitExceeded e.settings.maxSteps ∧ e.settings.maxSteps ≤ m.dispatched ∨
      m.Fault e p.instructions f failure := by
  rcases hi : p.instructions[m.pc]? with _ | i
  · have hhalted : m.step e p f = ⟨.ok .halted, m, f⟩ := by rw [Machine.step, hi]
    rw [hhalted] at h
    cases h
  · rcases Nat.lt_or_ge m.dispatched e.settings.maxSteps with hlt | hge
    · right
      rw [Machine.step_of_lt hi hlt] at h
      -- a fault looks at the index and the loops of the machine, which counting leaves alone
      cases fault_dispatch (m := { m with dispatched := m.dispatched + 1 }) hi h with
      | unknownWord at_pc unknown => exact .unknownWord at_pc unknown
      | wall at_pc word motion blocked => exact .wall at_pc word motion blocked
      | guard at_pc written unread => exact .guard at_pc written unread
      | openLoop at_pc leaves noEnd => exact .openLoop at_pc leaves noEnd
      | strayEnd at_pc outside => exact .strayEnd at_pc outside
      | condition at_pc unread => exact .condition at_pc unread
      | openConditional at_pc skips noEnd => exact .openConditional at_pc skips noEnd
    · left
      rw [Machine.step_of_limit hi hge] at h
      cases h
      exact ⟨rfl, hge⟩

lemma result_step_of_failed (h : (advance e p m f).progress = .failed failure) :
    (m.step e p f).result = .error failure := by
  rcases hs : m.step e p f with ⟨failure' | _ | _ | _, m', f'⟩
  · rw [advance_of_error hs] at h
    cases h
    rfl
  · rw [advance_of_tick hs] at h
    cases h
  · rw [advance_of_silent hs] at h
    cases h
  · rw [advance_of_halted hs] at h
    cases h

/-- **An execution fails for the step limit or for a fault of its last instruction.** -/
theorem fault_execute (h : (e.execute p f).result = .error failure) :
    failure = .stepLimitExceeded e.settings.maxSteps ∨
      ∃ n u, e.underway? p f n = some u ∧ u.machine.Fault e p.instructions u.field failure := by
  obtain ⟨n, u, hu, -, ⟨-, hx⟩ | ⟨failure', hprogress, hx⟩⟩ := Engine.execute_cases e p f
  · rw [hx] at h
    cases h
  · rw [hx] at h
    cases h
    rcases fault_step (result_step_of_failed hprogress) with ⟨hlimit, -⟩ | hfault
    · exact Or.inl hlimit
    · exact Or.inr ⟨n, u, hu, hfault⟩

end Runs

end RobotScript
