import Mathlib.Tactic.Common
import RobotScript.Run.Machine

/-!
What one dispatch does to the machine.

An instruction that succeeds moves the machine in one of the five ways of `Machine.Jump`, and one
that fails points at its own line. Facts about where a machine goes are derived from `jump_dispatch`
without opening the instructions again.
-/

namespace RobotScript

/-! ### Where an instruction leads -/

/-- **How an instruction that succeeds moves the machine.** -/
inductive Machine.Jump (code : List Instruction) (m : Machine) : Machine → Prop
  | next {i : Instruction} (at_pc : code[m.pc]? = some i)
      (not_start : ∀ guard, i.op ≠ .loopStart guard) (not_end : i.op ≠ .loopEnd) :
      Jump code m m.next
  | enter {guard : String} {line : Nat} (at_pc : code[m.pc]? = some ⟨.loopStart guard, line⟩) :
      Jump code m { m.next with loops := enterLoop m.loops m.pc }
  | skipLoop {guard : String} {line exit : Nat}
      (at_pc : code[m.pc]? = some ⟨.loopStart guard, line⟩)
      (found : loopExit code m.pc = .ok exit) :
      Jump code m { m with pc := exit, loops := leaveLoop m.loops m.pc }
  | back {line start : Nat} {rest : List Nat} (at_pc : code[m.pc]? = some ⟨.loopEnd, line⟩)
      (innermost : m.loops = start :: rest) : Jump code m { m with pc := start }
  | skipIf {condition : String} {line exit : Nat}
      (at_pc : code[m.pc]? = some ⟨.ifStart condition, line⟩)
      (found : ifExit code m.pc = .ok exit) :
      Jump code m { m with pc := exit }

section Jumps

variable {e : Engine} {code : List Instruction} {text : String} {line : Nat} {m : Machine}
  {f : Field} {d : Dispatch}

/-- A command that is carried out ticks or is silent. -/
lemma perform_ne_halted {c : Command} {motion : Motion} {f' : Field}
    (h : c.perform motion line f = (.ok d, f')) : d ≠ .halted := by
  unfold Command.perform at h
  split at h
  · cases h
    simp
  · split at h
    · cases h
      simp
    · dsimp only at h
      split at h
      · cases h
        simp
      · cases h

lemma jump_runCommand {keyword : String} (hi : code[m.pc]? = some ⟨.command keyword, line⟩)
    (h : (Machine.runCommand e keyword line m f).result = .ok d) :
    d ≠ .halted ∧ m.Jump code (Machine.runCommand e keyword line m f).machine := by
  unfold Machine.runCommand at h ⊢
  split at h
  · cases h
  · split at h
    · next hp =>
      cases h
      exact ⟨perform_ne_halted hp, .next hi (by simp) (by simp)⟩
    · cases h

lemma jump_runLoopStart (hi : code[m.pc]? = some ⟨.loopStart text, line⟩)
    (h : (Machine.runLoopStart code text line m f).result = .ok d) :
    d ≠ .halted ∧ m.Jump code (Machine.runLoopStart code text line m f).machine := by
  unfold Machine.runLoopStart at h ⊢
  split at h
  · cases h
  · cases h
    exact ⟨by simp, .enter hi⟩
  · dsimp only at h ⊢
    split at h
    · cases h
    · next hexit =>
      cases h
      exact ⟨by simp, .skipLoop hi hexit⟩

lemma jump_runLoopEnd (hi : code[m.pc]? = some ⟨.loopEnd, line⟩)
    (h : (Machine.runLoopEnd line m f).result = .ok d) :
    d ≠ .halted ∧ m.Jump code (Machine.runLoopEnd line m f).machine := by
  unfold Machine.runLoopEnd at h ⊢
  split at h
  · cases h
  · next hloops =>
    cases h
    exact ⟨by simp, hloops ▸ .back hi hloops⟩

lemma jump_runIfStart (hi : code[m.pc]? = some ⟨.ifStart text, line⟩)
    (h : (Machine.runIfStart code text line m f).result = .ok d) :
    d ≠ .halted ∧ m.Jump code (Machine.runIfStart code text line m f).machine := by
  unfold Machine.runIfStart at h ⊢
  split at h
  · cases h
  · cases h
    exact ⟨by simp, .next hi (by simp) (by simp)⟩
  · split at h
    · cases h
    · next hexit =>
      cases h
      exact ⟨by simp, .skipIf hi hexit⟩

/-- **An instruction that succeeds is no halt and jumps.** -/
theorem jump_dispatch {i : Instruction} (hi : code[m.pc]? = some i)
    (h : (Machine.dispatch e code i m f).result = .ok d) :
    d ≠ .halted ∧ m.Jump code (Machine.dispatch e code i m f).machine := by
  obtain ⟨op, line⟩ := i
  cases op with
  | command keyword => exact jump_runCommand hi h
  | loopStart guard => exact jump_runLoopStart hi h
  | loopEnd => exact jump_runLoopEnd hi h
  | ifStart condition => exact jump_runIfStart hi h
  | ifEnd =>
    cases h
    exact ⟨by simp, .next hi (by simp) (by simp)⟩

end Jumps

/-! ### What an instruction fails for -/

section Failures

variable {e : Engine} {code : List Instruction} {text : String} {line start : Nat} {m : Machine}
  {f : Field} {failure : Failure}

lemma line?_checkCondition (h : checkCondition text f line = .error failure) :
    failure.line? = some line := by
  unfold checkCondition at h
  split at h
  · cases h
    rfl
  · cases h

lemma line?_checkGuard (h : checkGuard text f line = .error failure) :
    failure.line? = some line := by
  unfold checkGuard at h
  split at h
  · cases h
  · exact line?_checkCondition h

lemma line?_loopExit (h : loopExit code start = .error failure) :
    failure.line? = some (lineAt code start) := by
  unfold loopExit at h
  split at h
  · cases h
  · cases h
    rfl

lemma line?_ifExit (h : ifExit code start = .error failure) :
    failure.line? = some (lineAt code start) := by
  unfold ifExit at h
  split at h
  · cases h
  · cases h
    rfl

lemma line?_perform {c : Command} {motion : Motion}
    (h : (c.perform motion line f).1 = .error failure) : failure.line? = some line := by
  unfold Command.perform at h
  split at h
  · cases h
  · split at h
    · cases h
    · dsimp only at h
      split at h
      · cases h
      · cases h
        rfl

lemma line?_runCommand {keyword : String}
    (h : (Machine.runCommand e keyword line m f).result = .error failure) :
    failure.line? = some line := by
  unfold Machine.runCommand at h
  split at h
  · cases h
    rfl
  · split at h
    · cases h
    · next hp =>
      cases h
      exact line?_perform (congrArg Prod.fst hp)

lemma line?_runLoopStart (hline : lineAt code m.pc = line)
    (h : (Machine.runLoopStart code text line m f).result = .error failure) :
    failure.line? = some line := by
  unfold Machine.runLoopStart at h
  split at h
  · next hguard =>
    cases h
    exact line?_checkGuard hguard
  · cases h
  · dsimp only at h
    split at h
    · next hexit =>
      cases h
      rw [line?_loopExit hexit, hline]
    · cases h

lemma line?_runLoopEnd (h : (Machine.runLoopEnd line m f).result = .error failure) :
    failure.line? = some line := by
  unfold Machine.runLoopEnd at h
  split at h
  · cases h
    rfl
  · cases h

lemma line?_runIfStart (hline : lineAt code m.pc = line)
    (h : (Machine.runIfStart code text line m f).result = .error failure) :
    failure.line? = some line := by
  unfold Machine.runIfStart at h
  split at h
  · next hcondition =>
    cases h
    exact line?_checkCondition hcondition
  · cases h
  · split at h
    · next hexit =>
      cases h
      rw [line?_ifExit hexit, hline]
    · cases h

/-- **An instruction that fails points at its line.** -/
theorem line?_dispatch {i : Instruction} (hi : code[m.pc]? = some i)
    (h : (Machine.dispatch e code i m f).result = .error failure) :
    failure.line? = some i.line := by
  have hline : lineAt code m.pc = i.line := by simp [lineAt, hi]
  unfold Machine.dispatch at h
  split at h
  · exact line?_runCommand h
  · exact line?_runLoopStart hline h
  · exact line?_runLoopEnd h
  · exact line?_runIfStart hline h
  · cases h

end Failures

end RobotScript
