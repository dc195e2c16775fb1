import Mathlib.Tactic.Common
import RobotScript.Run.Report

/-!
A run seen from any point of it.

`Engine.runFor` counts down a number of dispatches. A run that has made `n` of its `maxSteps`
dispatches has `maxSteps + 1 - n` left to try, so the number is a function of the run itself:
`Engine.resume` goes on with a run to its end, and `Engine.resume_eq` unrolls one dispatch of it.
`Engine.underway?` is the run after a number of dispatches, and `Engine.execute_eq_resume` says that
the whole run goes through it.
-/

namespace RobotScript

/-! ### What a dispatch counts -/

namespace Machine

variable (e : Engine) (code : List Instruction) (line : Nat) (m : Machine) (f : Field)

lemma dispatched_runCommand (keyword : String) :
    (runCommand e keyword line m f).machine.dispatched = m.dispatched := by
  unfold runCommand
  split
  · rfl
  · split <;> rfl

lemma dispatched_runLoopStart (guard : String) :
    (runLoopStart code guard line m f).machine.dispatched = m.dispatched := by
  unfold runLoopStart
  split
  · rfl
  · rfl
  · dsimp only
    split <;> rfl

lemma dispatched_runLoopEnd : (runLoopEnd line m f).machine.dispatched = m.dispatched := by
  unfold runLoopEnd
  split <;> rfl

lemma dispatched_runIfStart (condition : String) :
    (runIfStart code condition line m f).machine.dispatched = m.dispatched := by
  unfold runIfStart
  split
  · rfl
  · rfl
  · split <;> rfl

/-- An instruction does not touch the count, which is raised before it is dispatched. -/
theorem dispatched_dispatch (i : Instruction) :
    (dispatch e code i m f).machine.dispatched = m.dispatched := by
  unfold dispatch
  split
  · exact dispatched_runCommand e i.line m f _
  · exact dispatched_runLoopStart code i.line m f _
  · exact dispatched_runLoopEnd i.line m f
  · exact dispatched_runIfStart code i.line m f _
  · rfl

variable {e m f} {p : Program} {i : Instruction}

/-- A machine that has used up its steps fails and stays as it is. -/
theorem step_of_limit (hi : p.instructions[m.pc]? = some i)
    (h : e.settings.maxSteps ≤ m.dispatched) :
    m.step e p f = ⟨.error (.stepLimitExceeded e.settings.maxSteps), m, f⟩ := by
  rw [step, hi]
  exact if_pos h

/-- A machine with a step left counts it and dispatches its instruction. -/
theorem step_of_lt (hi : p.instructions[m.pc]? = some i)
    (h : m.dispatched < e.settings.maxSteps) :
    m.step e p f = dispatch e p.instructions i { m with dispatched := m.dispatched + 1 } f := by
  rw [step, hi]
  exact if_neg (by omega)

end Machine

/-! ### Whether a run goes on -/

/-- Whether a run goes on after a dispatch. -/
def Progress.goesOn : Progress → Bool
  | silent => true
  | ticked _ => true
  | _ => false

section Advance

variable {e : Engine} {p : Program} {m : Machine} {f : Field}

@[simp] lemma machine_advance : (advance e p m f).machine = (m.step e p f).machine := rfl

lemma advance_of_halted {m' : Machine} {f' : Field} (h : m.step e p f = ⟨.ok .halted, m', f'⟩) :
    advance e p m f = ⟨.halted, m', f'⟩ := by
  rw [advance, h]

lemma advance_of_silent {m' : Machine} {f' : Field} (h : m.step e p f = ⟨.ok .silent, m', f'⟩) :
    advance e p m f = ⟨.silent, m', f'⟩ := by
  rw [advance, h]

lemma advance_of_tick {event : Event} {m' : Machine} {f' : Field}
    (h : m.step e p f = ⟨.ok (.tick event), m', f'⟩) :
    advance e p m f =
      ⟨.ticked ⟨m.pc, lineAt p.instructions m.pc, event, f'.robot.position⟩, m', f'⟩ := by
  rw [advance, h]

lemma advance_of_error {failure : Failure} {m' : Machine} {f' : Field}
    (h : m.step e p f = ⟨.error failure, m', f'⟩) :
    advance e p m f = ⟨.failed failure, m', f'⟩ := by
  rw [advance, h]

/-- A run goes on exactly after a dispatch that succeeded and was no halt. -/
lemma goesOn_advance_iff :
    (advance e p m f).progress.goesOn ↔ ∃ d, (m.step e p f).result = .ok d ∧ d ≠ .halted := by
  rcases hs : m.step e p f with ⟨failure | d, m', f'⟩
  · simp [advance, hs, Progress.goesOn]
  · cases d <;> simp [advance, hs, Progress.goesOn]

/-- **A dispatch after which the run goes on has been counted**, and there was a step left for it. -/
theorem dispatched_of_goesOn (h : (advance e p m f).progress.goesOn) :
    m.dispatched < e.settings.maxSteps ∧
      (advance e p m f).machine.dispatched = m.dispatched + 1 := by
  obtain ⟨d, hd, hne⟩ := goesOn_advance_iff.1 h
  rw [machine_advance]
  rcases hi : p.instructions[m.pc]? with _ | i
  · have hs : m.step e p f = ⟨.ok .halted, m, f⟩ := by rw [Machine.step, hi]
    rw [hs] at hd
    cases hd
    exact absurd rfl hne
  · rcases Nat.lt_or_ge m.dispatched e.settings.maxSteps with hlt | hge
    · rw [Machine.step_of_lt hi hlt, Machine.dispatched_dispatch]
      exact ⟨hlt, rfl⟩
    · rw [Machine.step_of_limit hi hge] at hd
      cases hd

end Advance

/-! ### The rest of a run -/

namespace Engine

variable (e : Engine) (p : Program)

/-- Goes on with a run to its end. -/
def resume (u : Underway) : Execution :=
  e.runFor p (e.settings.maxSteps + 1 - u.machine.dispatched) u

theorem execute_eq_resume (f : Field) : e.execute p f = e.resume p { field := f } := rfl

variable {e p} {u : Underway}

/-- A run with dispatches to try makes one, and its progress decides what follows. -/
lemma resume_of_le (h : u.machine.dispatched ≤ e.settings.maxSteps) :
    e.resume p u =
      match (advance e p u.machine u.field).progress with
      | .halted => (u.after (advance e p u.machine u.field)).finish p
      | .failed failure => (u.after (advance e p u.machine u.field)).fail failure
      | _ => e.runFor p (e.settings.maxSteps - u.machine.dispatched)
          (u.after (advance e p u.machine u.field)) := by
  unfold resume
  rw [show e.settings.maxSteps + 1 - u.machine.dispatched =
    e.settings.maxSteps - u.machine.dispatched + 1 by omega]
  rfl

/-- A run that finds its program at the end is finished. -/
theorem resume_of_halted (h : u.machine.dispatched ≤ e.settings.maxSteps)
    (ha : (advance e p u.machine u.field).progress = .halted) :
    e.resume p u = (u.after (advance e p u.machine u.field)).finish p := by
  rw [resume_of_le h, ha]

/-- A run whose dispatch fails has failed. -/
theorem resume_of_failed {failure : Failure} (h : u.machine.dispatched ≤ e.settings.maxSteps)
    (ha : (advance e p u.machine u.field).progress = .failed failure) :
    e.resume p u = (u.after (advance e p u.machine u.field)).fail failure := by
  rw [resume_of_le h, ha]

/-- **One dispatch of the rest of a run.** -/
theorem resume_of_goesOn (ha : (advance e p u.machine u.field).progress.goesOn) :
    e.resume p u = e.resume p (u.after (advance e p u.machine u.field)) := by
  obtain ⟨hlt, hd⟩ := dispatched_of_goesOn ha
  have hfuel : e.settings.maxSteps - u.machine.dispatched = e.settings.maxSteps + 1 -
      (u.after (advance e p u.machine u.field)).machine.dispatched := by
    show _ = _ - (advance e p u.machine u.field).machine.dispatched
    omega
  rw [resume_of_le (by omega), hfuel]
  rcases hp : (advance e p u.machine u.field).progress with _ | _ | t | failure
  · rw [hp] at ha
    cases ha
  · rfl
  · rfl
  · rw [hp] at ha
    cases ha

/-- No run of the engine is stopped on request. -/
lemma cancelled_runFor {fuel : Nat} {r : Report} (h : (e.runFor p fuel u).result = .ok r) :
    r.cancelled = false := by
  induction fuel generalizing u with
  | zero => cases h
  | succ fuel ih =>
    rw [runFor] at h
    split at h
    · cases h
      rfl
    · cases h
    · exact ih h

/-! ### The run after a number of dispatches -/

variable (e p)

/-- The run of a program on a field after a number of dispatches, if it has not ended by then. -/
def underway? (f : Field) : Nat → Option Underway
  | 0 => some { field := f }
  | n + 1 =>
    (underway? f n).bind fun u =>
      let a := advance e p u.machine u.field
      if a.progress.goesOn then some (u.after a) else none

variable {e p} {f : Field} {n : Nat}

/-- A run goes on to the next dispatch. -/
theorem underway?_succ (hu : e.underway? p f n = some u)
    (ha : (advance e p u.machine u.field).progress.goesOn) :
    e.underway? p f (n + 1) = some (u.after (advance e p u.machine u.field)) := by
  rw [underway?, hu]
  exact if_pos ha

/-- What is known of a run after `n + 1` dispatches. -/
lemma underway?_succ_eq_some {u' : Underway} (h : e.underway? p f (n + 1) = some u') :
    ∃ u, e.underway? p f n = some u ∧ (advance e p u.machine u.field).progress.goesOn ∧
      u' = u.after (advance e p u.machine u.field) := by
  obtain ⟨u, hu, h⟩ := Option.bind_eq_some_iff.1 h
  dsimp only at h
  split at h
  · next ha => exact ⟨u, hu, ha, (Option.some.inj h).symm⟩
  · cases h

/-- **A run counts its dispatches**, and there are no more of them than steps. -/
theorem dispatched_of_underway? (h : e.underway? p f n = some u) :
    u.machine.dispatched = n ∧ n ≤ e.settings.maxSteps := by
  induction n generalizing u with
  | zero =>
    cases h
    exact ⟨rfl, Nat.zero_le _⟩
  | succ n ih =>
    obtain ⟨u', hu', ha, rfl⟩ := underway?_succ_eq_some h
    obtain ⟨hlt, hd⟩ := dispatched_of_goesOn ha
    have := (ih hu').1
    refine ⟨?_, by omega⟩
    show (advance e p u'.machine u'.field).machine.dispatched = n + 1
    omega

/-- **The whole run goes through each of its points.** -/
theorem execute_eq_of_underway? (h : e.underway? p f n = some u) :
    e.execute p f = e.resume p u := by
  induction n generalizing u with
  | zero =>
    cases h
    rfl
  | succ n ih =>
    obtain ⟨u', hu', ha, rfl⟩ := underway?_succ_eq_some h
    rw [ih hu', resume_of_goesOn ha]

end Engine

end RobotScript
