import RobotScript.Proofs.Run.Fault
import RobotScript.Proofs.Run.Limit
import RobotScript.Proofs.Run.Turns

/-!
What a dispatch that fails leaves behind, and what another try gives.

A failed dispatch has been counted, and it is not free of traces: a refused step has turned the
robot, and a loop whose guard failed has been left before its end was missed. `step_of_fault` says
that this is all. None of it removes the fault (`Machine.Fault.again`), so a machine that is tried
again fails in the same way until its steps are used up; `failure_sticky` is the statement for any
number of tries.
-/

namespace RobotScript

/-- The failures that an operation can have. -/
def Op.canFail : Op → Failure → Bool
  | command keyword, .unknownCommand word _ => word = keyword
  | command _, .blockedMove .. => true
  | loopStart guard, .invalidCondition text _ _ => text = guard
  | loopStart _, .unterminatedLoop _ => true
  | loopEnd, .unmatchedLoopEnd _ => true
  | ifStart condition, .invalidCondition text _ _ => text = condition
  | ifStart _, .unterminatedConditional _ => true
  | _, _ => false

namespace Machine

/-- The machine that fails for a cause. A loop without an end has been left by then. -/
def giveUp (m : Machine) : Failure → Machine
  | .unterminatedLoop _ => { m with loops := leaveLoop m.loops m.pc }
  | _ => m

/-- The last of `n + 1` dispatches of a machine, each on the field that the one before it left. -/
def tried (e : Engine) (p : Program) (m : Machine) (f : Field) : Nat → Dispatched
  | 0 => m.step e p f
  | n + 1 => (m.tried e p f n).machine.step e p (m.tried e p f n).field

section GiveUp

variable {m : Machine}

@[simp] lemma pc_giveUp (failure : Failure) : (m.giveUp failure).pc = m.pc := by
  cases failure <;> rfl

@[simp] lemma dispatched_giveUp (failure : Failure) :
    (m.giveUp failure).dispatched = m.dispatched := by
  cases failure <;> rfl

end GiveUp

/-! ### A dispatch that fails -/

section Fault

variable {e : Engine} {p : Program} {m : Machine} {f : Field} {failure : Failure}

/-- **A fault is all that a dispatch has to show.** The machine is at its index, a step is counted,
and the robot looks where a movement command told it. -/
theorem step_of_fault (h : m.Fault e p.instructions f failure)
    (hlt : m.dispatched < e.settings.maxSteps) :
    m.step e p f =
      ⟨.error failure, m.counted.giveUp failure, (m.turn? e p).elim f f.setDirection⟩ := by
  cases h with
  | unknownWord at_pc unknown =>
    rw [step_of_lt at_pc hlt, turn?_of_command hlt at_pc, unknown]
    simp only [dispatch, runCommand, unknown]
    rfl
  | @wall keyword line d at_pc word motion blocked =>
    rw [step_of_lt at_pc hlt, turn?_of_command hlt at_pc, word]
    simp only [dispatch, runCommand, word, motion, Command.perform_blocked line blocked]
    rfl
  | @guard text line reason at_pc written unread =>
    have hguard : checkGuard text f line = .error (.invalidCondition text line reason) := by
      simp only [checkGuard, if_neg written, checkCondition, Condition.evaluate, unread]
    rw [step_of_lt at_pc hlt, turn?_of_other at_pc (by simp)]
    simp only [dispatch, runLoopStart, hguard]
    rfl
  | @openLoop text line at_pc leaves noEnd =>
    have hexit : loopExit p.instructions m.pc = .error (.unterminatedLoop line) :=
      loopExit_eq_error_iff.2 ⟨noEnd, by rw [lineAt_of_getElem? at_pc]⟩
    rw [step_of_lt at_pc hlt, turn?_of_other at_pc (by simp)]
    simp only [dispatch, runLoopStart, leaves, hexit]
    rfl
  | strayEnd at_pc outside =>
    rw [step_of_lt at_pc hlt, turn?_of_other at_pc (by simp)]
    simp only [dispatch, runLoopEnd, outside, counted, giveUp]
    rfl
  | @condition text line reason at_pc unread =>
    have hcondition : checkCondition text f line = .error (.invalidCondition text line reason) := by
      simp only [checkCondition, Condition.evaluate, unread]
    rw [step_of_lt at_pc hlt, turn?_of_other at_pc (by simp)]
    simp only [dispatch, runIfStart, hcondition]
    rfl
  | @openConditional text line at_pc skips noEnd =>
    have hexit : ifExit p.instructions m.pc = .error (.unterminatedConditional line) :=
      ifExit_eq_error_iff.2 ⟨noEnd, by rw [lineAt_of_getElem? at_pc]⟩
    rw [step_of_lt at_pc hlt, turn?_of_other at_pc (by simp)]
    simp only [dispatch, runIfStart, skips, hexit]
    rfl

/-- **What a failed dispatch leaves behind does not mend its fault.** -/
theorem Fault.again (h : m.Fault e p.instructions f failure)
    (hlt : m.dispatched < e.settings.maxSteps) :
    (m.counted.giveUp failure).Fault e p.instructions ((m.turn? e p).elim f f.setDirection)
      failure := by
  cases h with
  | unknownWord at_pc unknown => exact .unknownWord at_pc unknown
  | @wall keyword line d at_pc word motion blocked =>
    -- the way of the robot does not depend on its heading
    rw [turn?_of_command hlt at_pc, word]
    exact .wall (f := f.setDirection d) at_pc word motion blocked
  | guard at_pc written unread => exact .guard at_pc written unread
  | openLoop at_pc leaves noEnd =>
    rw [turn?_of_other at_pc (by simp)]
    exact .openLoop at_pc leaves noEnd
  | strayEnd at_pc outside => exact .strayEnd at_pc outside
  | condition at_pc unread => exact .condition at_pc unread
  | openConditional at_pc skips noEnd =>
    rw [turn?_of_other at_pc (by simp)]
    exact .openConditional at_pc skips noEnd

/-- A fault names the instruction of the machine. -/
lemma Fault.at_pc (h : m.Fault e p.instructions f failure) :
    ∃ i, p.instructions[m.pc]? = some i ∧ failure.line? = some i.line ∧ i.op.canFail failure := by
  cases h with
  | unknownWord at_pc | wall at_pc | guard at_pc | openLoop at_pc | strayEnd at_pc
  | condition at_pc | openConditional at_pc => exact ⟨_, at_pc, rfl, by simp [Op.canFail]⟩

/-- **How a dispatch fails**: for the limit, and nothing changes, or for a fault of its instruction
with a step left for it. -/
theorem step_error_cases (h : (m.step e p f).result = .error failure) :
    (failure = .stepLimitExceeded e.settings.maxSteps ∧ m.step e p f = ⟨.error failure, m, f⟩) ∨
    (m.dispatched < e.settings.maxSteps ∧ m.Fault e p.instructions f failure) := by
  rcases hi : p.instructions[m.pc]? with _ | i
  · rw [step_of_isHalted (isHalted_of_getElem? hi)] at h
    cases h
  rcases Nat.lt_or_ge m.dispatched e.settings.maxSteps with hlt | hge
  · rcases fault_step h with ⟨-, hge⟩ | hfault
    · omega
    · exact Or.inr ⟨hlt, hfault⟩
  · rw [step_of_limit hi hge] at h ⊢
    cases h
    exact Or.inl ⟨rfl, rfl⟩

/-- Only a refused step turns the robot. -/
lemma Fault.turn?_eq_none (h : m.Fault e p.instructions f failure)
    (hne : ∀ start goal line, failure ≠ .blockedMove start goal line) : m.turn? e p = none := by
  cases h with
  | @unknownWord keyword line at_pc unknown =>
    simp [turn?, at_pc, unknown]
  | wall => exact absurd rfl (hne _ _ _)
  | guard at_pc | openLoop at_pc | strayEnd at_pc | condition at_pc | openConditional at_pc =>
    exact turn?_of_other at_pc (by simp)

/-! ### Trying again -/

/-- **A machine that is stuck**: its instruction has a fault, and the robot looks where a movement
command would turn it, so a dispatch does not even turn it. -/
structure Stuck (e : Engine) (p : Program) (m : Machine) (f : Field) (failure : Failure) :
    Prop where
  fault : m.Fault e p.instructions f failure
  heading {d : Direction} : m.turn? e p = some d → f.setDirection d = f

/-- Counting a dispatch that fails can only use up the steps for the next one. -/
lemma turn?_of_giveUp {d : Direction} (h : (m.counted.giveUp failure).turn? e p = some d) :
    m.turn? e p = some d := by
  unfold turn? at h ⊢
  rw [pc_giveUp, dispatched_giveUp] at h
  split at h
  · next hlt =>
    have hlt' : m.dispatched < e.settings.maxSteps := Nat.lt_of_succ_lt hlt
    rw [if_pos hlt']
    exact h
  · cases h

/-- A machine is stuck after a failed dispatch. -/
lemma Fault.stuck (h : m.Fault e p.instructions f failure)
    (hlt : m.dispatched < e.settings.maxSteps) :
    (m.counted.giveUp failure).Stuck e p ((m.turn? e p).elim f f.setDirection) failure := by
  refine ⟨h.again hlt, fun {d} hd => ?_⟩
  rw [turn?_of_giveUp hd]
  rfl

/-- **A machine that is stuck fails, stays stuck and leaves the field alone.** -/
theorem Stuck.step (h : m.Stuck e p f failure) (hlt : m.dispatched < e.settings.maxSteps) :
    m.step e p f = ⟨.error failure, m.counted.giveUp failure, f⟩ ∧
      (m.counted.giveUp failure).Stuck e p f failure := by
  have hfield : (m.turn? e p).elim f f.setDirection = f := by
    rcases hd : m.turn? e p with _ | d
    · rfl
    · exact h.heading hd
  have hstep := step_of_fault h.fault hlt
  have hstuck := h.fault.stuck hlt
  rw [hfield] at hstep hstuck
  exact ⟨hstep, hstuck⟩

/-- **However often a failed dispatch is tried again, the machine stays stuck.** -/
theorem stuck_tried (hlt : m.dispatched < e.settings.maxSteps)
    (h : m.Fault e p.instructions f failure) (n : Nat) :
    (m.tried e p f n).machine.Stuck e p (m.tried e p f n).field failure := by
  induction n with
  | zero =>
    rw [tried, step_of_fault h hlt]
    exact h.stuck hlt
  | succ n ih =>
    rw [tried]
    obtain ⟨i, hi, -⟩ := ih.fault.at_pc
    rcases Nat.lt_or_ge (m.tried e p f n).machine.dispatched e.settings.maxSteps with hlt | hge
    · obtain ⟨hstep, hstuck⟩ := ih.step hlt
      rw [hstep]
      exact hstuck
    · rw [step_of_limit hi hge]
      exact ih

/-- A machine that has used up its steps fails for the limit, however often it is tried. -/
lemma tried_of_limit {n k : Nat} {i : Instruction}
    (hi : p.instructions[(m.tried e p f n).machine.pc]? = some i)
    (hge : e.settings.maxSteps ≤ (m.tried e p f n).machine.dispatched) (hk : n < k) :
    m.tried e p f k = ⟨.error (.stepLimitExceeded e.settings.maxSteps), (m.tried e p f n).machine,
      (m.tried e p f n).field⟩ := by
  induction hk with
  | refl => exact step_of_limit hi hge
  | step _ ih =>
    rw [tried, ih]
    exact step_of_limit hi hge

/-- **A failed dispatch fails again** as long as there are steps, and for the limit from then on. -/
theorem result_tried (h : (m.step e p f).result = .error failure) (n : Nat) :
    ((m.tried e p f n).machine.dispatched < e.settings.maxSteps →
      (m.tried e p f (n + 1)).result = .error failure) ∧
    (e.settings.maxSteps ≤ (m.tried e p f n).machine.dispatched → ∀ k, n < k →
      (m.tried e p f k).result = .error (.stepLimitExceeded e.settings.maxSteps)) := by
  rcases step_error_cases h with ⟨rfl, hstep⟩ | ⟨hlt, hfault⟩
  · have htried : ∀ k,
        m.tried e p f k = ⟨.error (.stepLimitExceeded e.settings.maxSteps), m, f⟩ := by
      intro k
      induction k with
      | zero => exact hstep
      | succ k ih => rw [tried, ih, hstep]
    exact ⟨fun _ => by rw [htried], fun _ k _ => by rw [htried]⟩
  · have hstuck := stuck_tried hlt hfault n
    obtain ⟨i, hi, -⟩ := hstuck.fault.at_pc
    refine ⟨fun hlt => ?_, fun hge k hk => ?_⟩
    · rw [tried, (hstuck.step hlt).1]
    · rw [tried_of_limit hi hge hk]

end Fault

end Machine

/-- **Failed dispatches are contained and sticky**, whatever the machine. One that fails leaves the
machine at its index. It leaves the field alone, but a step that is refused has turned the robot
towards the cell it was to go to. The limit changes nothing at all; every other failure is counted
once, and it names the line of the instruction at the index, which is one that can fail so. If the
machine is tried again, on the field that is left and as often as one likes, it fails for the same
cause as long as it has steps, and for the limit from then on. -/
theorem failure_sticky {e : Engine} {p : Program} {m : Machine} {f : Field} {failure : Failure}
    (h : (m.step e p f).result = .error failure) :
    (m.step e p f).machine.pc = m.pc ∧
    ((∀ start goal line, failure ≠ .blockedMove start goal line) → (m.step e p f).field = f) ∧
    (∀ start goal line, failure = .blockedMove start goal line → ∃ keyword d,
      p.instructions[m.pc]? = some ⟨.command keyword, line⟩ ∧
      e.vocabulary.find? keyword = some (.move d) ∧
      start = f.robot.position ∧ goal = f.robot.neighbour d ∧
      (m.step e p f).field = f.setDirection d) ∧
    (∀ limit, failure = .stepLimitExceeded limit → m.step e p f = ⟨.error failure, m, f⟩) ∧
    ((∀ limit, failure ≠ .stepLimitExceeded limit) →
      (m.step e p f).machine.dispatched = m.dispatched + 1 ∧
      ∃ i, p.instructions[m.pc]? = some i ∧ failure.line? = some i.line ∧ i.op.canFail failure) ∧
    ∀ n,
      ((m.tried e p f n).machine.dispatched < e.settings.maxSteps →
        (m.tried e p f (n + 1)).result = .error failure) ∧
      (e.settings.maxSteps ≤ (m.tried e p f n).machine.dispatched → ∀ k, n < k →
        (m.tried e p f k).result = .error (.stepLimitExceeded e.settings.maxSteps)) := by
  rcases Machine.step_error_cases h with ⟨rfl, hstep⟩ | ⟨hlt, hfault⟩
  · refine ⟨by rw [hstep], fun _ => by rw [hstep], ?_, fun _ _ => hstep, ?_, Machine.result_tried h⟩
    · rintro start goal line ⟨⟩
    · exact fun hne => absurd rfl (hne _)
  · have hstep := Machine.step_of_fault hfault hlt
    refine ⟨by rw [hstep, Machine.pc_giveUp]; rfl, fun hne => ?_, ?_, ?_,
      fun _ => ⟨?_, hfault.at_pc⟩, Machine.result_tried h⟩
    · rw [hstep, hfault.turn?_eq_none hne]
      rfl
    · rintro start goal line rfl
      cases hfault with
      | wall at_pc word =>
        rw [turn?_of_command hlt at_pc, word] at hstep
        exact ⟨_, _, at_pc, word, rfl, rfl, by rw [hstep]; rfl⟩
    · rintro limit rfl
      cases hfault
    · rw [hstep, Machine.dispatched_giveUp]
      rfl

/-- A robot in the corner is refused a step up three times and turns for the first, and a loop
without an end that was come back to is missed twice, after it has been left. -/
theorem failure_sticky_of_wall :
    let e : Engine := { settings := { maxSteps := 3 } }
    let p : Program := ⟨[⟨.command "вверх", 4⟩], []⟩
    let q : Program := ⟨[⟨.loopStart "слева свободно", 1⟩, ⟨.ifStart "слева свободно", 2⟩,
      ⟨.loopStart "", 3⟩, ⟨.ifEnd, 4⟩, ⟨.loopEnd, 5⟩], []⟩
    let f : Field := default
    let m : Machine := {}
    let back : Machine := ⟨0, [0], 1⟩
    ((m.step e p f).result = .error (.blockedMove ⟨0, 0⟩ ⟨0, -1⟩ 4) ∧
      (m.step e p f).field = f.setDirection .north ∧
      (m.tried e p f 2).result = .error (.blockedMove ⟨0, 0⟩ ⟨0, -1⟩ 4) ∧
      ∀ k, 2 < k → (m.tried e p f k).result = .error (.stepLimitExceeded 3)) ∧
    ((back.step e q f).result = .error (.unterminatedLoop 1) ∧
      (back.step e q f).machine = ⟨0, [], 2⟩ ∧ (back.step e q f).field = f ∧
      (back.tried e q f 1).result = .error (.unterminatedLoop 1)) := by
  intro e p q f m back
  have hwall : (m.step e p f).result = .error (.blockedMove ⟨0, 0⟩ ⟨0, -1⟩ 4) := by decide +kernel
  have hloop : (back.step e q f).result = .error (.unterminatedLoop 1) := by decide +kernel
  obtain ⟨-, -, -, -, -, hagain⟩ := failure_sticky hwall
  obtain ⟨-, hfield, -, -, -, hmissed⟩ := failure_sticky hloop
  refine ⟨⟨hwall, by decide +kernel, (hagain 1).1 (by decide +kernel), ?_⟩, hloop,
    by decide +kernel, hfield (by simp), (hmissed 0).1 (by decide +kernel)⟩
  exact (hagain 2).2 (by decide +kernel)

end RobotScript
