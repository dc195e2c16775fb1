import RobotScript.Proofs.Run.Resume

/-!
What one dispatch does to the field.

Only commands touch the field. `Effect` lists what can become of it, together with what the dispatch
means to the run, and `effect_advance` says that nothing else happens; facts about whole runs are
derived from it without opening the machine again.
-/

namespace RobotScript

/-! ### Instructions that leave the field alone -/

/-- The dispatch leaves the field alone and has no event to show. -/
def Dispatched.Quiet (d : Dispatched) (f : Field) : Prop :=
  d.field = f ∧
    (d.result = .ok .silent ∨ ∃ failure, d.result = .error failure ∧
      (Progress.failed failure).event? = none)

section Quiet

variable {code : List Instruction} {text : String} {line start : Nat} {f : Field} {m : Machine}
  {failure : Failure}

lemma event?_checkCondition (h : checkCondition text f line = .error failure) :
    (Progress.failed failure).event? = none := by
  unfold checkCondition at h
  split at h
  · cases h
    rfl
  · cases h

lemma event?_checkGuard (h : checkGuard text f line = .error failure) :
    (Progress.failed failure).event? = none := by
  unfold checkGuard at h
  split at h
  · cases h
  · exact event?_checkCondition h

lemma event?_loopExit (h : loopExit code start = .error failure) :
    (Progress.failed failure).event? = none := by
  unfold loopExit at h
  split at h
  · cases h
  · cases h
    rfl

lemma event?_ifExit (h : ifExit code start = .error failure) :
    (Progress.failed failure).event? = none := by
  unfold ifExit at h
  split at h
  · cases h
  · cases h
    rfl

lemma quiet_runLoopStart : (Machine.runLoopStart code text line m f).Quiet f := by
  unfold Machine.runLoopStart
  split
  · next h => exact ⟨rfl, Or.inr ⟨_, rfl, event?_checkGuard h⟩⟩
  · exact ⟨rfl, Or.inl rfl⟩
  · dsimp only
    split
    · next h => exact ⟨rfl, Or.inr ⟨_, rfl, event?_loopExit h⟩⟩
    · exact ⟨rfl, Or.inl rfl⟩

lemma quiet_runLoopEnd : (Machine.runLoopEnd line m f).Quiet f := by
  unfold Machine.runLoopEnd
  split
  · exact ⟨rfl, Or.inr ⟨_, rfl, rfl⟩⟩
  · exact ⟨rfl, Or.inl rfl⟩

lemma quiet_runIfStart : (Machine.runIfStart code text line m f).Quiet f := by
  unfold Machine.runIfStart
  split
  · next h => exact ⟨rfl, Or.inr ⟨_, rfl, event?_checkCondition h⟩⟩
  · exact ⟨rfl, Or.inl rfl⟩
  · split
    · next h => exact ⟨rfl, Or.inr ⟨_, rfl, event?_ifExit h⟩⟩
    · exact ⟨rfl, Or.inl rfl⟩

/-- Only a command can touch the field. -/
lemma quiet_dispatch {e : Engine} {i : Instruction} (h : ∀ keyword, i.op ≠ .command keyword) :
    (Machine.dispatch e code i m f).Quiet f := by
  unfold Machine.dispatch
  split
  · next keyword hop => exact absurd hop (h keyword)
  · exact quiet_runLoopStart
  · exact quiet_runLoopEnd
  · exact quiet_runIfStart
  · exact ⟨rfl, Or.inl rfl⟩

end Quiet

/-! ### What a command does -/

namespace Command

variable {f : Field} {d : Direction}

lemma perform_paint (motion : Motion) (line : Nat) (f : Field) :
    paint.perform motion line f =
      (.ok (.tick (.painted f.robot.position f.paint.1)), f.paint.2) := rfl

lemma perform_turn (d : Direction) (line : Nat) (f : Field) :
    (move d).perform .orient line f = (.ok .silent, f.setDirection d) := rfl

/-- The way of the robot does not depend on its heading. -/
lemma perform_step (line : Nat) (h : f.isFree (f.robot.neighbour d) f.robot.position) :
    (move d).perform .step line f =
      (.ok (.tick (.moved f.robot.position (f.robot.neighbour d) d)),
        (f.setDirection d).moveRobotTo (f.robot.neighbour d)) :=
  if_pos h

lemma perform_blocked (line : Nat)
    (h : f.isFree (f.robot.neighbour d) f.robot.position = false) :
    (move d).perform .step line f =
      (.error (.blockedMove f.robot.position (f.robot.neighbour d) line), f.setDirection d) :=
  if_neg (by rw [Bool.not_eq_true]; exact h)

end Command

/-! ### The effects of a dispatch -/

/-- **What a dispatch can do to the field**, with what it means to the run. -/
inductive Effect (e : Engine) (p : Program) (m : Machine) (f : Field) : Progress → Field → Prop
  | quiet {progress : Progress} (hidden : progress.event? = none) : Effect e p m f progress f
  | painted {keyword : String} {line : Nat}
      (code : p.instructions[m.pc]? = some ⟨.command keyword, line⟩)
      (word : e.vocabulary.find? keyword = some .paint) :
      Effect e p m f
        (.ticked ⟨m.pc, line, .painted f.robot.position f.paint.1, f.robot.position⟩) f.paint.2
  | turned {keyword : String} {line : Nat} {d : Direction}
      (code : p.instructions[m.pc]? = some ⟨.command keyword, line⟩)
      (word : e.vocabulary.find? keyword = some (.move d)) (motion : e.settings.motion = .orient) :
      Effect e p m f .silent (f.setDirection d)
  | moved {keyword : String} {line : Nat} {d : Direction}
      (code : p.instructions[m.pc]? = some ⟨.command keyword, line⟩)
      (word : e.vocabulary.find? keyword = some (.move d)) (motion : e.settings.motion = .step)
      (free : f.isFree (f.robot.neighbour d) f.robot.position) :
      Effect e p m f
        (.ticked ⟨m.pc, line, .moved f.robot.position (f.robot.neighbour d) d, f.robot.neighbour d⟩)
        ((f.setDirection d).moveRobotTo (f.robot.neighbour d))
  | refused {keyword : String} {line : Nat} {d : Direction}
      (code : p.instructions[m.pc]? = some ⟨.command keyword, line⟩)
      (word : e.vocabulary.find? keyword = some (.move d)) (motion : e.settings.motion = .step)
      (blocked : f.isFree (f.robot.neighbour d) f.robot.position = false) :
      Effect e p m f (.failed (.blockedMove f.robot.position (f.robot.neighbour d) line))
        (f.setDirection d)

section Effect

variable {e : Engine} {p : Program} {m : Machine} {f : Field}

lemma effect_of_quiet (h : (m.step e p f).Quiet f) :
    Effect e p m f (advance e p m f).progress (advance e p m f).field := by
  rcases hs : m.step e p f with ⟨result, m', f'⟩
  rw [hs] at h
  obtain ⟨rfl, rfl | ⟨failure, rfl, hevent⟩⟩ := h
  · rw [advance_of_silent hs]
    exact .quiet rfl
  · rw [advance_of_error hs]
    exact .quiet hevent

/-- A command with a step left for it does what the vocabulary says. -/
lemma effect_of_command {keyword : String} {line : Nat}
    (hi : p.instructions[m.pc]? = some ⟨.command keyword, line⟩)
    (hlt : m.dispatched < e.settings.maxSteps) :
    Effect e p m f (advance e p m f).progress (advance e p m f).field := by
  have hline : lineAt p.instructions m.pc = line := by simp [lineAt, hi]
  have hstep := Machine.step_of_lt (f := f) hi hlt
  simp only [Machine.dispatch, Machine.runCommand] at hstep
  rcases hw : e.vocabulary.find? keyword with _ | command
  · rw [hw] at hstep
    rw [advance_of_error hstep]
    exact .quiet rfl
  · simp only [hw] at hstep
    cases command with
    | paint =>
      rw [Command.perform_paint] at hstep
      rw [advance_of_tick hstep, hline]
      exact .painted hi hw
    | move d =>
      rcases hm : e.settings.motion with _ | _
      · rcases hfree : f.isFree (f.robot.neighbour d) f.robot.position with _ | _
        · rw [hm, Command.perform_blocked line hfree] at hstep
          rw [advance_of_error hstep]
          exact .refused hi hw hm hfree
        · rw [hm, Command.perform_step line hfree] at hstep
          rw [advance_of_tick hstep, hline]
          exact .moved hi hw hm hfree
      · rw [hm, Command.perform_turn] at hstep
        rw [advance_of_silent hstep]
        exact .turned hi hw hm

/-- **Every dispatch has one of the effects.** -/
theorem effect_advance (e : Engine) (p : Program) (m : Machine) (f : Field) :
    Effect e p m f (advance e p m f).progress (advance e p m f).field := by
  rcases hi : p.instructions[m.pc]? with _ | ⟨op, line⟩
  · have hs : m.step e p f = ⟨.ok .halted, m, f⟩ := by rw [Machine.step, hi]
    rw [advance_of_halted hs]
    exact .quiet rfl
  · rcases Nat.lt_or_ge m.dispatched e.settings.maxSteps with hlt | hge
    · by_cases hop : ∃ keyword, op = .command keyword
      · obtain ⟨keyword, rfl⟩ := hop
        exact effect_of_command hi hlt
      · refine effect_of_quiet ?_
        rw [Machine.step_of_lt hi hlt]
        exact quiet_dispatch fun keyword h => hop ⟨keyword, h⟩
    · rw [advance_of_error (Machine.step_of_limit hi hge)]
      exact .quiet rfl

/-- No effect touches the size. -/
lemma Effect.size_eq {progress : Progress} {g : Field} (h : Effect e p m f progress g) :
    g.size = f.size := by
  cases h <;> rfl

end Effect

/-! ### The run after a dispatch -/

namespace Underway

variable {u : Underway} {progress : Progress} {m : Machine} {f : Field}

@[simp] lemma field_after (a : Advance) : (u.after a).field = a.field := rfl

lemma ticks_after_ticked (tick : Tick) :
    (u.after ⟨.ticked tick, m, f⟩).ticks = tick :: u.ticks := rfl

/-- A dispatch makes one tick or none. -/
lemma ticks_after_cases (a : Advance) :
    (u.after a).ticks = u.ticks ∨
      ∃ tick, a.progress = .ticked tick ∧ (u.after a).ticks = tick :: u.ticks := by
  obtain ⟨progress, m, f⟩ := a
  cases progress with
  | ticked tick => exact Or.inr ⟨tick, rfl, rfl⟩
  | halted | silent | failed => exact Or.inl rfl

/-- A dispatch without an event makes no tick. -/
lemma ticks_after_quiet (h : progress.event? = none) :
    (u.after ⟨progress, m, f⟩).ticks = u.ticks := by
  cases progress with
  | ticked tick => cases h
  | halted | silent | failed => rfl

lemma sightings_after (a : Advance) {event : Event} (h : a.progress.event? = some event) :
    (u.after a).sightings = ⟨event, a.field⟩ :: u.sightings := by
  rw [after, h]

lemma sightings_after_quiet (h : progress.event? = none) :
    (u.after ⟨progress, m, f⟩).sightings = u.sightings := by
  simp only [after, h]

end Underway

end RobotScript
