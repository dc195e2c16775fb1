import RobotScript.Proofs.Run.Course
import RobotScript.Proofs.Run.Effect

/-!
What a run leaves on the field: where the robot looks, and what is painted.

A movement command turns the robot before anything else, so the robot looks where the last
movement command of the run told it, also if the way was blocked or commands only turn
(`direction_course`). The painted cells are those of the first field and those of the painting
ticks (`mem_painted_course`).
-/

namespace RobotScript

/-! ### The heading -/

/-- The direction that a command makes the robot look in. -/
def Command.direction? : Command → Option Direction
  | move d => some d
  | paint => none

/-- The direction of the movement command that a machine is about to carry out, if there is a step
left for it. -/
def Machine.turn? (e : Engine) (p : Program) (m : Machine) : Option Direction :=
  if m.dispatched < e.settings.maxSteps then
    match p.instructions[m.pc]? with
    | some ⟨.command keyword, _⟩ => (e.vocabulary.find? keyword).bind Command.direction?
    | _ => none
  else none

section Turn

variable {e : Engine} {p : Program} {m : Machine} {f : Field}

lemma direction_perform (c : Command) (motion : Motion) (line : Nat) (f : Field) :
    (c.perform motion line f).2.robot.direction = c.direction?.getD f.robot.direction := by
  cases c with
  | paint => rfl
  | move d =>
    cases motion with
    | orient => rfl
    | step =>
      rcases hfree : f.isFree (f.robot.neighbour d) f.robot.position with _ | _
      · rw [Command.perform_blocked line hfree]
        rfl
      · rw [Command.perform_step line hfree]
        rfl

lemma direction_runCommand (keyword : String) (line : Nat) :
    (Machine.runCommand e keyword line m f).field.robot.direction =
      ((e.vocabulary.find? keyword).bind Command.direction?).getD f.robot.direction := by
  unfold Machine.runCommand
  rcases hw : e.vocabulary.find? keyword with _ | c
  · rfl
  · have hdirection := direction_perform c e.settings.motion line f
    rcases hp : c.perform e.settings.motion line f with ⟨failure | d, g⟩
    · rw [hp] at hdirection
      simp only [hp]
      exact hdirection
    · rw [hp] at hdirection
      simp only [hp]
      exact hdirection

lemma turn?_of_command {keyword : String} {line : Nat} (hlt : m.dispatched < e.settings.maxSteps)
    (hi : p.instructions[m.pc]? = some ⟨.command keyword, line⟩) :
    m.turn? e p = (e.vocabulary.find? keyword).bind Command.direction? := by
  simp [Machine.turn?, hlt, hi]

lemma turn?_of_other {i : Instruction} (hi : p.instructions[m.pc]? = some i)
    (hop : ∀ keyword, i.op ≠ .command keyword) : m.turn? e p = none := by
  obtain ⟨op, line⟩ := i
  cases op with
  | command keyword => exact absurd rfl (hop keyword)
  | loopStart _ | loopEnd | ifStart _ | ifEnd => simp [Machine.turn?, hi]

/-- **A dispatch turns the robot exactly if it carries out a movement command.** -/
theorem direction_advance :
    (advance e p m f).field.robot.direction = (m.turn? e p).getD f.robot.direction := by
  show (m.step e p f).field.robot.direction = _
  rcases hi : p.instructions[m.pc]? with _ | i
  · have hhalted : m.step e p f = ⟨.ok .halted, m, f⟩ := by rw [Machine.step, hi]
    simp [hhalted, Machine.turn?, hi]
  rcases Nat.lt_or_ge m.dispatched e.settings.maxSteps with hlt | hge
  · rw [Machine.step_of_lt hi hlt]
    by_cases hcommand : ∃ keyword, i.op = .command keyword
    · obtain ⟨op, line⟩ := i
      obtain ⟨keyword, rfl⟩ := hcommand
      rw [turn?_of_command hlt hi]
      exact direction_runCommand keyword line
    · have hop : ∀ keyword, i.op ≠ .command keyword := fun keyword h => hcommand ⟨keyword, h⟩
      rw [turn?_of_other hi hop, (quiet_dispatch hop).1]
      rfl
  · have hnone : m.turn? e p = none := if_neg (by omega)
    rw [Machine.step_of_limit hi hge, hnone]
    rfl

end Turn

namespace Engine

variable (e : Engine) (p : Program) (f : Field)

/-- The directions of the movement commands among the first `n` dispatches of a run, the newest
first. Blocked ones count. -/
def turns : Nat → List Direction
  | 0 => []
  | n + 1 =>
    match e.underway? p f n with
    | some u => (u.machine.turn? e p).toList ++ turns n
    | none => turns n

variable {e p f}

/-- **The robot looks where the last movement command told it.** -/
theorem direction_course (n : Nat) :
    (e.course p f n).field.robot.direction =
      (e.turns p f n).head?.getD f.robot.direction := by
  induction n with
  | zero => rfl
  | succ n ih =>
    rcases hu : e.underway? p f n with _ | u
    · rw [course_succ_of_none hu, ih, turns, hu]
    · rw [course_of_underway? hu] at ih
      simp only [course_succ hu, Underway.field_after, direction_advance, ih, turns, hu]
      rcases u.machine.turn? e p with _ | d
      · rfl
      · rfl

end Engine

/-! ### The paint -/

/-- The cell that an event paints. -/
def Event.paintedCell? : Event → Option Cell
  | painted cell _ => some cell
  | _ => none

/-- The cells that a run has painted so far, the newest first. -/
def Underway.paints (u : Underway) : List Cell := u.ticks.filterMap (·.event.paintedCell?)

/-- What a dispatch paints is what its tick tells. -/
lemma Effect.mem_painted_after {e : Engine} {p : Program} {u : Underway} {a : Advance}
    (h : Effect e p u.machine u.field a.progress a.field) {f : Field} {c : Cell}
    (hu : c ∈ u.field.painted ↔ c ∈ f.painted ∨ c ∈ u.paints) :
    c ∈ a.field.painted ↔ c ∈ f.painted ∨ c ∈ (u.after a).paints := by
  obtain ⟨progress, m', g⟩ := a
  cases h with
  | quiet hidden =>
    have hticks := Underway.ticks_after_quiet (u := u) (m := m') (f := u.field) hidden
    rw [Underway.paints, hticks]
    exact hu
  | painted =>
    show c ∈ u.field.paint.2.painted ↔ c ∈ f.painted ∨ c ∈ u.field.robot.position :: u.paints
    rw [Field.mem_painted_paint, hu, List.mem_cons]
    exact or_left_comm
  | turned | moved | refused => exact hu

/-- **The painted cells are those of the first field and those of the painting ticks.** -/
theorem Engine.mem_painted_course {e : Engine} {p : Program} {f : Field} (n : Nat) (c : Cell) :
    c ∈ (e.course p f n).field.painted ↔ c ∈ f.painted ∨ c ∈ (e.course p f n).paints := by
  refine course_induction (motive := fun _ u => c ∈ u.field.painted ↔
    c ∈ f.painted ∨ c ∈ u.paints) ?_ ?_ ?_ n
  · simp [Underway.paints]
  · intro n u _ hu
    exact (effect_advance e p u.machine u.field).mem_painted_after hu
  · exact fun n u hu => hu

end RobotScript
