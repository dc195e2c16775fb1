import RobotScript.Proofs.Run.Collision
import RobotScript.Proofs.Run.Turns

/-!
The heading of the robot and the paint have no part in what a run does.

Conditions and steps ask for the walls around the robot and for nothing else. So two runs of one
program on fields with the same ground, which differ in paint and heading only, go the same way
dispatch by dispatch (`advance_alike`): they tell the same but for whether a painted cell was
fresh. The main statement is `execute_alike`.
-/

namespace RobotScript

/-! ### Fields with the same ground -/

/-- **Two fields have the same ground**: they differ in the paint and the heading of the robot
only. -/
structure Field.SameGround (f g : Field) : Prop where
  size : f.size = g.size
  walls : f.walls = g.walls
  position : f.robot.position = g.robot.position

namespace Field.SameGround

variable {f g : Field} {text : String} {line : Nat}

lemma neighbour_eq (h : f.SameGround g) (d : Direction) :
    f.robot.neighbour d = g.robot.neighbour d := by
  rw [Robot.neighbour, h.position, Robot.neighbour]

lemma isFree_eq (h : f.SameGround g) (d : Direction) :
    f.isFree (f.robot.neighbour d) f.robot.position =
      g.isFree (g.robot.neighbour d) g.robot.position := by
  rw [Field.isFree_congr h.size h.walls, h.neighbour_eq d, h.position]

/-- A condition asks for the ground only. -/
lemma holds_eq (h : f.SameGround g) (c : Condition) : c.holds f = c.holds g := by
  unfold Condition.holds
  rw [h.isFree_eq c.side]

lemma checkCondition_eq (h : f.SameGround g) :
    checkCondition text f line = checkCondition text g line := by
  unfold checkCondition Condition.evaluate
  rcases Condition.read text with reason | c
  · rfl
  · simp only [h.holds_eq c]

lemma checkGuard_eq (h : f.SameGround g) : checkGuard text f line = checkGuard text g line := by
  rw [checkGuard, checkGuard, h.checkCondition_eq]

lemma turned (h : f.SameGround g) (d : Direction) :
    (f.setDirection d).SameGround (g.setDirection d) :=
  ⟨h.size, h.walls, h.position⟩

lemma moved (h : f.SameGround g) (d : Direction) :
    ((f.setDirection d).moveRobotTo (f.robot.neighbour d)).SameGround
      ((g.setDirection d).moveRobotTo (g.robot.neighbour d)) :=
  ⟨h.size, h.walls, h.neighbour_eq d⟩

lemma painted (h : f.SameGround g) : f.paint.2.SameGround g.paint.2 :=
  ⟨h.size, h.walls, h.position⟩

end Field.SameGround

/-! ### What is told, but for freshness -/

/-- The event without whether a painted cell was fresh. -/
def Event.plain : Event → Event
  | painted cell _ => .painted cell false
  | event => event

def Tick.plain (t : Tick) : Tick := { t with event := t.event.plain }

def Dispatch.plain : Dispatch → Dispatch
  | tick event => .tick event.plain
  | dispatch => dispatch

def Progress.plain : Progress → Progress
  | ticked t => .ticked t.plain
  | progress => progress

def Report.plain (r : Report) : Report := { r with ticks := r.ticks.map Tick.plain }

lemma Event.paintedCell?_plain (event : Event) : event.plain.paintedCell? = event.paintedCell? := by
  cases event <;> rfl

/-! ### One dispatch on each of two fields -/

/-- **Two dispatches are alike**: they tell the same but for freshness, leave the same machine, and
leave fields with the same ground. -/
structure Dispatched.Alike (d d' : Dispatched) : Prop where
  result : d.result.map Dispatch.plain = d'.result.map Dispatch.plain
  machine : d.machine = d'.machine
  ground : d.field.SameGround d'.field

section Dispatch

variable {e : Engine} {p : Program} {code : List Instruction} {m : Machine} {f g : Field}
  {text : String} {line : Nat}

lemma perform_alike (h : f.SameGround g) (c : Command) (motion : Motion) (line : Nat) :
    (c.perform motion line f).1.map Dispatch.plain =
        (c.perform motion line g).1.map Dispatch.plain ∧
      (c.perform motion line f).2.SameGround (c.perform motion line g).2 := by
  cases c with
  | paint =>
    rw [Command.perform_paint, Command.perform_paint, h.position]
    exact ⟨rfl, h.painted⟩
  | move d =>
    cases motion with
    | orient => exact ⟨rfl, h.turned d⟩
    | step =>
      have hway := h.isFree_eq d
      rcases hfree : f.isFree (f.robot.neighbour d) f.robot.position with _ | _
      · rw [Command.perform_blocked line hfree, Command.perform_blocked line (hway.symm.trans hfree),
          h.neighbour_eq d, h.position]
        exact ⟨rfl, h.turned d⟩
      · rw [Command.perform_step line hfree, Command.perform_step line (hway.symm.trans hfree)]
        refine ⟨?_, h.moved d⟩
        rw [h.neighbour_eq d, h.position]

lemma runCommand_alike (h : f.SameGround g) (keyword : String) :
    (Machine.runCommand e keyword line m f).Alike (Machine.runCommand e keyword line m g) := by
  unfold Machine.runCommand
  rcases e.vocabulary.find? keyword with _ | c
  · exact ⟨rfl, rfl, h⟩
  · obtain ⟨hresult, hground⟩ := perform_alike h c e.settings.motion line
    dsimp only
    generalize c.perform e.settings.motion line f = x at hresult hground ⊢
    generalize c.perform e.settings.motion line g = y at hresult hground ⊢
    obtain ⟨failure | d, f'⟩ := x
    · obtain ⟨failure' | d', g'⟩ := y
      · exact ⟨hresult, rfl, hground⟩
      · cases hresult
    · obtain ⟨failure' | d', g'⟩ := y
      · cases hresult
      · exact ⟨hresult, rfl, hground⟩

lemma runLoopStart_alike (h : f.SameGround g) :
    (Machine.runLoopStart code text line m f).Alike (Machine.runLoopStart code text line m g) := by
  unfold Machine.runLoopStart
  rw [h.checkGuard_eq]
  rcases checkGuard text g line with x | _ | _
  · exact ⟨rfl, rfl, h⟩
  · rcases loopExit code m.pc with x | exit
    · exact ⟨rfl, rfl, h⟩
    · exact ⟨rfl, rfl, h⟩
  · exact ⟨rfl, rfl, h⟩

lemma runLoopEnd_alike (h : f.SameGround g) :
    (Machine.runLoopEnd line m f).Alike (Machine.runLoopEnd line m g) := by
  unfold Machine.runLoopEnd
  rcases m.loops with _ | ⟨start, outer⟩
  · exact ⟨rfl, rfl, h⟩
  · exact ⟨rfl, rfl, h⟩

lemma runIfStart_alike (h : f.SameGround g) :
    (Machine.runIfStart code text line m f).Alike (Machine.runIfStart code text line m g) := by
  unfold Machine.runIfStart
  rw [h.checkCondition_eq]
  rcases checkCondition text g line with x | _ | _
  · exact ⟨rfl, rfl, h⟩
  · rcases ifExit code m.pc with x | exit
    · exact ⟨rfl, rfl, h⟩
    · exact ⟨rfl, rfl, h⟩
  · exact ⟨rfl, rfl, h⟩

lemma dispatch_alike (h : f.SameGround g) (i : Instruction) :
    (Machine.dispatch e code i m f).Alike (Machine.dispatch e code i m g) := by
  obtain ⟨op, line⟩ := i
  cases op with
  | command keyword => exact runCommand_alike h keyword
  | loopStart guard => exact runLoopStart_alike h
  | loopEnd => exact runLoopEnd_alike h
  | ifStart condition => exact runIfStart_alike h
  | ifEnd => exact ⟨rfl, rfl, h⟩

lemma step_alike (h : f.SameGround g) : (m.step e p f).Alike (m.step e p g) := by
  unfold Machine.step
  rcases p.instructions[m.pc]? with _ | i
  · exact ⟨rfl, rfl, h⟩
  · by_cases hlimit : e.settings.maxSteps ≤ m.dispatched
    · simp only [hlimit, if_true]
      exact ⟨rfl, rfl, h⟩
    · simp only [hlimit, if_false]
      exact dispatch_alike h i

/-- **Two advances are alike**: they mean the same to a run but for freshness. -/
structure Advance.Alike (a b : Advance) : Prop where
  progress : a.progress.plain = b.progress.plain
  machine : a.machine = b.machine
  ground : a.field.SameGround b.field

lemma plain_advance :
    (advance e p m f).progress.plain =
      match (m.step e p f).result.map Dispatch.plain with
      | .ok .halted => .halted
      | .ok .silent => .silent
      | .ok (.tick event) =>
        .ticked ⟨m.pc, lineAt p.instructions m.pc, event, (m.step e p f).field.robot.position⟩
      | .error failure => .failed failure := by
  unfold advance
  rcases m.step e p f with ⟨x | d, m', f'⟩
  · rfl
  · cases d <;> rfl

/-- **On the same ground a machine makes the same dispatch.** -/
theorem advance_alike (h : f.SameGround g) : (advance e p m f).Alike (advance e p m g) := by
  obtain ⟨hresult, hmachine, hground⟩ := step_alike (e := e) (p := p) (m := m) h
  refine ⟨?_, hmachine, hground⟩
  rw [plain_advance, plain_advance, hresult, hground.position]

end Dispatch

/-! ### Two runs -/

/-- **Two runs are alike**: they have done the same but for freshness, and they are at the same
point on the same ground. -/
structure Underway.Alike (u v : Underway) : Prop where
  machine : u.machine = v.machine
  ground : u.field.SameGround v.field
  ticks : u.ticks.map Tick.plain = v.ticks.map Tick.plain

section Runs

variable {e : Engine} {p : Program} {f g : Field} {u v : Underway} {a b : Advance}

lemma Progress.goesOn_plain (q : Progress) : q.plain.goesOn = q.goesOn := by
  cases q <;> rfl

lemma Underway.plain_ticks_after (u : Underway) (a : Advance) :
    (u.after a).ticks.map Tick.plain =
      match a.progress.plain with
      | .ticked t => t :: u.ticks.map Tick.plain
      | _ => u.ticks.map Tick.plain := by
  obtain ⟨progress, m', f'⟩ := a
  cases progress <;> rfl

lemma Underway.Alike.after (h : u.Alike v) (ha : a.Alike b) : (u.after a).Alike (v.after b) := by
  refine ⟨ha.machine, ha.ground, ?_⟩
  rw [Underway.plain_ticks_after, Underway.plain_ticks_after, ha.progress, h.ticks]

lemma Underway.Alike.advance (h : u.Alike v) :
    (advance e p u.machine u.field).Alike (advance e p v.machine v.field) := by
  rw [← h.machine]
  exact advance_alike h.ground

lemma Underway.Alike.paints_eq (h : u.Alike v) : u.paints = v.paints := by
  have hpaints : ∀ w : Underway,
      w.paints = (w.ticks.map Tick.plain).filterMap (·.event.paintedCell?) := by
    intro w
    rw [Underway.paints, List.filterMap_map]
    congr 1
    funext t
    exact (Event.paintedCell?_plain t.event).symm
  rw [hpaints u, hpaints v, h.ticks]

/-- **Two executions are alike**: they have the same result but for freshness, and they end at the
same point on the same ground. -/
structure Execution.Alike (x y : Execution) : Prop where
  result : x.result.map Report.plain = y.result.map Report.plain
  last : x.last.Alike y.last

lemma Underway.Alike.finish (h : u.Alike v) : (u.finish p).Alike (v.finish p) := by
  refine ⟨?_, h⟩
  have hticks : u.ticks.reverse.map Tick.plain = v.ticks.reverse.map Tick.plain := by
    rw [List.map_reverse, List.map_reverse, h.ticks]
  simp only [Underway.finish, Except.map, Report.plain, hticks, h.machine]

namespace Engine

/-- How a run goes on does not depend on freshness. -/
lemma runFor_succ_plain (fuel : Nat) :
    e.runFor p (fuel + 1) u =
      match (advance e p u.machine u.field).progress.plain with
      | .halted => (u.after (advance e p u.machine u.field)).finish p
      | .failed failure => (u.after (advance e p u.machine u.field)).fail failure
      | _ => e.runFor p fuel (u.after (advance e p u.machine u.field)) := by
  rw [runFor]
  rcases (advance e p u.machine u.field).progress with _ | _ | t | x <;> rfl

/-- **The rests of two runs that are alike are alike.** -/
theorem runFor_alike (h : u.Alike v) (fuel : Nat) :
    (e.runFor p fuel u).Alike (e.runFor p fuel v) := by
  induction fuel generalizing u v with
  | zero => exact ⟨rfl, h⟩
  | succ fuel ih =>
    have ha := h.advance (e := e) (p := p)
    have hafter := h.after ha
    rw [runFor_succ_plain, runFor_succ_plain, ha.progress]
    split
    · exact hafter.finish
    · exact ⟨rfl, hafter⟩
    · exact ih hafter

/-- **After as many dispatches two runs on the same ground are alike**, or both have ended. -/
theorem underway?_alike (h : f.SameGround g) (n : Nat) :
    Option.Rel Underway.Alike (e.underway? p f n) (e.underway? p g n) := by
  induction n with
  | zero => exact .some ⟨rfl, h, rfl⟩
  | succ n ih =>
    rw [underway?, underway?]
    generalize e.underway? p f n = x at ih ⊢
    generalize e.underway? p g n = y at ih ⊢
    cases ih with
    | none => exact .none
    | some hu =>
      have ha := hu.advance (e := e) (p := p)
      have hgoes := congrArg Progress.goesOn ha.progress
      rw [Progress.goesOn_plain, Progress.goesOn_plain] at hgoes
      simp only [Option.bind_some, hgoes]
      split
      · exact .some (hu.after ha)
      · exact .none

/-- Runs on the same ground carry out the same movement commands. -/
lemma turns_eq (h : f.SameGround g) (n : Nat) : e.turns p f n = e.turns p g n := by
  induction n with
  | zero => rfl
  | succ n ih =>
    have hrel := underway?_alike (e := e) (p := p) h n
    rw [turns, turns, ih]
    generalize e.underway? p f n = x at hrel ⊢
    generalize e.underway? p g n = y at hrel ⊢
    cases hrel with
    | none => rfl
    | some hu => simp only [hu.machine]

end Engine

end Runs

/-- **The heading and the paint have no part in what a run does.** Let two fields have the same
ground: size, walls and the cell of the robot. Then the executions of any program on them have the
same result, the report or the failure, and the same ticks, but for whether painted cells were
fresh; they make the same number of dispatches and end on the same ground. Each adds the same
cells to its paint, those of the painting ticks. They carry out the same movement commands, after
which the robots look the same way; if there was none, each looks where it looked at first. -/
theorem execute_alike (e : Engine) (p : Program) {f g : Field} (h : f.SameGround g) :
    (e.execute p f).result.map Report.plain = (e.execute p g).result.map Report.plain ∧
    (e.execute p f).last.machine = (e.execute p g).last.machine ∧
    (e.execute p f).last.ticks.map Tick.plain = (e.execute p g).last.ticks.map Tick.plain ∧
    (e.execute p f).field.SameGround (e.execute p g).field ∧
    (∀ c, (c ∈ (e.execute p f).field.painted ↔
        c ∈ f.painted ∨ c ∈ (e.execute p f).last.paints) ∧
      (c ∈ (e.execute p g).field.painted ↔
        c ∈ g.painted ∨ c ∈ (e.execute p f).last.paints)) ∧
    e.turns p f (e.settings.maxSteps + 1) = e.turns p g (e.settings.maxSteps + 1) ∧
    (e.turns p f (e.settings.maxSteps + 1) ≠ [] →
      (e.execute p f).field.robot.direction = (e.execute p g).field.robot.direction) ∧
    (e.turns p f (e.settings.maxSteps + 1) = [] →
      (e.execute p f).field.robot.direction = f.robot.direction ∧
      (e.execute p g).field.robot.direction = g.robot.direction) := by
  have halike : (e.execute p f).Alike (e.execute p g) :=
    Engine.runFor_alike (u := { field := f }) (v := { field := g }) ⟨rfl, h, rfl⟩ _
  have hturns := Engine.turns_eq (e := e) (p := p) h (e.settings.maxSteps + 1)
  have hdirection : ∀ f, (e.execute p f).field.robot.direction =
      (e.turns p f (e.settings.maxSteps + 1)).head?.getD f.robot.direction := by
    intro f
    rw [Execution.field, Engine.last_execute, Engine.direction_course]
  have hpainted : ∀ f c, c ∈ (e.execute p f).field.painted ↔
      c ∈ f.painted ∨ c ∈ (e.execute p f).last.paints := by
    intro f c
    rw [Execution.field, Engine.last_execute]
    exact Engine.mem_painted_course _ c
  refine ⟨halike.result, halike.last.machine, halike.last.ticks, halike.last.ground,
    fun c => ⟨hpainted f c, ?_⟩, hturns, fun hsome => ?_, fun hnone => ⟨?_, ?_⟩⟩
  · rw [halike.last.paints_eq]
    exact hpainted g c
  · obtain ⟨d, earlier, hd⟩ := List.exists_cons_of_ne_nil hsome
    rw [hdirection f, hdirection g, ← hturns, hd]
    rfl
  · rw [hdirection f, hnone]
    rfl
  · rw [hdirection g, ← hturns, hnone]
    rfl

/-- A robot that looks north on a painted cell and one that looks east on an unpainted one paint,
try to leave the field to the west and end looking there. -/
theorem execute_alike_of_refused :
    let p : Program := ⟨[⟨.command "закрасить", 1⟩, ⟨.ifStart "слева стена", 2⟩,
      ⟨.command "влево", 3⟩, ⟨.ifEnd, 4⟩], []⟩
    let f : Field := default
    let g : Field := (f.setDirection .north).paint.2
    let e : Engine := { settings := { maxSteps := 5 } }
    f.SameGround g ∧ f ≠ g ∧ e.turns p f (e.settings.maxSteps + 1) ≠ [] ∧
      (e.execute p f).result = .error (.blockedMove ⟨0, 0⟩ ⟨-1, 0⟩ 3) ∧
      (e.execute p f).result.map Report.plain = (e.execute p g).result.map Report.plain ∧
      (e.execute p f).field.robot.direction = (e.execute p g).field.robot.direction := by
  intro p f g e
  have hground : f.SameGround g := ⟨rfl, rfl, rfl⟩
  have hturns : e.turns p f (e.settings.maxSteps + 1) ≠ [] := by decide +kernel
  have halike := execute_alike e p hground
  exact ⟨hground, by decide, hturns, by decide +kernel, halike.1, halike.2.2.2.2.2.2.1 hturns⟩

end RobotScript
