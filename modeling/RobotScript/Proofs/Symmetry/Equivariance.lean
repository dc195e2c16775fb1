import RobotScript.Proofs.Run.Effect
import RobotScript.Proofs.Symmetry.Script

/-!
Runs are the same seen in a mirror.

A symmetry acts on all that a run shows and leaves behind, cell by cell and direction by direction.
`step_symmetric` says that the dispatch of the image of a program on the image of a field is the
image of the dispatch; `execute_symmetric` says it of whole executions and for all symmetries that
the mirrors generate.
-/

namespace RobotScript.Symmetry

variable (g : Symmetry)

/-! ### The image of a run -/

def event : Event → Event
  | .moved start goal d => .moved (g.cell start) (g.cell goal) (g.direction d)
  | .painted cell fresh => .painted (g.cell cell) fresh
  | .wallHit start goal => .wallHit (g.cell start) (g.cell goal)

/-- Only a refused step tells of cells. -/
def failure : Failure → Failure
  | .blockedMove start goal line => .blockedMove (g.cell start) (g.cell goal) line
  | other => other

def tick (t : Tick) : Tick := ⟨t.index, t.line, g.event t.event, g.cell t.position⟩

def sighting (s : Sighting) : Sighting := ⟨g.event s.event, g.field s.field⟩

def report (r : Report) : Report := { r with ticks := r.ticks.map g.tick }

/-- The image of a result, given the image of a success. -/
def result {α : Type} (success : α → α) : Except Failure α → Except Failure α
  | .ok a => .ok (success a)
  | .error x => .error (g.failure x)

def dispatch : Dispatch → Dispatch
  | .tick event => .tick (g.event event)
  | .silent => .silent
  | .halted => .halted

def dispatched (d : Dispatched) : Dispatched :=
  ⟨g.result g.dispatch d.result, d.machine, g.field d.field⟩

def progress : Progress → Progress
  | .ticked t => .ticked (g.tick t)
  | .failed x => .failed (g.failure x)
  | .silent => .silent
  | .halted => .halted

def advanced (a : Advance) : Advance := ⟨g.progress a.progress, a.machine, g.field a.field⟩

def underway (u : Underway) : Underway :=
  ⟨u.machine, g.field u.field, u.ticks.map g.tick, u.sightings.map g.sighting⟩

/-- The image of an execution: of its result, its field, its ticks and all it showed. -/
def execution (x : Execution) : Execution := ⟨g.result g.report x.result, g.underway x.last⟩

variable {g} {e : Engine} {p : Program} {code : List Instruction} {m : Machine} {f : Field}
  {line : Nat}

/-- A failure without an event tells of no cells. -/
lemma failure_of_quiet {x : Failure} (h : (Progress.failed x).event? = none) : g.failure x = x := by
  cases x with
  | blockedMove => cases h
  | _ => rfl

lemma event?_progress (q : Progress) : (g.progress q).event? = q.event?.map g.event := by
  cases q with
  | failed x => cases x <;> rfl
  | halted | silent | ticked => rfl

/-! ### One dispatch -/

/-- A command of the image does to the image what the command does. -/
lemma perform_symmetric (hg : g.Lawful f.size) (c : Command) (motion : Motion) (line : Nat) :
    (g.command c).perform motion line (g.field f) =
      (g.result g.dispatch (c.perform motion line f).1, g.field (c.perform motion line f).2) := by
  cases c with
  | paint =>
    show Command.paint.perform motion line (g.field f) = _
    rw [Command.perform_paint, Command.perform_paint, paint_field hg]
    rfl
  | move d =>
    show (Command.move (g.direction d)).perform motion line (g.field f) = _
    have hgoal : (g.field f).robot.neighbour (g.direction d) = g.cell (f.robot.neighbour d) :=
      neighbour_robot hg f.robot d
    have hway := isFree_field hg (f.robot.neighbour d) f.robot.position
    rw [← hgoal] at hway
    cases motion with
    | orient => rfl
    | step =>
      rcases hfree : f.isFree (f.robot.neighbour d) f.robot.position with _ | _
      · rw [Command.perform_blocked line hfree, Command.perform_blocked line (hway.trans hfree),
          hgoal]
        rfl
      · rw [Command.perform_step line hfree, Command.perform_step line (hway.trans hfree), hgoal]
        rfl

lemma runCommand_symmetric (hg : g.Lawful f.size) (keyword : String) :
    Machine.runCommand (g.engine e) keyword line m (g.field f) =
      g.dispatched (Machine.runCommand e keyword line m f) := by
  have hword : (g.engine e).vocabulary.find? keyword =
      (e.vocabulary.find? keyword).map g.command := find?_vocabulary g e.vocabulary keyword
  have hmotion : (g.engine e).settings.motion = e.settings.motion := rfl
  unfold Machine.runCommand
  rw [hword, hmotion]
  rcases e.vocabulary.find? keyword with _ | c
  · rfl
  · simp only [Option.map_some, perform_symmetric hg]
    rcases c.perform e.settings.motion line f with ⟨x | d, f'⟩ <;> rfl

lemma runLoopStart_symmetric (hg : g.Lawful f.size) (guard : String) :
    Machine.runLoopStart (code.map g.instruction) (g.text guard) line m (g.field f) =
      g.dispatched (Machine.runLoopStart code guard line m f) := by
  unfold Machine.runLoopStart
  rw [checkGuard_text hg]
  rcases hguard : checkGuard guard f line with x | b
  · simp only [dispatched, result, failure_of_quiet (event?_checkGuard hguard)]
  · cases b with
    | true => rfl
    | false =>
      simp only [loopExit_code]
      rcases hexit : loopExit code m.pc with x | exit
      · simp only [dispatched, result, failure_of_quiet (event?_loopExit hexit)]
      · rfl

lemma runIfStart_symmetric (hg : g.Lawful f.size) (condition : String) :
    Machine.runIfStart (code.map g.instruction) (g.text condition) line m (g.field f) =
      g.dispatched (Machine.runIfStart code condition line m f) := by
  unfold Machine.runIfStart
  rw [checkCondition_text hg]
  rcases hcondition : checkCondition condition f line with x | b
  · simp only [dispatched, result, failure_of_quiet (event?_checkCondition hcondition)]
  · cases b with
    | true => rfl
    | false =>
      simp only [ifExit_code]
      rcases hexit : ifExit code m.pc with x | exit
      · simp only [dispatched, result, failure_of_quiet (event?_ifExit hexit)]
      · rfl

lemma dispatch_symmetric (hg : g.Lawful f.size) (i : Instruction) :
    Machine.dispatch (g.engine e) (code.map g.instruction) (g.instruction i) m (g.field f) =
      g.dispatched (Machine.dispatch e code i m f) := by
  obtain ⟨op, line⟩ := i
  cases op with
  | command keyword => exact runCommand_symmetric hg keyword
  | loopStart guard => exact runLoopStart_symmetric hg guard
  | loopEnd =>
    show Machine.runLoopEnd line m (g.field f) = g.dispatched (Machine.runLoopEnd line m f)
    unfold Machine.runLoopEnd
    cases m.loops <;> rfl
  | ifStart condition => exact runIfStart_symmetric hg condition
  | ifEnd => rfl

/-- **The dispatch of the image is the image of the dispatch.** -/
theorem step_symmetric (hg : g.Lawful f.size) :
    m.step (g.engine e) (g.program p) (g.field f) = g.dispatched (m.step e p f) := by
  have hcode : (g.program p).instructions[m.pc]? = p.instructions[m.pc]?.map g.instruction :=
    List.getElem?_map
  unfold Machine.step
  rw [hcode]
  rcases p.instructions[m.pc]? with _ | i
  · rfl
  · show (if e.settings.maxSteps ≤ m.dispatched then _ else _) = g.dispatched (if _ then _ else _)
    by_cases hlimit : e.settings.maxSteps ≤ m.dispatched
    · rw [if_pos hlimit, if_pos hlimit]
      rfl
    · rw [if_neg hlimit, if_neg hlimit]
      exact dispatch_symmetric hg i

lemma advance_symmetric (hg : g.Lawful f.size) :
    advance (g.engine e) (g.program p) m (g.field f) = g.advanced (advance e p m f) := by
  have hline : lineAt (g.program p).instructions m.pc = lineAt p.instructions m.pc :=
    lineAt_code p.instructions m.pc
  unfold advance
  rw [step_symmetric hg, hline]
  rcases m.step e p f with ⟨x | d, m', f'⟩
  · rfl
  · cases d <;> rfl

/-! ### Whole runs -/

section Runs

variable {u : Underway} {size : Int}

lemma after_symmetric (a : Advance) :
    (g.underway u).after (g.advanced a) = g.underway (u.after a) := by
  obtain ⟨q, m', f'⟩ := a
  have hevent := event?_progress (g := g) q
  have hticks : ((g.underway u).after (g.advanced ⟨q, m', f'⟩)).ticks =
      (g.underway (u.after ⟨q, m', f'⟩)).ticks := by
    cases q <;> rfl
  have hsightings : ((g.underway u).after (g.advanced ⟨q, m', f'⟩)).sightings =
      (g.underway (u.after ⟨q, m', f'⟩)).sightings := by
    rcases hq : q.event? with _ | event
    · rw [hq] at hevent
      simp only [Underway.after, underway, advanced, hevent, hq, Option.map_none]
    · rw [hq] at hevent
      simp only [Underway.after, underway, advanced, hevent, hq, Option.map_some, List.map_cons,
        sighting]
  simp only [Underway.after, underway, advanced] at hticks hsightings ⊢
  rw [hticks, hsightings]

lemma finish_symmetric : (g.underway u).finish (g.program p) = g.execution (u.finish p) := by
  simp only [Underway.finish, underway, execution, result, report, program, List.map_reverse]

/-- **What is left of the run of the image is the image of what is left of the run.** -/
theorem runFor_symmetric (hg : g.Lawful size) (fuel : Nat) (hu : u.field.size = size) :
    (g.engine e).runFor (g.program p) fuel (g.underway u) = g.execution (e.runFor p fuel u) := by
  induction fuel generalizing u with
  | zero => rfl
  | succ fuel ih =>
    have ha : advance (g.engine e) (g.program p) (g.underway u).machine (g.underway u).field =
        g.advanced (advance e p u.machine u.field) := advance_symmetric (hu ▸ hg)
    have hsize : (advance e p u.machine u.field).field.size = size :=
      (effect_advance e p u.machine u.field).size_eq.trans hu
    rw [Engine.runFor, Engine.runFor, ha, after_symmetric]
    rcases hq : (advance e p u.machine u.field).progress with _ | _ | t | x
    · simp only [advanced, hq, progress]
      exact finish_symmetric
    · simp only [advanced, hq, progress]
      exact ih hsize
    · simp only [advanced, hq, progress]
      exact ih hsize
    · simp only [advanced, hq, progress]
      rfl

end Runs

/-- **Executions are the same in every symmetry of the square.** Take a field, any symmetry that the
two mirrors generate on its size, and any engine and program. The image of the field is valid
exactly if the field is, and the image of the program runs on it like the program on the field: the
execution is the image of the execution, with its result, its ticks and events one by one, its count
and its field. -/
theorem execute_symmetric (ms : List Mirror) (e : Engine) (p : Program) (f : Field) :
    (((generated f.size ms).field f).Valid ↔ f.Valid) ∧
    ((generated f.size ms).engine e).execute ((generated f.size ms).program p)
        ((generated f.size ms).field f) =
      (generated f.size ms).execution (e.execute p f) := by
  have hlawful := lawful_generated f.size ms
  refine ⟨valid_field hlawful, ?_⟩
  exact runFor_symmetric (u := { field := f }) hlawful (e.settings.maxSteps + 1) rfl

end RobotScript.Symmetry
