import RobotScript.Proofs.Run.Resume
import RobotScript.Session.Run

/-!
The actions of a run of a session, one after another, while others set the stop flag.

A run looks at the stop flag at the top of every turn and at the end of every pause. Between two of
its actions others may raise or lower the flag, so what each look reads is arbitrary:
`Watched.after` is a run after a number of actions, with the flag set anew before each of them. Every
run is over after the actions of its budget (`isLeft_after_budget`), whatever the others do.
-/

namespace RobotScript.Session

/-- Whether the next action of a run is a look at the stop flag. -/
def Run.isCheck (r : Run) : Bool :=
  match r.phase with
  | .polling => true
  | .pausing => true
  | _ => false

/-- Whether the next action of a run is a dispatch. -/
def Run.isDispatch (r : Run) : Bool :=
  match r.phase with
  | .advancing => true
  | _ => false

namespace Run

lemma phase_of_isCheck {r : Run} (h : r.isCheck) : r.phase = .polling ∨ r.phase = .pausing := by
  unfold isCheck at h
  split at h
  · exact .inl ‹_›
  · exact .inr ‹_›
  · cases h

lemma phase_of_isDispatch {r : Run} (h : r.isDispatch) : r.phase = .advancing := by
  unfold isDispatch at h
  split at h
  · assumption
  · cases h

/-! ### A run after a dispatch -/

variable (r : Run) (delayMs : Nat) (a : Advance)

lemma program_after : (r.after delayMs a).program = r.program := by
  unfold Run.after
  dsimp only
  split <;> rfl

lemma machine_after : (r.after delayMs a).machine = a.machine := by
  unfold Run.after
  dsimp only
  split <;> rfl

lemma ticks_after :
    (r.after delayMs a).ticks =
      match a.progress with
      | .ticked tick => tick :: r.ticks
      | _ => r.ticks := by
  unfold Run.after
  rcases a.progress with _ | _ | tick | failure <;> rfl

variable {r delayMs a}

lemma phase_after_halted (h : a.progress = .halted) :
    (r.after delayMs a).phase = .leaving (.ok ((r.after delayMs a).report false)) := by
  simp [Run.after, h, Run.report]

lemma phase_after_failed {failure : Failure} (h : a.progress = .failed failure) :
    (r.after delayMs a).phase = .leaving (.error failure) := by
  simp [Run.after, h]

/-- A run that goes on looks at the stop flag next. -/
lemma isCheck_after (h : a.progress.goesOn) : (r.after delayMs a).isCheck := by
  unfold Run.after
  rcases hp : a.progress with _ | _ | tick | failure
  · rw [hp] at h
    cases h
  · rfl
  · dsimp only [Run.isCheck]
    split <;> simp_all
  · rw [hp] at h
    cases h

variable (r delayMs a)

/-- **After a dispatch a run looks at the flag or is on its way out**, not because it was stopped. -/
lemma isCheck_after_or_leaving :
    (a.progress.goesOn ∧ (r.after delayMs a).isCheck) ∨
    (¬a.progress.goesOn ∧ ∃ result, (r.after delayMs a).phase = .leaving result ∧
      ∀ report, result = .ok report → report.cancelled = false) := by
  rcases hp : a.progress with _ | _ | tick | failure
  · right
    refine ⟨nofun, _, phase_after_halted hp, fun report hreport => ?_⟩
    cases hreport
    rfl
  · exact .inl ⟨rfl, isCheck_after (by rw [hp]; rfl)⟩
  · exact .inl ⟨rfl, isCheck_after (by rw [hp]; rfl)⟩
  · exact .inr ⟨nofun, _, phase_after_failed hp, nofun⟩

end Run

namespace Watched

variable {σ : Type} (watcher : Watcher σ) (w : Watched σ)

/-- The run with the stop flag set by others. -/
def withStop (flag : Bool) : Watched σ :=
  { w with session := { w.session with stopRequested := flag } }

/-- The run after `n` actions, where before the `k`-th action the others turn a stop flag `b` into
`others k b`. Others that do nothing are `fun _ => id`; constant functions give every look at the
flag a value of its own. -/
def after (others : Nat → Bool → Bool) : Nat → Watched σ
  | 0 => w
  | n + 1 =>
    let w' := after others n
    (w'.withStop (others n w'.session.stopRequested)).step watcher

/-- The stop flag as the `n`-th action finds it. -/
def flagAt (others : Nat → Bool → Bool) (n : Nat) : Bool :=
  others n (w.after watcher others n).session.stopRequested

lemma after_succ (others : Nat → Bool → Bool) (n : Nat) :
    w.after watcher others (n + 1) =
      ((w.after watcher others n).withStop (w.flagAt watcher others n)).step watcher := rfl

/-! ### Single actions -/

section Single

variable {watcher w}

/-- A look at a raised flag ends the run. -/
lemma step_of_stop (hc : w.run.isCheck) (hs : w.session.stopRequested = true) :
    w.step watcher = { w with run := w.run.stopped } := by
  rcases Run.phase_of_isCheck hc with hp | hp
  · simp [step, hp, hs]
  · simp [step, hp, hs]

lemma step_of_polling (hp : w.run.phase = .polling) (hs : w.session.stopRequested = false) :
    w.step watcher = { w with run := { w.run with phase := .advancing } } := by
  simp [step, hp, hs]

lemma step_of_pausing (hp : w.run.phase = .pausing) (hs : w.session.stopRequested = false) :
    w.step watcher = { w with run := { w.run with phase := .polling } } := by
  simp [step, hp, hs]

lemma step_of_advancing (hp : w.run.phase = .advancing) : w.step watcher = w.advance watcher := by
  simp [step, hp]

lemma step_of_leaving {result : Except Failure Report} (hp : w.run.phase = .leaving result) :
    w.step watcher =
      { w with session := w.session.leave result, run := { w.run with phase := .left result } } := by
  simp [step, hp]

lemma step_of_left {result : Except Failure Report} (hp : w.run.phase = .left result) :
    w.step watcher = w := by
  simp [step, hp]

/-- The dispatch that a run makes when it advances. -/
def dispatch (w : Watched σ) : Advance :=
  RobotScript.advance w.session.engine w.run.program w.run.machine w.session.field

/-- A dispatch without an event changes the field and the run. -/
lemma advance_of_none (h : w.dispatch.progress.event? = none) :
    w.advance watcher =
      ⟨{ w.session with field := w.dispatch.field },
        w.run.after w.session.engine.settings.delayMs w.dispatch, w.seen⟩ := by
  unfold dispatch at h
  unfold advance
  simp only [h]
  rfl

/-- A dispatch with an event is also told to the watcher, which may set the stop flag. -/
lemma advance_of_some {event : Event} (h : w.dispatch.progress.event? = some event) :
    w.advance watcher =
      ⟨{ w.session with
          field := w.dispatch.field
          stopRequested := (watcher.notice event { w.session with field := w.dispatch.field }
            w.seen).1 },
        w.run.after w.session.engine.settings.delayMs w.dispatch,
        (watcher.notice event { w.session with field := w.dispatch.field } w.seen).2⟩ := by
  unfold dispatch at h
  unfold advance
  simp only [h]
  rfl

@[simp] lemma run_advance :
    (w.advance watcher).run = w.run.after w.session.engine.settings.delayMs w.dispatch := by
  rcases h : w.dispatch.progress.event? with _ | event
  · rw [advance_of_none h]
  · rw [advance_of_some h]

@[simp] lemma field_session_advance : (w.advance watcher).session.field = w.dispatch.field := by
  rcases h : w.dispatch.progress.event? with _ | event
  · rw [advance_of_none h]
  · rw [advance_of_some h]

@[simp] lemma engine_session_advance : (w.advance watcher).session.engine = w.session.engine := by
  rcases h : w.dispatch.progress.event? with _ | event
  · rw [advance_of_none h]
  · rw [advance_of_some h]

@[simp] lemma status_session_advance : (w.advance watcher).session.status = w.session.status := by
  rcases h : w.dispatch.progress.event? with _ | event
  · rw [advance_of_none h]
  · rw [advance_of_some h]

end Single

/-! ### What no action changes -/

section Frame

variable {watcher w}

lemma engine_step : (w.step watcher).session.engine = w.session.engine := by
  unfold step
  split
  · split <;> rfl
  · exact engine_session_advance
  · split <;> rfl
  · rfl
  · rfl

lemma program_step : (w.step watcher).run.program = w.run.program := by
  unfold step
  split
  · split <;> rfl
  · rw [run_advance, Run.program_after]
  · split <;> rfl
  · rfl
  · rfl

end Frame

/-! ### Every run ends -/

/-- How many actions a run can still make with a step limit. A turn without a pause is a look and a
dispatch; the pause after a tick is one look more. -/
def actionsLeft (maxSteps : Nat) (r : Run) : Nat :=
  match r.phase with
  | .polling => 3 * (maxSteps - r.machine.dispatched) + 3
  | .advancing => 3 * (maxSteps - r.machine.dispatched) + 2
  | .pausing => 3 * (maxSteps - r.machine.dispatched) + 4
  | .leaving _ => 1
  | .left _ => 0

section Ending

variable {watcher w}

/-- A dispatch uses up a step or is the last one. -/
lemma actionsLeft_after_dispatch (delayMs : Nat) :
    actionsLeft w.session.engine.settings.maxSteps (w.run.after delayMs w.dispatch) <
      3 * (w.session.engine.settings.maxSteps - w.run.machine.dispatched) + 2 := by
  have hgoes : w.dispatch.progress.goesOn →
      w.run.machine.dispatched < w.session.engine.settings.maxSteps ∧
        w.dispatch.machine.dispatched = w.run.machine.dispatched + 1 := dispatched_of_goesOn
  unfold Run.after
  dsimp only
  rcases hp : w.dispatch.progress with _ | _ | tick | failure
  · show 1 < _
    omega
  · obtain ⟨hlt, hd⟩ := hgoes (by rw [hp]; rfl)
    show 3 * (_ - w.dispatch.machine.dispatched) + 3 < _
    omega
  · obtain ⟨hlt, hd⟩ := hgoes (by rw [hp]; rfl)
    dsimp only
    split
    · show 3 * (_ - w.dispatch.machine.dispatched) + 3 < _
      omega
    · show 3 * (_ - w.dispatch.machine.dispatched) + 4 < _
      omega
  · show 1 < _
    omega

/-- **Every action brings a run closer to its end**, until it is there. -/
theorem actionsLeft_step (watcher : Watcher σ) (w : Watched σ) :
    actionsLeft w.session.engine.settings.maxSteps (w.step watcher).run ≤
      actionsLeft w.session.engine.settings.maxSteps w.run - 1 := by
  rcases hp : w.run.phase with _ | _ | _ | result | result
  · cases hs : w.session.stopRequested with
    | true =>
      rw [step_of_stop (by simp [Run.isCheck, hp]) hs]
      simp [actionsLeft, hp, Run.stopped]
    | false =>
      rw [step_of_polling hp hs]
      simp [actionsLeft, hp]
  · have := actionsLeft_after_dispatch (w := w) w.session.engine.settings.delayMs
    rw [step_of_advancing hp, run_advance]
    simp only [actionsLeft, hp] at this ⊢
    omega
  · cases hs : w.session.stopRequested with
    | true =>
      rw [step_of_stop (by simp [Run.isCheck, hp]) hs]
      simp [actionsLeft, hp, Run.stopped]
    | false =>
      rw [step_of_pausing hp hs]
      simp [actionsLeft, hp]
  · rw [step_of_leaving hp]
    simp [actionsLeft, hp]
  · rw [step_of_left hp]
    simp [actionsLeft, hp]

variable (others : Nat → Bool → Bool)

lemma engine_after (n : Nat) : (w.after watcher others n).session.engine = w.session.engine := by
  induction n with
  | zero => rfl
  | succ n ih =>
    rw [after_succ, engine_step]
    exact ih

lemma program_after (n : Nat) : (w.after watcher others n).run.program = w.run.program := by
  induction n with
  | zero => rfl
  | succ n ih =>
    rw [after_succ, program_step]
    exact ih

theorem actionsLeft_after (watcher : Watcher σ) (w : Watched σ) (n : Nat) :
    actionsLeft w.session.engine.settings.maxSteps (w.after watcher others n).run ≤
      actionsLeft w.session.engine.settings.maxSteps w.run - n := by
  induction n with
  | zero => exact Nat.le_refl _
  | succ n ih =>
    have hstep := actionsLeft_step watcher
      ((w.after watcher others n).withStop (w.flagAt watcher others n))
    have hengine : ((w.after watcher others n).withStop (w.flagAt watcher others n)).session.engine =
        w.session.engine := engine_after others n
    have hrun : ((w.after watcher others n).withStop (w.flagAt watcher others n)).run =
        (w.after watcher others n).run := rfl
    rw [hengine, hrun] at hstep
    rw [after_succ]
    omega

lemma isLeft_iff {r : Run} : r.isLeft ↔ ∃ result, r.phase = .left result := by
  unfold Run.isLeft Run.result?
  split <;> simp_all

/-- Only a run that is over has no action left. -/
lemma isLeft_of_actionsLeft {r : Run} {maxSteps : Nat} (h : actionsLeft maxSteps r = 0) :
    r.isLeft := by
  unfold actionsLeft at h
  split at h
  · omega
  · omega
  · omega
  · omega
  · next result hp => exact isLeft_iff.2 ⟨result, hp⟩

lemma actionsLeft_le_budget (hp : w.run.phase = .polling) :
    actionsLeft w.session.engine.settings.maxSteps w.run ≤ w.budget := by
  simp only [actionsLeft, hp, budget]
  omega

/-- **Every run is over after the actions of its budget**, whatever the others do. -/
theorem isLeft_after_budget (hp : w.run.phase = .polling) :
    (w.after watcher others w.budget).run.isLeft := by
  have hleft := actionsLeft_le_budget hp
  have hafter := actionsLeft_after others watcher w w.budget
  have hzero : actionsLeft w.session.engine.settings.maxSteps
      (w.after watcher others w.budget).run = 0 := by omega
  exact isLeft_of_actionsLeft hzero

end Ending

/-! ### Runs without others -/

section Alone

variable {watcher w}

/-- Without others a run makes its actions one by one. -/
lemma after_id_succ (n : Nat) :
    w.after watcher (fun _ => id) (n + 1) = (w.after watcher (fun _ => id) n).step watcher := rfl

/-- The first action may be taken off as well as the last. -/
lemma after_id_succ_left (n : Nat) :
    w.after watcher (fun _ => id) (n + 1) = (w.step watcher).after watcher (fun _ => id) n := by
  induction n with
  | zero => rfl
  | succ n ih => rw [after_id_succ, ih, after_id_succ]

lemma step_of_isLeft (h : w.run.isLeft) : w.step watcher = w := by
  obtain ⟨result, hp⟩ := isLeft_iff.1 h
  exact step_of_left hp

/-- A run that is over stays as it is. -/
lemma after_id_of_isLeft (h : w.run.isLeft) (n : Nat) : w.after watcher (fun _ => id) n = w := by
  induction n with
  | zero => rfl
  | succ n ih => rw [after_id_succ, ih, step_of_isLeft h]

theorem runUntil_isLeft (n : Nat) :
    w.runUntil watcher Run.isLeft n = w.after watcher (fun _ => id) n := by
  induction n generalizing w with
  | zero => rfl
  | succ n ih =>
    rw [runUntil]
    split
    · next h => rw [after_id_of_isLeft h]
    · rw [ih, ← after_id_succ_left]

/-- **Going on to the end is making the actions of the budget.** -/
theorem finish_eq_after : w.finish watcher = w.after watcher (fun _ => id) w.budget :=
  runUntil_isLeft w.budget

end Alone

end Watched

end RobotScript.Session
