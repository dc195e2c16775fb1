import RobotScript.Proofs.Session.Delay

/-!
A run of a session agrees with the run of the engine, up to a stop.

As long as no look at the stop flag reads true, the session stands where the engine's own run stands
after as many dispatches (`inStep_after`); a look that reads true ends the run right there. Since
nothing but a watcher sets the flag in a run without others, such a run does not depend on the length
of its pauses. `run_agrees_up_to_stop` puts this together.
-/

namespace RobotScript.Session

variable {σ : Type}

/-- The watcher that also writes down what it is told, the newest first. -/
def Watcher.recording (watcher : Watcher σ) : Watcher (σ × List Sighting) where
  notice event s seen :=
    let noticed := watcher.notice event s seen.1
    (noticed.1, noticed.2, ⟨event, s.field⟩ :: seen.2)

namespace Watched

/-- **A session shows a run of the engine**: the same machine and ticks, the same field, and the
watcher has been told the same. -/
structure Shows (w : Watched (σ × List Sighting)) (u : Underway) : Prop where
  machine : w.run.machine = u.machine
  ticks : w.run.ticks = u.ticks
  field : w.session.field = u.field
  sightings : w.seen.2 = u.sightings

variable {watcher : Watcher σ} {w : Watched (σ × List Sighting)} {u : Underway}
  {e : Engine} {p : Program} {f : Field} {j : Nat}

/-! ### A dispatch on both sides -/

/-- The report of a run is that of the run it shows. -/
lemma Shows.report (h : w.Shows u) (hp : w.run.program = p) (cancelled : Bool) :
    w.run.report cancelled = ⟨u.ticks.reverse, u.machine.dispatched, cancelled, p.skipped⟩ := by
  unfold Run.report
  rw [h.ticks, h.machine, hp]

lemma seen_advance_recording :
    (w.advance watcher.recording).seen.2 =
      match w.dispatch.progress.event? with
      | some event => ⟨event, w.dispatch.field⟩ :: w.seen.2
      | none => w.seen.2 := by
  rcases h : w.dispatch.progress.event? with _ | event
  · rw [advance_of_none h]
  · rw [advance_of_some h]
    rfl

lemma Shows.dispatch (h : w.Shows u) (he : w.session.engine = e) (hp : w.run.program = p) :
    w.dispatch = RobotScript.advance e p u.machine u.field := by
  unfold Watched.dispatch
  rw [he, hp, h.machine, h.field]

/-- The session and the engine dispatch alike. -/
theorem Shows.advance (h : w.Shows u) (he : w.session.engine = e) (hp : w.run.program = p)
    (watcher : Watcher σ) :
    (w.advance watcher.recording).Shows (u.after (RobotScript.advance e p u.machine u.field)) := by
  have hd := h.dispatch he hp
  refine ⟨?_, ?_, ?_, ?_⟩
  · rw [run_advance, Run.machine_after, hd]
    rfl
  · rw [run_advance, Run.ticks_after, hd, h.ticks]
    rfl
  · rw [field_session_advance, hd]
    rfl
  · rw [seen_advance_recording, hd, h.sightings]
    rfl

/-! ### Standing in step -/

/-- **The session is in step with the engine**: before its end it shows the engine's run after `j`
dispatches, and at its end it has the engine's result and shows the engine's last state. -/
def InStep (e : Engine) (p : Program) (f : Field) (j : Nat) (w : Watched (σ × List Sighting)) :
    Prop :=
  match w.run.phase with
  | .leaving result => w.session.status = .running ∧ result = (e.execute p f).result ∧
      w.Shows (e.execute p f).last
  | .left result => w.session.status = .ofResult result ∧ result = (e.execute p f).result ∧
      w.Shows (e.execute p f).last
  | _ => w.session.status = .running ∧ ∃ u, e.underway? p f j = some u ∧ w.Shows u

section InStep

variable {result : Except Failure Report}

/-- A run about to look or to dispatch. -/
lemma inStep_of_going (hg : w.run.isCheck ∨ w.run.isDispatch) :
    InStep e p f j w ↔
      w.session.status = .running ∧ ∃ u, e.underway? p f j = some u ∧ w.Shows u := by
  unfold InStep
  rcases hg with hc | hd
  · rcases Run.phase_of_isCheck hc with hp | hp
    · rw [hp]
    · rw [hp]
  · rw [Run.phase_of_isDispatch hd]

lemma inStep_of_leaving (hp : w.run.phase = .leaving result) :
    InStep e p f j w ↔ w.session.status = .running ∧ result = (e.execute p f).result ∧
      w.Shows (e.execute p f).last := by
  unfold InStep
  rw [hp]

lemma inStep_of_left (hp : w.run.phase = .left result) :
    InStep e p f j w ↔ w.session.status = .ofResult result ∧ result = (e.execute p f).result ∧
      w.Shows (e.execute p f).last := by
  unfold InStep
  rw [hp]

/-- The stop flag has no part in being in step. -/
lemma InStep.withStop (h : InStep e p f j w) (flag : Bool) : InStep e p f j (w.withStop flag) := by
  have hshows : ∀ u, w.Shows u → (w.withStop flag).Shows u :=
    fun u hu => ⟨hu.machine, hu.ticks, hu.field, hu.sightings⟩
  have hphase : (w.withStop flag).run.phase = w.run.phase := rfl
  unfold InStep at h ⊢
  rw [hphase]
  split at h
  · exact ⟨h.1, h.2.1, hshows _ h.2.2⟩
  · exact ⟨h.1, h.2.1, hshows _ h.2.2⟩
  · obtain ⟨hs, u, hu, hw⟩ := h
    exact ⟨hs, u, hu, hshows u hw⟩

/-- A dispatch keeps the session in step: the run goes on on both sides, or ends alike. -/
theorem inStep_advance (hs : w.session.status = .running) (hu : e.underway? p f j = some u)
    (h : w.Shows u) (he : w.session.engine = e) (hp : w.run.program = p) :
    InStep e p f (j + 1) (w.advance watcher.recording) := by
  have hshows := h.advance he hp watcher
  have hd := h.dispatch he hp
  have hstatus : (w.advance watcher.recording).session.status = .running := by
    rw [status_session_advance, hs]
  have hle : u.machine.dispatched ≤ e.settings.maxSteps := by
    obtain ⟨h₁, h₂⟩ := Engine.dispatched_of_underway? hu
    omega
  have hprogram : (w.advance watcher.recording).run.program = p := by
    rw [run_advance, Run.program_after, hp]
  have hexecute := Engine.execute_eq_of_underway? hu
  by_cases hgoes : (RobotScript.advance e p u.machine u.field).progress.goesOn
  · have hcheck : (w.advance watcher.recording).run.isCheck := by
      rw [run_advance, hd]
      exact Run.isCheck_after hgoes
    rw [inStep_of_going (Or.inl hcheck)]
    exact ⟨hstatus, _, Engine.underway?_succ hu hgoes, hshows⟩
  · rcases hprog : (RobotScript.advance e p u.machine u.field).progress with _ | _ | tick | failure
    · have hphase : (w.advance watcher.recording).run.phase =
          .leaving (.ok ((w.advance watcher.recording).run.report false)) := by
        rw [run_advance, hd]
        exact Run.phase_after_halted hprog
      rw [inStep_of_leaving hphase, hexecute, Engine.resume_of_halted hle hprog]
      exact ⟨hstatus, congrArg _ (hshows.report hprogram false), hshows⟩
    · exact absurd (by rw [hprog]; rfl) hgoes
    · exact absurd (by rw [hprog]; rfl) hgoes
    · have hphase : (w.advance watcher.recording).run.phase = .leaving (.error failure) := by
        rw [run_advance, hd]
        exact Run.phase_after_failed hprog
      rw [inStep_of_leaving hphase, hexecute, Engine.resume_of_failed hle hprog]
      exact ⟨hstatus, rfl, hshows⟩

/-- **An action keeps the session in step**, unless it is a look that reads true. -/
theorem InStep.step (h : InStep e p f j w) (he : w.session.engine = e) (hp : w.run.program = p)
    (hc : w.run.isCheck → w.session.stopRequested = false) (watcher : Watcher σ) :
    InStep e p f (if w.run.isDispatch then j + 1 else j) (w.step watcher.recording) := by
  rcases hphase : w.run.phase with _ | _ | _ | result | result
  · have hcheck : w.run.isCheck := by rw [Run.isCheck, hphase]
    obtain ⟨hs, u, hu, hshows⟩ := (inStep_of_going (Or.inl hcheck)).1 h
    rw [step_of_polling hphase (hc hcheck), Run.isDispatch, hphase]
    exact ⟨hs, u, hu, hshows.machine, hshows.ticks, hshows.field, hshows.sightings⟩
  · have hdispatch : w.run.isDispatch := by rw [Run.isDispatch, hphase]
    obtain ⟨hs, u, hu, hshows⟩ := (inStep_of_going (Or.inr hdispatch)).1 h
    rw [step_of_advancing hphase, if_pos hdispatch]
    exact inStep_advance hs hu hshows he hp
  · have hcheck : w.run.isCheck := by rw [Run.isCheck, hphase]
    obtain ⟨hs, u, hu, hshows⟩ := (inStep_of_going (Or.inl hcheck)).1 h
    rw [step_of_pausing hphase (hc hcheck), Run.isDispatch, hphase]
    exact ⟨hs, u, hu, hshows.machine, hshows.ticks, hshows.field, hshows.sightings⟩
  · obtain ⟨-, hresult, hshows⟩ := (inStep_of_leaving hphase).1 h
    rw [step_of_leaving hphase]
    exact ⟨rfl, hresult, hshows.machine, hshows.ticks, hshows.field, hshows.sightings⟩
  · rw [step_of_left hphase, Run.isDispatch, hphase]
    exact h

end InStep

/-! ### Many actions -/

section After

variable (watcher : Watcher σ) (others : Nat → Bool → Bool) (w : Watched (σ × List Sighting))

/-- How many dispatches the run has made before its `n`-th action. -/
def dispatchesBefore (n : Nat) : Nat :=
  (List.range n).countP fun k => (w.after watcher.recording others k).run.isDispatch

lemma dispatchesBefore_succ (n : Nat) :
    dispatchesBefore watcher others w (n + 1) =
      if (w.after watcher.recording others n).run.isDispatch then
        dispatchesBefore watcher others w n + 1
      else dispatchesBefore watcher others w n := by
  unfold dispatchesBefore
  rw [List.range_succ, List.countP_append, List.countP_singleton]
  split <;> rfl

/-- **As long as no look reads true, the session is in step.** -/
theorem inStep_after (hw : InStep e p f 0 w) (he : w.session.engine = e) (hp : w.run.program = p)
    {n : Nat} (hc : ∀ k < n, (w.after watcher.recording others k).run.isCheck →
      w.flagAt watcher.recording others k = false) :
    InStep e p f (dispatchesBefore watcher others w n) (w.after watcher.recording others n) := by
  induction n with
  | zero => exact hw
  | succ n ih =>
    have hn := ih fun k hk => hc k (by omega)
    have hin := hn.withStop (w.flagAt watcher.recording others n)
    rw [dispatchesBefore_succ]
    exact hin.step ((engine_after others n).trans he) ((program_after others n).trans hp)
      (hc n (by omega)) watcher

end After

/-! ### How a run ends -/

/-- How a run of a session ended: its result, the field and the status it left, and what its watcher
was told. -/
structure Ending where
  result : Except Failure Report
  field : Field
  status : Status
  sightings : List Sighting

/-- The ending of a run that is over. -/
def ending? (w : Watched (σ × List Sighting)) : Option Ending :=
  w.run.result?.map fun result => ⟨result, w.session.field, w.session.status, w.seen.2.reverse⟩

section Endings

variable {others : Nat → Bool → Bool} {n m : Nat} {result : Except Failure Report}

lemma ending?_of_left (hp : w.run.phase = .left result) :
    w.ending? = some ⟨result, w.session.field, w.session.status, w.seen.2.reverse⟩ := by
  simp [ending?, Run.result?, hp]

/-- The ending of a run stays, whatever others do to the stop flag afterwards. -/
lemma ending?_after_left (hp : (w.after watcher.recording others n).run.phase = .left result)
    (hnm : n ≤ m) :
    (w.after watcher.recording others m).run.phase = .left result ∧
      (w.after watcher.recording others m).ending? =
        (w.after watcher.recording others n).ending? := by
  induction hnm with
  | refl => exact ⟨hp, rfl⟩
  | @step m _ ih =>
    obtain ⟨ihp, ihe⟩ := ih
    have hleft : ((w.after watcher.recording others m).withStop
        (w.flagAt watcher.recording others m)).run.phase = .left result := ihp
    rw [after_succ, step_of_left hleft]
    exact ⟨ihp, ihe⟩

/-- **A run that is never stopped ends as the engine's run does.** -/
theorem ending?_of_unstopped (hw : InStep e p f 0 w) (he : w.session.engine = e)
    (hp : w.run.program = p) (hpoll : w.run.phase = .polling)
    (hc : ∀ k, (w.after watcher.recording others k).run.isCheck →
      w.flagAt watcher.recording others k = false) :
    (w.after watcher.recording others w.budget).ending? =
      some ⟨(e.execute p f).result, (e.execute p f).field, .ofResult (e.execute p f).result,
        (e.execute p f).sightings⟩ := by
  have hin := inStep_after watcher others w hw he hp (n := w.budget) fun k _ => hc k
  have hover : (w.after watcher.recording others w.budget).run.isLeft :=
    isLeft_after_budget others hpoll
  obtain ⟨result, hleft⟩ := isLeft_iff.1 hover
  obtain ⟨hs, hr, hshows⟩ := (inStep_of_left hleft).1 hin
  rw [ending?_of_left hleft, hs, hr, hshows.field, hshows.sightings]
  rfl

/-- A run about to look at the flag has at least three actions before it. -/
lemma actionsLeft_of_isCheck {r : Run} (maxSteps : Nat) (h : r.isCheck) :
    3 ≤ actionsLeft maxSteps r := by
  rcases Run.phase_of_isCheck h with hp | hp
  · simp [actionsLeft, hp]
  · simp [actionsLeft, hp]

/-- **A look that reads true ends the run** where the engine's run stands after as many
dispatches. -/
theorem ending?_of_stopped (hw : InStep e p f 0 w) (he : w.session.engine = e)
    (hp : w.run.program = p) (hpoll : w.run.phase = .polling)
    (hc : ∀ k < n, (w.after watcher.recording others k).run.isCheck →
      w.flagAt watcher.recording others k = false)
    (hcheck : (w.after watcher.recording others n).run.isCheck)
    (hflag : w.flagAt watcher.recording others n = true) :
    ∃ u, e.underway? p f (dispatchesBefore watcher others w n) = some u ∧
      (w.after watcher.recording others w.budget).ending? =
        some ⟨.ok ⟨u.ticks.reverse, dispatchesBefore watcher others w n, true, p.skipped⟩,
          u.field, .cancelled, u.sightings.reverse⟩ := by
  have hin := inStep_after watcher others w hw he hp hc
  obtain ⟨-, u, hu, hshows⟩ := (inStep_of_going (Or.inl hcheck)).1 hin
  have hbudget : n + 2 ≤ w.budget := by
    have hleft := actionsLeft_after others watcher.recording w n
    have hmore := actionsLeft_of_isCheck w.session.engine.settings.maxSteps hcheck
    have hstart := actionsLeft_le_budget hpoll
    omega
  have hstop : w.after watcher.recording others (n + 1) =
      { (w.after watcher.recording others n).withStop true with
        run := (w.after watcher.recording others n).run.stopped } := by
    rw [after_succ, hflag]
    exact step_of_stop hcheck rfl
  have hreport : (w.after watcher.recording others n).run.report true =
      ⟨u.ticks.reverse, dispatchesBefore watcher others w n, true, p.skipped⟩ := by
    rw [hshows.report ((program_after others n).trans hp), (Engine.dispatched_of_underway? hu).1]
  -- the action after the look leaves the session
  have hphase : (w.after watcher.recording others (n + 1)).run.phase =
      .leaving (.ok ⟨u.ticks.reverse, dispatchesBefore watcher others w n, true, p.skipped⟩) := by
    rw [hstop, ← hreport]
    rfl
  have hleave : w.after watcher.recording others (n + 2) = _ :=
    step_of_leaving (w := (w.after watcher.recording others (n + 1)).withStop
      (w.flagAt watcher.recording others (n + 1))) hphase
  have hleft : (w.after watcher.recording others (n + 2)).run.phase =
      .left (.ok ⟨u.ticks.reverse, dispatchesBefore watcher others w n, true, p.skipped⟩) := by
    rw [hleave]
  refine ⟨u, hu, ?_⟩
  rw [(ending?_after_left hleft hbudget).2, ending?_of_left hleft, hleave, hstop,
    ← hshows.field, ← hshows.sightings]
  rfl

end Endings

/-! ### The whole agreement -/

section Agreement

variable (watcher : Watcher σ) (others : Nat → Bool → Bool) (w : Watched (σ × List Sighting))

/-- No look of the run at the stop flag reads true. -/
def NeverStopped : Prop :=
  ∀ k, (w.after watcher.recording others k).run.isCheck →
    w.flagAt watcher.recording others k = false

/-- The `n`-th action of the run is its first look at the stop flag that reads true. -/
def StoppedAt (n : Nat) : Prop :=
  (w.after watcher.recording others n).run.isCheck ∧
    w.flagAt watcher.recording others n = true ∧
      ∀ k < n, (w.after watcher.recording others k).run.isCheck →
        w.flagAt watcher.recording others k = false

end Agreement

end Watched

/-- The engine's runs are completed or failed. -/
lemma ofResult_execute (e : Engine) (p : Program) (f : Field) :
    Status.ofResult (e.execute p f).result =
      if (e.execute p f).result.isOk then .completed else .failed := by
  rcases h : (e.execute p f).result with failure | r
  · rfl
  · have hr : r.cancelled = false := Engine.cancelled_runFor h
    simp [Status.ofResult, hr, Except.isOk, Except.toBool]

/-- **A run of a session agrees with the run of its engine, up to a stop.** A session with no active
run begins one of any script. `Session.run` makes its actions with no others about. Whatever others
do to the stop flag, and whatever the watcher does, the run ends like the engine's own run if no look
at the flag reads true, and else at the first look that does, with what the engine's run has done
after as many dispatches. Without others the outcome does not depend on the length of the pauses. -/
theorem run_agrees_up_to_stop (s : Session) (hs : s.status ≠ .running) (source : String)
    (watcher : Watcher σ) (seen : σ) :
    (∃ w : Watched (σ × List Sighting), s.start source (seen, []) = .ok w ∧
      (∃ result, (w.after watcher.recording (fun _ => id) w.budget).run.result? = some result ∧
        s.run source watcher.recording (seen, []) =
          (result, (w.after watcher.recording (fun _ => id) w.budget).session,
            (w.after watcher.recording (fun _ => id) w.budget).seen)) ∧
      ∀ others : Nat → Bool → Bool,
        (Watched.NeverStopped watcher others w →
          (w.after watcher.recording others w.budget).ending? =
            some ⟨(s.engine.run source s.field).result, (s.engine.run source s.field).field,
              if (s.engine.run source s.field).result.isOk then .completed else .failed,
              (s.engine.run source s.field).sightings⟩) ∧
        ∀ n, Watched.StoppedAt watcher others w n →
          ∃ u, s.engine.underway? (s.engine.read source) s.field
              (Watched.dispatchesBefore watcher others w n) = some u ∧
            s.engine.run source s.field = s.engine.resume (s.engine.read source) u ∧
            (w.after watcher.recording others w.budget).ending? =
              some ⟨.ok ⟨u.ticks.reverse, Watched.dispatchesBefore watcher others w n, true,
                (s.engine.read source).skipped⟩, u.field, .cancelled, u.sightings.reverse⟩) ∧
    (watcher.IgnoresDelay → ∀ c d,
      ((s.withDelay c).run source watcher seen).1 = ((s.withDelay d).run source watcher seen).1 ∧
      ((s.withDelay c).run source watcher seen).2.1.withDelay d =
        ((s.withDelay d).run source watcher seen).2.1 ∧
      ((s.withDelay c).run source watcher seen).2.2 =
        ((s.withDelay d).run source watcher seen).2.2) := by
  refine ⟨?_, fun hignores c d => run_withDelay s hs source hignores seen c d⟩
  have hstart : s.start source (seen, ([] : List Sighting)) =
      .ok ⟨{ s with status := .running, stopRequested := false },
        { program := s.engine.read source }, (seen, [])⟩ := by
    rw [start, begin?_of_not_running hs]
  set w : Watched (σ × List Sighting) := ⟨{ s with status := .running, stopRequested := false },
    { program := s.engine.read source }, (seen, [])⟩ with hw
  have hin : Watched.InStep s.engine (s.engine.read source) s.field 0 w :=
    ⟨rfl, { field := s.field }, rfl, rfl, rfl, rfl, rfl⟩
  refine ⟨w, hstart, ?_, fun others => ⟨fun hnever => ?_, fun n hstopped => ?_⟩⟩
  · have hover : (w.after watcher.recording (fun _ => id) w.budget).run.isLeft :=
      Watched.isLeft_after_budget _ rfl
    obtain ⟨result, hresult⟩ := Option.isSome_iff_exists.1 hover
    refine ⟨result, hresult, ?_⟩
    simp [run, hstart, Watched.finish_eq_after, hresult]
  · rw [Watched.ending?_of_unstopped hin rfl rfl rfl hnever, ofResult_execute]
    rfl
  · obtain ⟨hcheck, hflag, hbefore⟩ := hstopped
    obtain ⟨u, hu, hending⟩ :=
      Watched.ending?_of_stopped hin rfl rfl rfl hbefore hcheck hflag
    exact ⟨u, hu, Engine.execute_eq_of_underway? hu, hending⟩

/-- A session whose last run failed and left a raised flag: its next run, never stopped or stopped at
once. -/
theorem run_agrees_up_to_stop_of_failed :
    ∃ w : Watched (Unit × List Sighting),
      ({ status := .failed, stopRequested := true } : Session).start "вправо" ((), []) = .ok w ∧
      Watched.NeverStopped Watcher.idle (fun _ _ => false) w ∧
      ((w.after Watcher.idle.recording (fun _ _ => false) w.budget).ending?.map (·.result) =
        some (({} : Engine).run "вправо" default).result) ∧
      Watched.StoppedAt Watcher.idle (fun _ _ => true) w 0 ∧
      ((w.after Watcher.idle.recording (fun _ _ => true) w.budget).ending?.map (·.status) =
        some .cancelled) := by
  have hagrees := run_agrees_up_to_stop
    ({ status := .failed, stopRequested := true } : Session) (by decide) "вправо" Watcher.idle ()
  obtain ⟨⟨w, hstart, -, hothers⟩, -⟩ := hagrees
  have hnever : Watched.NeverStopped Watcher.idle (fun _ _ => false) w := fun k _ => rfl
  have hstopped : Watched.StoppedAt Watcher.idle (fun _ _ => true) w 0 := by
    cases hstart
    exact ⟨rfl, rfl, fun k hk => absurd hk (Nat.not_lt_zero k)⟩
  refine ⟨w, hstart, hnever, ?_, hstopped, ?_⟩
  · rw [(hothers fun _ _ => false).1 hnever]
    rfl
  · obtain ⟨u, -, -, hending⟩ := (hothers fun _ _ => true).2 0 hstopped
    rw [hending]
    rfl

end RobotScript.Session
