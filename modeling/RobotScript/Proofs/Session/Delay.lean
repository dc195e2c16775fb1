import RobotScript.Proofs.Session.Actions

/-!
The length of the pauses of a run without others.

A run that pauses after a tick looks at the stop flag at the end of the pause and again at the top of
its next turn. If only its watcher sets the flag both looks read the same, so a run with pauses and
one without come to the same end: `run_withDelay`.
-/

namespace RobotScript

/-- The engine with pauses of another length. -/
def Engine.withDelay (e : Engine) (delayMs : Nat) : Engine :=
  { e with settings := { e.settings with delayMs := delayMs } }

namespace Session

variable {σ : Type}

/-- The session with pauses of another length. -/
def withDelay (s : Session) (delayMs : Nat) : Session :=
  { s with engine := s.engine.withDelay delayMs }

/-- A watcher that does not ask how long the pauses are. -/
def Watcher.IgnoresDelay (watcher : Watcher σ) : Prop :=
  ∀ event s seen delayMs,
    watcher.notice event (s.withDelay delayMs) seen = watcher.notice event s seen

/-- A dispatch does not depend on the length of the pauses. -/
lemma advance_withDelay (e : Engine) (delayMs : Nat) (p : Program) (m : Machine) (f : Field) :
    advance (e.withDelay delayMs) p m f = advance e p m f := rfl

namespace Watched

variable {watcher : Watcher σ} {v w : Watched σ}

/-! ### Runs that reach their end -/

/-- The run comes to `w` by its own actions. -/
def Reaches (watcher : Watcher σ) (v w : Watched σ) : Prop :=
  ∃ n, v.after watcher (fun _ => id) n = w

lemma Reaches.refl (v : Watched σ) : Reaches watcher v v := ⟨0, rfl⟩

lemma Reaches.head (h : Reaches watcher (v.step watcher) w) : Reaches watcher v w := by
  obtain ⟨n, rfl⟩ := h
  exact ⟨n + 1, after_id_succ_left n⟩

lemma after_id_add (n m : Nat) :
    v.after watcher (fun _ => id) (n + m) =
      (v.after watcher (fun _ => id) n).after watcher (fun _ => id) m := by
  induction m with
  | zero => rfl
  | succ m ih => rw [← Nat.add_assoc, after_id_succ, ih, after_id_succ]

/-- A run has one end. -/
theorem finish_eq_of_reaches (hp : v.run.phase = .polling) (h : Reaches watcher v w)
    (hw : w.run.isLeft) : v.finish watcher = w := by
  obtain ⟨n, rfl⟩ := h
  rw [finish_eq_after]
  rcases Nat.le_total n v.budget with hle | hle
  · obtain ⟨m, hm⟩ := Nat.exists_eq_add_of_le hle
    rw [hm, after_id_add, after_id_of_isLeft hw]
  · have hover : (v.after watcher (fun _ => id) v.budget).run.isLeft := isLeft_after_budget _ hp
    obtain ⟨m, hm⟩ := Nat.exists_eq_add_of_le hle
    rw [hm, after_id_add, after_id_of_isLeft hover]

/-! ### Runs with different pauses -/

/-- **Two runs alike but for the pauses**, and for the phase they are in. -/
structure Alike (v w : Watched σ) : Prop where
  session : v.session.withDelay 0 = w.session.withDelay 0
  program : v.run.program = w.run.program
  machine : v.run.machine = w.run.machine
  ticks : v.run.ticks = w.run.ticks
  seen : v.seen = w.seen

namespace Alike

lemma stop (h : Alike v w) : v.session.stopRequested = w.session.stopRequested := by
  have hs := congrArg Session.stopRequested h.session
  exact hs

lemma dispatch (h : Alike v w) : v.dispatch = w.dispatch := by
  have hf : v.session.field = w.session.field := by
    have hs := congrArg Session.field h.session
    exact hs
  have he : v.session.engine.withDelay 0 = w.session.engine.withDelay 0 := by
    have hs := congrArg Session.engine h.session
    exact hs
  unfold Watched.dispatch
  rw [← advance_withDelay v.session.engine 0, ← advance_withDelay w.session.engine 0, he,
    h.program, h.machine, hf]

lemma report (h : Alike v w) (cancelled : Bool) :
    v.run.report cancelled = w.run.report cancelled := by
  unfold Run.report
  rw [h.program, h.machine, h.ticks]

/-- The phase may be set. -/
lemma withPhase (h : Alike v w) (a b : Phase) :
    Alike { v with run := { v.run with phase := a } } { w with run := { w.run with phase := b } } :=
  ⟨h.session, h.program, h.machine, h.ticks, h.seen⟩

/-- The session with another field. -/
lemma session_field (h : Alike v w) (f : Field) :
    ({ v.session with field := f } : Session).withDelay 0 =
      ({ w.session with field := f } : Session).withDelay 0 := by
  show ({ v.session.withDelay 0 with field := f } : Session) =
    { w.session.withDelay 0 with field := f }
  rw [h.session]

/-- The session with another field and another stop flag. -/
lemma session_field_stop (h : Alike v w) (f : Field) (flag : Bool) :
    ({ v.session with field := f, stopRequested := flag } : Session).withDelay 0 =
      ({ w.session with field := f, stopRequested := flag } : Session).withDelay 0 := by
  show ({ v.session.withDelay 0 with field := f, stopRequested := flag } : Session) =
    { w.session.withDelay 0 with field := f, stopRequested := flag }
  rw [h.session]

/-- The watchers of the two runs are told the same and answer the same. -/
lemma notice (h : Alike v w) (hw : watcher.IgnoresDelay) (event : Event) (f : Field) :
    watcher.notice event { v.session with field := f } v.seen =
      watcher.notice event { w.session with field := f } w.seen := by
  rw [← hw event { v.session with field := f } v.seen 0, h.session_field, h.seen, hw]

/-- **Two runs that are alike dispatch alike.** -/
theorem advance (h : Alike v w) (hw : watcher.IgnoresDelay) :
    Alike (v.advance watcher) (w.advance watcher) := by
  have hd := h.dispatch
  have hsession : (v.advance watcher).session.withDelay 0 =
      (w.advance watcher).session.withDelay 0 ∧
        (v.advance watcher).seen = (w.advance watcher).seen := by
    rcases he : v.dispatch.progress.event? with _ | event
    · rw [advance_of_none he, advance_of_none (by rw [← hd]; exact he), hd]
      exact ⟨h.session_field _, h.seen⟩
    · rw [advance_of_some he, advance_of_some (by rw [← hd]; exact he), hd, h.notice hw]
      exact ⟨h.session_field_stop _ _, rfl⟩
  refine ⟨hsession.1, ?_, ?_, ?_, hsession.2⟩
  · rw [run_advance, run_advance, Run.program_after, Run.program_after, h.program]
  · rw [run_advance, run_advance, Run.machine_after, Run.machine_after, hd]
  · rw [run_advance, run_advance, Run.ticks_after, Run.ticks_after, h.ticks, hd]

end Alike

/-! ### To the end -/

/-- A run on its way out leaves by one action. -/
lemma reaches_left {result : Except Failure Report} (hp : v.run.phase = .leaving result) :
    Reaches watcher v
      { v with session := v.session.leave result, run := { v.run with phase := .left result } } := by
  refine Reaches.head ?_
  rw [step_of_leaving hp]
  exact Reaches.refl _

/-- A run about to look at a flag that is down comes to its next dispatch, with or without another
look. -/
lemma reaches_advancing (hc : v.run.isCheck) (hs : v.session.stopRequested = false)
    (h : Reaches watcher { v with run := { v.run with phase := .advancing } } w) :
    Reaches watcher v w := by
  rcases Run.phase_of_isCheck hc with hp | hp
  · refine Reaches.head ?_
    rwa [step_of_polling hp hs]
  · refine Reaches.head ?_
    rw [step_of_pausing hp hs]
    have hstep : step watcher { v with run := { v.run with phase := .polling } } =
        { v with run := { v.run with phase := .advancing } } := step_of_polling rfl hs
    refine Reaches.head ?_
    rwa [hstep]

/-- Two runs have come to the same end. -/
structure SameEnd (v w : Watched σ) : Prop where
  alike : Alike v w
  left : ∃ result, v.run.phase = .left result ∧ w.run.phase = .left result

lemma sameEnd_of_leaving (watcher : Watcher σ) (h : Alike v w) {result : Except Failure Report}
    (hv : v.run.phase = .leaving result) (hw : w.run.phase = .leaving result) :
    ∃ v' w', Reaches watcher v v' ∧ Reaches watcher w w' ∧ SameEnd v' w' := by
  refine ⟨_, _, reaches_left hv, reaches_left hw, ⟨?_, h.program, h.machine, h.ticks, h.seen⟩,
    result, rfl, rfl⟩
  show (v.session.withDelay 0).leave result = (w.session.withDelay 0).leave result
  rw [h.session]

/-- Two runs that are alike and make their last dispatch. -/
lemma sameEnd_of_last (h : Alike v w) (hignores : watcher.IgnoresDelay)
    (hlast : ¬ v.dispatch.progress.goesOn) :
    ∃ v' w', Reaches watcher (v.advance watcher) v' ∧ Reaches watcher (w.advance watcher) w' ∧
      SameEnd v' w' := by
  have hafter : Alike (v.advance watcher) (w.advance watcher) := h.advance hignores
  have hd : w.dispatch = v.dispatch := h.dispatch.symm
  rcases hprog : v.dispatch.progress with _ | _ | tick | failure
  · have hv : (v.advance watcher).run.phase =
        .leaving (.ok ((v.advance watcher).run.report false)) := by
      rw [run_advance]
      exact Run.phase_after_halted hprog
    have hw : (w.advance watcher).run.phase =
        .leaving (.ok ((v.advance watcher).run.report false)) := by
      rw [hafter.report, run_advance]
      exact Run.phase_after_halted (by rwa [hd])
    exact sameEnd_of_leaving watcher hafter hv hw
  · exact absurd (by rw [hprog]; rfl) hlast
  · exact absurd (by rw [hprog]; rfl) hlast
  · have hv : (v.advance watcher).run.phase = .leaving (.error failure) := by
      rw [run_advance]
      exact Run.phase_after_failed hprog
    have hw : (w.advance watcher).run.phase = .leaving (.error failure) := by
      rw [run_advance]
      exact Run.phase_after_failed (by rwa [hd])
    exact sameEnd_of_leaving watcher hafter hv hw

/-- **Two runs that are alike come to the same end.** The induction is on the steps that are left. -/
theorem sameEnd_of_isCheck (hignores : watcher.IgnoresDelay) (h : Alike v w) (hv : v.run.isCheck)
    (hw : w.run.isCheck) :
    ∃ v' w', Reaches watcher v v' ∧ Reaches watcher w w' ∧ SameEnd v' w' := by
  induction hk : v.session.engine.settings.maxSteps - v.run.machine.dispatched using
    Nat.strongRecOn generalizing v w with
  | ind k ih =>
    cases hs : w.session.stopRequested with
    | true =>
      have hsv : v.session.stopRequested = true := by rw [h.stop, hs]
      have hstopped : Alike { v with run := v.run.stopped } { w with run := w.run.stopped } :=
        h.withPhase _ _
      have hphase : w.run.stopped.phase = .leaving (.ok (v.run.report true)) := by
        rw [h.report]
        rfl
      obtain ⟨v', w', hv', hw', hend⟩ := sameEnd_of_leaving watcher hstopped rfl hphase
      refine ⟨v', w', Reaches.head ?_, Reaches.head ?_, hend⟩
      · rwa [step_of_stop hv hsv]
      · rwa [step_of_stop hw hs]
    | false =>
      have hsv : v.session.stopRequested = false := by rw [h.stop, hs]
      set v₁ : Watched σ := { v with run := { v.run with phase := .advancing } } with hv₁
      set w₁ : Watched σ := { w with run := { w.run with phase := .advancing } } with hw₁
      have h₁ : Alike v₁ w₁ := h.withPhase _ _
      -- it is enough to come to the same end after the dispatch
      suffices hrest : ∃ v' w', Reaches watcher (v₁.advance watcher) v' ∧
          Reaches watcher (w₁.advance watcher) w' ∧ SameEnd v' w' by
        obtain ⟨v', w', hv', hw', hend⟩ := hrest
        refine ⟨v', w', reaches_advancing hv hsv (Reaches.head ?_),
          reaches_advancing hw hs (Reaches.head ?_), hend⟩
        · rwa [step_of_advancing rfl]
        · rwa [step_of_advancing rfl]
      by_cases hgoes : v₁.dispatch.progress.goesOn
      · have hcount : v.run.machine.dispatched < v.session.engine.settings.maxSteps ∧
            v₁.dispatch.machine.dispatched = v.run.machine.dispatched + 1 :=
          dispatched_of_goesOn hgoes
        have hengine : (v₁.advance watcher).session.engine = v.session.engine :=
          engine_session_advance
        refine ih _ ?_ (h₁.advance hignores) ?_ ?_ rfl
        · rw [hengine, run_advance, Run.machine_after]
          omega
        · rw [run_advance]
          exact Run.isCheck_after hgoes
        · rw [run_advance]
          exact Run.isCheck_after (by rwa [← h₁.dispatch])
      · exact sameEnd_of_last h₁ hignores hgoes

end Watched

/-! ### Whole runs -/

/-- A run begins in the same way whatever the length of its pauses. -/
lemma start_withDelay {s : Session} (hs : s.status ≠ .running) (source : String) (seen : σ)
    (delayMs : Nat) :
    (s.withDelay delayMs).start source seen =
      .ok ⟨{ s.withDelay delayMs with status := .running, stopRequested := false },
        { program := s.engine.read source }, seen⟩ := by
  rw [start, begin?_of_not_running (s := s.withDelay delayMs) hs]
  rfl

/-- **A run without others does not depend on the length of its pauses**: the result, what the
watcher has seen and the session, but for the length itself, are the same. -/
theorem run_withDelay (s : Session) (hs : s.status ≠ .running) (source : String)
    {watcher : Watcher σ} (hignores : watcher.IgnoresDelay) (seen : σ) (c d : Nat) :
    ((s.withDelay c).run source watcher seen).1 = ((s.withDelay d).run source watcher seen).1 ∧
      ((s.withDelay c).run source watcher seen).2.1.withDelay d =
        ((s.withDelay d).run source watcher seen).2.1 ∧
      ((s.withDelay c).run source watcher seen).2.2 =
        ((s.withDelay d).run source watcher seen).2.2 := by
  have hv := start_withDelay hs source seen c
  have hw := start_withDelay hs source seen d
  set v : Watched σ := ⟨{ s.withDelay c with status := .running, stopRequested := false },
    { program := s.engine.read source }, seen⟩ with hveq
  set w : Watched σ := ⟨{ s.withDelay d with status := .running, stopRequested := false },
    { program := s.engine.read source }, seen⟩ with hweq
  have halike : v.Alike w := ⟨rfl, rfl, rfl, rfl, rfl⟩
  obtain ⟨v', w', hv', hw', hend, result, hvl, hwl⟩ :=
    Watched.sameEnd_of_isCheck hignores halike rfl rfl
  have hfv : v.finish watcher = v' :=
    Watched.finish_eq_of_reaches rfl hv' (Watched.isLeft_iff.2 ⟨result, hvl⟩)
  have hfw : w.finish watcher = w' :=
    Watched.finish_eq_of_reaches rfl hw' (Watched.isLeft_iff.2 ⟨result, hwl⟩)
  have hdelay : w'.session.engine = s.engine.withDelay d := by
    rw [← hfw, Watched.finish_eq_after, Watched.engine_after]
    rfl
  have hrun : (s.withDelay c).run source watcher seen = (result, v'.session, v'.seen) := by
    simp [run, hv, hfv, Run.result?, hvl]
  have hrun' : (s.withDelay d).run source watcher seen = (result, w'.session, w'.seen) := by
    simp [run, hw, hfw, Run.result?, hwl]
  rw [hrun, hrun']
  refine ⟨rfl, ?_, hend.seen⟩
  have hsession : (v'.session.withDelay 0).withDelay d = (w'.session.withDelay 0).withDelay d := by
    rw [hend.session]
  have hsame : w'.session.engine.withDelay d = w'.session.engine := by
    rw [hdelay]
    rfl
  calc v'.session.withDelay d = (w'.session.withDelay 0).withDelay d := hsession
    _ = { w'.session with engine := w'.session.engine.withDelay d } := rfl
    _ = w'.session := by rw [hsame]

end Session

end RobotScript
