import RobotScript.Proofs.Session.Isolation
import RobotScript.Proofs.Session.Progress

/-!
Requests to stop reach their run and no other.

A run sets the status before it lowers the flag, and a client that asks it to stop reads the status
before it raises the flag. Both do so under the lock of the flag, so whoever holds that lock and
finds a run finds it past its start (`exists_driving_of_token`). From then on the flag stays up, as
only a reset of the flag or the start of another run would lower it, and the run, which
`Run.movesLeft` counts down, is out after at most one dispatch. In the other direction `Path.traced`
follows a run that was stopped back to a request that came after its own start. The main statement
is `stop_reaches_only_its_run`.
-/

namespace RobotScript.Session

variable {ι : Type}

/-- Whether a move is a dispatch. -/
def Effect.isAdvance : Effect → Bool
  | advance _ => true
  | _ => false

/-- A result that says that the run was stopped. -/
def Cancelled (result : Except Failure Report) : Prop :=
  ∃ report, result = .ok report ∧ report.cancelled = true

lemma status_of_cancelled {result : Except Failure Report} (h : Cancelled result) :
    Status.ofResult result = .cancelled := by
  obtain ⟨report, rfl, hc⟩ := h
  simp [Status.ofResult, hc]

/-! ### A run that finds the flag raised -/

/-- The moves that a run still makes under a raised flag until it is on its way out, from when it
has the lock of its next action. -/
def Phase.weight : Phase → Nat
  | polling => 3
  | advancing => 6
  | pausing => 3
  | leaving _ => 0
  | left _ => 0

/-- The moves from one lock to the next. -/
def Stage.weight : Stage → Nat
  | ready => 0
  | free => 1
  | acted _ => 2

/-- How many moves a run still makes, once the flag is raised and stays so. The last of them is the
one with which it leaves. -/
def Run.movesLeft (r : Run) (stage : Stage) : Nat := r.phase.weight + stage.weight

lemma movesLeft_le (r : Run) (stage : Stage) : r.movesLeft stage ≤ 8 := by
  have hphase : r.phase.weight ≤ 6 := by
    cases r.phase <;> simp [Phase.weight]
  have hstage : stage.weight ≤ 2 := by
    cases stage <;> simp [Stage.weight]
  unfold Run.movesLeft
  omega

lemma weight_of_isCheck {r : Run} (h : r.isCheck) : r.phase.weight = 3 := by
  rcases Run.phase_of_isCheck h with hp | hp
  · rw [hp]
    rfl
  · rw [hp]
    rfl

lemma isDispatch_of_isCheck {r : Run} (h : r.isCheck) : r.isDispatch = false := by
  rcases Run.phase_of_isCheck h with hp | hp
  · simp [Run.isDispatch, hp]
  · simp [Run.isDispatch, hp]

namespace Move

variable {s s' : Session} {r : Run} {stage : Stage} {e : Effect} {q : Point}

/-- **What a run does under a raised flag**: each move brings it nearer to its end, it makes no
dispatch but the one it was about to make, and it comes to a result either by that dispatch or
because it was stopped. -/
lemma driving_of_stop (m : Move s (.driving r stage) e q s') (hs : s.stopRequested = true)
    (he : e ≠ .leave) :
    ∃ r' stage', q = .driving r' stage' ∧
      r'.movesLeft stage' < r.movesLeft stage ∧
      e.isAdvance.toNat + r'.isDispatch.toNat ≤ r.isDispatch.toNat ∧
      ∀ result, r'.phase = .leaving result → r.phase = .leaving result ∨ Cancelled result ∨
        ∃ p, e = .advance p ∧ ¬p.goesOn := by
  cases m with
  | ready r h =>
    refine ⟨r, .ready, rfl, ?_, ?_, fun result hp => .inl hp⟩
    · simp [Run.movesLeft, Stage.weight]
    · simp [Effect.isAdvance]
  | look r h =>
    rw [act_of_stop h hs]
    refine ⟨r.stopped, .acted .token, rfl, ?_, ?_, ?_⟩
    · have hweight := weight_of_isCheck h
      simp only [Run.movesLeft, hweight]
      simp [Run.stopped, Phase.weight, Stage.weight]
    · simp [Effect.isAdvance, Run.isDispatch, Run.stopped]
    · intro result hp
      obtain rfl : .ok (r.report true) = result := Phase.leaving.inj hp
      exact .inr (.inl ⟨_, rfl, rfl⟩)
  | pause r h hs' => simp [hs] at hs'
  | advance r h =>
    have hadvancing := Run.phase_of_isDispatch h
    rw [act_of_isDispatch h]
    rcases Run.isCheck_after_or_leaving r s.engine.settings.delayMs (r.dispatch s) with
      ⟨hgoes, hcheck⟩ | ⟨hgoes, result', hphase, _⟩
    · refine ⟨_, .acted .field, rfl, ?_, ?_, ?_⟩
      · have hweight := weight_of_isCheck hcheck
        simp only [Run.movesLeft, hweight, hadvancing]
        simp [Phase.weight, Stage.weight]
      · simp [isDispatch_of_isCheck hcheck, h, Effect.isAdvance]
      · intro result hp
        have hweight := weight_of_isCheck hcheck
        rw [hp] at hweight
        cases hweight
    · refine ⟨_, .acted .field, rfl, ?_, ?_, fun _ _ => .inr (.inr ⟨_, rfl, hgoes⟩)⟩
      · simp [Run.movesLeft, hphase, hadvancing, Phase.weight, Stage.weight]
      · simp [Run.isDispatch, hphase, hadvancing, Effect.isAdvance]
  | release r lock =>
    refine ⟨r, .free, rfl, ?_, ?_, fun result hp => .inl hp⟩
    · simp [Run.movesLeft, Stage.weight]
    · simp [Effect.isAdvance]
  | leave r result h => exact absurd rfl he

end Move

/-! ### The flag stays up -/

section Flag

variable {w w' : World ι} {c d i : ι} {r : Run} {stage : Stage} {e : Effect}

lemma Move.isActive_of_start {s s' : Session} {p q : Point} (m : Move s p .start q s') :
    p.isActive = true ∧ ∀ r stage, p ≠ .driving r stage := by
  cases m
  exact ⟨rfl, nofun⟩

/-- Whoever holds the lock of the flag and finds a run finds it past its start. -/
lemma exists_driving_of_token (hs : w.Sound) (hd : (w.point d).holds .token = true)
    (hactive : (w.point d).isActive = false) (h : w.session.status = .running) :
    ∃ c r stage, w.point c = .driving r stage := by
  obtain ⟨c, hc⟩ := hs.running_iff.1 h
  cases hp : w.point c with
  | driving r stage => exact ⟨c, r, stage, hp⟩
  | clearing source =>
    have htoken : (w.point c).holds .token = true := by simp [hp, Point.holds]
    rw [hs.exclusive .token c d htoken hd, hactive] at hc
    cases hc
  | _ => simp [hp, Point.isActive] at hc

/-- The flag is raised under its lock, by a client that is not in a run. -/
lemma Move.holds_of_raise {s s' : Session} {p q : Point} (m : Move s p .raise q s') :
    p.holds .token = true ∧ p.isActive = false := by
  cases m <;> exact ⟨rfl, rfl⟩

/-- During a run past its start only a reset of the flag lowers it. -/
lemma Step.stopRequested_of_driving (h : Step w i e w') (hs : w.Sound)
    (hc : w.point c = .driving r stage) (hlower : e ≠ .lower)
    (hflag : w.session.stopRequested = true) : w'.session.stopRequested = true := by
  rcases h.move.stopRequested_cases with ⟨_, hup⟩ | ⟨he | he, _⟩ | ⟨_, _, _, hsame⟩
  · exact hup
  · exact absurd he hlower
  · subst he
    obtain ⟨hi, hne⟩ := h.move.isActive_of_start
    have hic : i = c := hs.one_active i c hi (by rw [hc]; rfl)
    exact absurd (hic ▸ hc) (hne r stage)
  · rw [hsame, hflag]

/-- A run does not raise the flag itself. -/
lemma Step.ne_of_raise (h : Step w d .raise w') (hc : w.point c = .driving r stage) : c ≠ d := by
  rintro rfl
  cases h.move_of_point hc

end Flag

/-! ### A run on its way out -/

section Out

variable [DecidableEq ι]

/-- How often a client moves. -/
def moveCount (c : ι) (log : List (ι × Effect)) : Nat := log.countP fun x => x.1 = c

/-- How often a client makes a dispatch. -/
def dispatchCount (c : ι) (log : List (ι × Effect)) : Nat :=
  log.countP fun x => x.1 = c && x.2.isAdvance

variable {w v v' : World ι} {c i : ι} {r r₁ : Run} {stage stage₁ : Stage} {e : Effect}
  {log : List (ι × Effect)}

lemma moveCount_snoc :
    moveCount c (log ++ [(i, e)]) = moveCount c log + (decide (i = c)).toNat := by
  by_cases h : i = c <;> simp [moveCount, h]

lemma dispatchCount_snoc :
    dispatchCount c (log ++ [(i, e)]) =
      dispatchCount c log + (decide (i = c) && e.isAdvance).toNat := by
  by_cases h : i = c
  · cases ha : e.isAdvance <;> simp [dispatchCount, h, ha]
  · simp [dispatchCount, h]

/-- The run `r` of `c` found the flag raised, and after some steps it has come to `r₁`. -/
structure Heeds (c : ι) (r : Run) (stage : Stage) (log : List (ι × Effect)) (v : World ι)
    (r₁ : Run) (stage₁ : Stage) : Prop where
  flag : v.session.stopRequested = true
  point : v.point c = .driving r₁ stage₁
  moves : moveCount c log + r₁.movesLeft stage₁ ≤ r.movesLeft stage
  dispatches : dispatchCount c log + r₁.isDispatch.toNat ≤ r.isDispatch.toNat
  result : ∀ result, r₁.phase = .leaving result → r.phase = .leaving result ∨ Cancelled result ∨
    ∃ p, (c, .advance p) ∈ log ∧ ¬p.goesOn

lemma Heeds.snoc (h : Heeds c r stage log v r₁ stage₁) (hs : v.Sound) (hstep : Step v i e v')
    (hlower : e ≠ .lower) (hleave : (i, e) ≠ (c, .leave)) :
    ∃ r₂ stage₂, Heeds c r stage (log ++ [(i, e)]) v' r₂ stage₂ := by
  have hflag := hstep.stopRequested_of_driving hs h.point hlower h.flag
  by_cases hic : i = c
  · subst hic
    have m := hstep.move_of_point h.point
    have he : e ≠ .leave := fun he => hleave (by rw [he])
    obtain ⟨r₂, stage₂, hpoint, hmoves, hdispatches, hresult⟩ := m.driving_of_stop h.flag he
    refine ⟨r₂, stage₂, hflag, hpoint, ?_, ?_, ?_⟩
    · have := h.moves
      simp only [moveCount_snoc, decide_true, Bool.toNat_true]
      omega
    · have := h.dispatches
      simp only [dispatchCount_snoc, decide_true, Bool.true_and]
      omega
    · intro result hp
      rcases hresult result hp with hbefore | hcancelled | ⟨p, he', hp'⟩
      · rcases h.result result hbefore with hr | hcancelled | ⟨p, hp, hgoes⟩
        · exact .inl hr
        · exact .inr (.inl hcancelled)
        · exact .inr (.inr ⟨p, List.mem_append_left _ hp, hgoes⟩)
      · exact .inr (.inl hcancelled)
      · exact .inr (.inr ⟨p, by simp [he'], hp'⟩)
  · refine ⟨r₁, stage₁, hflag, ?_, ?_, ?_, ?_⟩
    · rw [hstep.others c (Ne.symm hic), h.point]
    · have := h.moves
      simpa [moveCount_snoc, hic] using this
    · have := h.dispatches
      simpa [dispatchCount_snoc, hic] using this
    · intro result hp
      rcases h.result result hp with hr | hcancelled | ⟨p, hp, hgoes⟩
      · exact .inl hr
      · exact .inr (.inl hcancelled)
      · exact .inr (.inr ⟨p, List.mem_append_left _ hp, hgoes⟩)

/-- A run that finds the flag raised heeds it, whatever the others do. -/
lemma Path.heeds (h : Path w log v) (hw : w.Reachable) (hflag : w.session.stopRequested = true)
    (hc : w.point c = .driving r stage) (hlower : ∀ i, (i, Effect.lower) ∉ log)
    (hleave : (c, Effect.leave) ∉ log) : ∃ r₁ stage₁, Heeds c r stage log v r₁ stage₁ := by
  induction h with
  | nil =>
    refine ⟨r, stage, hflag, hc, ?_, ?_, fun result hp => .inl hp⟩
    · simp [moveCount]
    · simp [dispatchCount]
  | @snoc log v v' i e hpath hstep ih =>
    simp only [List.mem_append, not_or, List.mem_singleton] at hlower hleave
    obtain ⟨r₁, stage₁, hheeds⟩ := ih (fun j => (hlower j).1) hleave.1
    refine hheeds.snoc (hw.path hpath).sound hstep ?_ (Ne.symm hleave.2)
    rintro rfl
    exact (hlower i).2 rfl

end Out

/-! ### Where a stop comes from -/

section Origin

variable {w w' : World ι} {c i : ι} {r : Run} {stage : Stage} {e : Effect}
  {log : List (ι × Effect)}

/-- A run on its way out because it was stopped. -/
def Run.Stopped (r : Run) : Prop := ∃ result, r.phase = .leaving result ∧ Cancelled result

/-- A dispatch does not stop a run. -/
lemma not_stopped_after (delayMs : Nat) (a : Advance) : ¬(r.after delayMs a).Stopped := by
  rintro ⟨result, hresult, report, hreport, hcancelled⟩
  rcases Run.isCheck_after_or_leaving r delayMs a with ⟨_, hc⟩ | ⟨_, result', hphase, hnot⟩
  · simp [Run.isCheck, hresult] at hc
  · rw [hphase] at hresult
    cases hresult
    rw [hnot report hreport] at hcancelled
    cases hcancelled

/-- Nor does a look at a flag that is not raised. -/
lemma not_stopped_act {s : Session} (h : r.isCheck) (hs : s.stopRequested = false) :
    ¬(r.act s).run.Stopped := by
  rintro ⟨result, hresult, _⟩
  unfold Run.act at hresult
  rcases Run.phase_of_isCheck h with hp | hp
  · rw [Watched.step_of_polling (w := ⟨s, r, ()⟩) hp hs] at hresult
    cases hresult
  · rw [Watched.step_of_pausing (w := ⟨s, r, ()⟩) hp hs] at hresult
    cases hresult

/-- A client gets to a point of a run by starting it, or from an earlier point of it; a run that
was not stopped before is stopped only by a raised flag. -/
lemma Move.to_driving {s s' : Session} {p : Point} (m : Move s p e (.driving r stage) s') :
    (e = .start ∧ s'.stopRequested = false ∧ ¬r.Stopped) ∨
    (∃ r₀ stage₀, p = .driving r₀ stage₀ ∧ e ≠ .start ∧ e ≠ .leave ∧
      (r.Stopped → r₀.Stopped ∨ s.stopRequested = true)) := by
  generalize hq : Point.driving r stage = q at m
  cases m with
  | start source =>
    cases hq
    refine .inl ⟨rfl, rfl, ?_⟩
    rintro ⟨result, hresult, _⟩
    cases hresult
  | ready r' h =>
    cases hq
    exact .inr ⟨r, _, rfl, by simp, by simp, .inl⟩
  | look r' h =>
    cases hq
    refine .inr ⟨r', _, rfl, by simp, by simp, fun hstopped => .inr ?_⟩
    rcases hs : s.stopRequested with _ | _
    · exact absurd hstopped (not_stopped_act h hs)
    · rfl
  | pause r' h hs =>
    cases hq
    exact .inr ⟨r, _, rfl, by simp, by simp, .inl⟩
  | advance r' h =>
    cases hq
    refine .inr ⟨r', _, rfl, by simp, by simp, fun hstopped => ?_⟩
    rw [act_of_isDispatch h] at hstopped
    exact absurd hstopped (not_stopped_after _ _)
  | release r' lock =>
    cases hq
    exact .inr ⟨r, _, rfl, by simp, by simp, .inl⟩
  | load source => unfold Point.tryBegin at hq; split at hq <;> cases hq
  | retry source seen idle => unfold Point.tryBegin at hq; split at hq <;> cases hq
  | _ => cases hq

/-- The client `c` is in a run whose start is in the log, and if the flag is raised or the run was
stopped, somebody raised the flag after that start. -/
structure Traced (c : ι) (log : List (ι × Effect)) (w : World ι) (r : Run)
    (since : List (ι × Effect)) : Prop where
  own_start : ∃ before, log = before ++ (c, .start) :: since
  same_run : (c, .start) ∉ since ∧ (c, .leave) ∉ since
  raised : w.session.stopRequested = true ∨ r.Stopped → ∃ d, (d, .raise) ∈ since

/-- A step that is neither the start nor the end of a run adds to what happened since its start. -/
lemma Traced.snoc {r' : Run} {since : List (ι × Effect)} (h : Traced c log w r since)
    (hstart : (i, e) ≠ (c, .start)) (hleave : (i, e) ≠ (c, .leave))
    (hraised : w'.session.stopRequested = true ∨ r'.Stopped →
      e = .raise ∨ w.session.stopRequested = true ∨ r.Stopped) :
    Traced c (log ++ [(i, e)]) w' r' (since ++ [(i, e)]) := by
  obtain ⟨before, hbefore⟩ := h.own_start
  refine ⟨⟨before, by simp [hbefore]⟩, ?_, ?_⟩
  · simp only [List.mem_append, List.mem_singleton, not_or]
    exact ⟨⟨h.same_run.1, Ne.symm hstart⟩, h.same_run.2, Ne.symm hleave⟩
  · intro hw'
    rcases hraised hw' with he | hw
    · exact ⟨i, by simp [he]⟩
    · obtain ⟨d, hd⟩ := h.raised hw
      exact ⟨d, List.mem_append_left _ hd⟩

lemma Step.traced (hstep : Step w i e w')
    (ih : ∀ r stage, w.point c = .driving r stage → ∃ since, Traced c log w r since)
    (hc : w'.point c = .driving r stage) :
    ∃ since, Traced c (log ++ [(i, e)]) w' r since := by
  have hflag : w'.session.stopRequested = true → e = .raise ∨ w.session.stopRequested = true := by
    intro hup
    rcases hstep.move.stopRequested_cases with ⟨he, _⟩ | ⟨_, hdown⟩ | ⟨_, _, _, hsame⟩
    · exact .inl he
    · rw [hup] at hdown
      cases hdown
    · exact .inr (hsame ▸ hup)
  by_cases hci : c = i
  · subst hci
    have m := hstep.move
    rw [hc] at m
    rcases m.to_driving with ⟨rfl, hdown, hnot⟩ | ⟨r₀, stage₀, hpoint, hstart, hleave, hstop⟩
    · refine ⟨[], ⟨log, rfl⟩, ⟨List.not_mem_nil, List.not_mem_nil⟩, ?_⟩
      rintro (hup | hstopped)
      · rw [hup] at hdown
        cases hdown
      · exact absurd hstopped hnot
    · obtain ⟨since, htraced⟩ := ih r₀ stage₀ hpoint
      refine ⟨_, htraced.snoc (by simp [hstart]) (by simp [hleave]) ?_⟩
      rintro (hup | hstopped)
      · exact (hflag hup).imp_right .inl
      · exact .inr (hstop hstopped).symm
  · rw [hstep.others c hci] at hc
    obtain ⟨since, htraced⟩ := ih r stage hc
    refine ⟨_, htraced.snoc ?_ ?_ ?_⟩
    · rintro ⟨⟩
      exact hci rfl
    · rintro ⟨⟩
      exact hci rfl
    · rintro (hup | hstopped)
      · exact (hflag hup).imp_right .inl
      · exact .inr (.inr hstopped)

/-- **Every run can be traced to its own start**, and a stop to a request after it. -/
lemma Path.traced {s : Session} (h : Path (World.initial s) log w)
    (hc : w.point c = .driving r stage) : ∃ since, Traced c log w r since := by
  induction h generalizing r stage with
  | nil => cases hc
  | snoc _ hstep ih => exact hstep.traced (fun _ _ hc => ih hc) hc

end Origin

/-! ### Requests and the ends of runs -/

section Requests

variable {w w' : World ι} {c d : ι}

/-- A run leaves with the result it came to and stores what that result says. -/
lemma Step.leave_cases (h : Step w c .leave w') :
    ∃ r result, w.point c = .driving r .free ∧ r.phase = .leaving result ∧
      w'.point c = .outside (some (.ran result)) ∧ w'.session.status = .ofResult result := by
  have m := h.move
  generalize hp : w.point c = p at m
  generalize hq : w'.point c = q at m
  generalize hs' : w'.session = s' at m
  cases m with
  | leave r result hresult =>
    refine ⟨r, result, rfl, hresult, rfl, ?_⟩
    rw [session_act_of_leaving hresult]
    rfl

/-- A request to stop that finds no run changes nothing. -/
lemma cancel_ignored (hd : w.point d = .inside .cancel) (hs : w.session.status ≠ .running) :
    (∃ w', Step w d .none w') ∧
    ∀ e w', Step w d e w' → w'.session = w.session ∧ w'.Returns d .done := by
  constructor
  · exact exists_step hd (.ignore hs) fun _ hl => hl
  · intro e w' hstep
    have m := hstep.move_of_point hd
    generalize hq : w'.point d = q at m
    generalize w'.session = s' at m
    cases m with
    | ignore _ => exact ⟨rfl, returns_of_answering hq⟩
    | notice hrunning => exact absurd hrunning hs

/-- A request to stop that finds a run goes on to raise the flag. -/
lemma cancel_noticed (hd : w.point d = .inside .cancel) (hs : w.session.status = .running) :
    (∃ w', Step w d .none w') ∧
    ∀ e w', Step w d e w' → w'.session = w.session ∧ w'.point d = .raising := by
  constructor
  · exact exists_step hd (.notice hs) fun _ hl => hl
  · intro e w' hstep
    have m := hstep.move_of_point hd
    generalize w'.point d = q, w'.session = s' at m
    cases m with
    | ignore hidle => exact absurd hs hidle
    | notice _ => exact ⟨rfl, rfl⟩

/-- A client about to raise the flag does so. -/
lemma raise_of_raising (hd : w.point d = .raising) :
    (∃ w', Step w d .raise w') ∧ ∀ e w', Step w d e w' → e = .raise := by
  constructor
  · exact exists_step hd .cancel fun _ hl => hl
  · intro e w' hstep
    have m := hstep.move_of_point hd
    generalize w'.point d = q, w'.session = s' at m
    cases m
    rfl

lemma Step.stopRequested_of_raise (h : Step w d .raise w') : w'.session.stopRequested = true := by
  rcases h.move.stopRequested_cases with ⟨_, hup⟩ | ⟨he | he, _⟩ | ⟨he, _⟩
  · exact hup
  · cases he
  · cases he
  · exact absurd rfl he

lemma Step.stopRequested_of_start (h : Step w c .start w') :
    w'.session.stopRequested = false := by
  rcases h.move.stopRequested_cases with ⟨he, _⟩ | ⟨_, hdown⟩ | ⟨_, _, he, _⟩
  · cases he
  · exact hdown
  · exact absurd rfl he

lemma halted_or_failed {p : Progress} (h : ¬p.goesOn) :
    p = .halted ∨ ∃ failure, p = .failed failure := by
  rcases p with _ | _ | tick | failure
  · exact .inl rfl
  · exact absurd rfl h
  · exact absurd rfl h
  · exact .inr ⟨failure, rfl⟩

end Requests

/-! ### A stop is neither lost nor passed on -/

/-- A run that came to its result under a raised flag was stopped, unless it had its result before
or came to it by the one dispatch it was about to make. -/
lemma Heeds.leave [DecidableEq ι] {c : ι} {r r₁ : Run} {stage stage₁ : Stage}
    {log : List (ι × Effect)} {v v' : World ι} (h : Heeds c r stage log v r₁ stage₁)
    (hstep : Step v c .leave v') :
    ∃ result, v'.point c = .outside (some (.ran result)) ∧
      ((Cancelled result ∧ v'.session.status = .cancelled) ∨ r.phase = .leaving result ∨
        ∃ p, (c, .advance p) ∈ log ∧ (p = .halted ∨ ∃ failure, p = .failed failure)) := by
  obtain ⟨r₂, result, hpoint, hphase, houtside, hstatus⟩ := hstep.leave_cases
  obtain ⟨rfl, _⟩ := Point.driving.inj (h.point.symm.trans hpoint)
  refine ⟨result, houtside, ?_⟩
  rcases h.result result hphase with hbefore | hcancelled | ⟨p, hp, hgoes⟩
  · exact .inr (.inl hbefore)
  · exact .inl ⟨hcancelled, hstatus.trans (status_of_cancelled hcancelled)⟩
  · exact .inr (.inr ⟨p, hp, halted_or_failed hgoes⟩)

/-- **A stop reaches its run and no other, in whatever order the clients move.** Whoever raises the
flag while the status is running does so past the start of the run, and a request that finds the
status running goes on to raise the flag. Once the flag is raised during a run and nobody lowers it,
the run makes at most one more dispatch and at most eight moves in all; it is never stuck but behind
a lock whose holder can go on; and it leaves as stopped, unless it had its result already or its
last dispatch halted or failed. In the other direction, a run that says it was stopped has in its
history a request after its own start: a request that finds no run changes nothing, and the start of
a run lowers the flag. -/
theorem stop_reaches_only_its_run [DecidableEq ι] {s : Session} {history : List (ι × Effect)}
    {w : World ι} (hs : s.status ≠ .running) (h : Path (World.initial s) history w) :
    (∀ d w₁, Step w d .raise w₁ → w.session.status = .running →
      ∃ c r stage, w.point c = .driving r stage) ∧
    (∀ d, w.point d = .inside .cancel → w.session.status = .running →
      (∃ w', Step w d .none w') ∧
      ∀ e w', Step w d e w' → w'.session = w.session ∧ w'.point d = .raising) ∧
    (∀ d, w.point d = .raising →
      (∃ w', Step w d .raise w') ∧ ∀ e w', Step w d e w' → e = .raise) ∧
    (∀ c d r stage w₁ log v, w.point c = .driving r stage → Step w d .raise w₁ →
      Path w₁ log v → (∀ i, (i, .lower) ∉ log) → (c, .leave) ∉ log →
      dispatchCount c log ≤ 1 ∧ moveCount c log ≤ 8 ∧
      (∃ r' stage', v.point c = .driving r' stage' ∧
        ((∃ e v', Step v c e v') ∨
          ∃ l i e v', r'.phase.lock? = some l ∧ (v.point i).holds l ∧ Step v i e v')) ∧
      ∀ v', Step v c .leave v' →
        ∃ result, v'.point c = .outside (some (.ran result)) ∧
          ((Cancelled result ∧ v'.session.status = .cancelled) ∨ r.phase = .leaving result ∨
            ∃ p, (c, .advance p) ∈ log ∧ (p = .halted ∨ ∃ failure, p = .failed failure))) ∧
    (∀ c w' result, Step w c .leave w' → w'.point c = .outside (some (.ran result)) →
      Cancelled result →
      ∃ before since d, history = before ++ (c, .start) :: since ∧
        (c, .start) ∉ since ∧ (c, .leave) ∉ since ∧ (d, .raise) ∈ since) ∧
    (∀ d, w.point d = .inside .cancel → w.session.status ≠ .running →
      (∃ w', Step w d .none w') ∧
      ∀ e w', Step w d e w' → w'.session = w.session ∧ w'.Returns d .done) ∧
    (∀ c w', Step w c .start w' → w'.session.stopRequested = false) := by
  have hw : w.Reachable := ⟨s, history, hs, h⟩
  refine ⟨?_, fun d => cancel_noticed, fun d => raise_of_raising, ?_, ?_,
    fun d => cancel_ignored, fun c w' => Step.stopRequested_of_start⟩
  · intro d w₁ hraise hrunning
    obtain ⟨htoken, hactive⟩ := hraise.move.holds_of_raise
    exact exists_driving_of_token hw.sound htoken hactive hrunning
  · intro c d r stage w₁ log v hc hraise hpath hlower hleave
    have hw₁ : w₁.Reachable := hw.step hraise
    have hc₁ : w₁.point c = .driving r stage :=
      (hraise.others c (hraise.ne_of_raise hc)).trans hc
    obtain ⟨r', stage', hheeds⟩ :=
      hpath.heeds hw₁ hraise.stopRequested_of_raise hc₁ hlower hleave
    refine ⟨?_, ?_, ⟨r', stage', hheeds.point, ?_⟩, fun v' => hheeds.leave⟩
    · have hdispatches := hheeds.dispatches
      have hle := r.isDispatch.toNat_le
      omega
    · have hmoves := hheeds.moves
      have hle := movesLeft_le r stage
      omega
    · exact exists_step_of_driving (hw₁.path hpath) hheeds.point
  · intro c w' result hstep hresult hcancelled
    obtain ⟨r, result', hpoint, hphase, houtside, _⟩ := hstep.leave_cases
    obtain rfl : result' = result := by
      rw [houtside] at hresult
      cases hresult
      rfl
    obtain ⟨since, htraced⟩ := h.traced hpoint
    obtain ⟨before, hbefore⟩ := htraced.own_start
    obtain ⟨d, hd⟩ := htraced.raised (.inr ⟨result', hphase, hcancelled⟩)
    exact ⟨before, since, d, hbefore, htraced.same_run.1, htraced.same_run.2, hd⟩

/-- A request that comes when a run has the field for the first of its two steps lets it make this
step and stops it before the second. -/
theorem stop_reaches_only_its_run_of_two_steps :
    ∃ (history log : List (Bool × Effect)) (w w₁ v v' : World Bool),
      Path (World.initial {}) history w ∧ Step w false .raise w₁ ∧ Path w₁ log v ∧
      (true, .advance (.ticked ⟨0, 1, .moved ⟨0, 0⟩ ⟨1, 0⟩ .east, ⟨1, 0⟩⟩)) ∈ log ∧
      dispatchCount true log ≤ 1 ∧ Step v true .leave v' ∧ v'.session.status = .cancelled ∧
      ∃ before since d, history ++ (false, .raise) :: log = before ++ (true, .start) :: since ∧
        (d, .raise) ∈ since := by
  let s : Session := { status := .running }
  let r : Run := { program := s.engine.read "вправо\nвниз", phase := .advancing }
  let t : Session := { s.raiseStop with field := (r.dispatch s.raiseStop).field }
  let after : Run := r.after s.engine.settings.delayMs (r.dispatch s.raiseStop)
  have hticked : (r.dispatch s.raiseStop).progress =
      .ticked ⟨0, 1, .moved ⟨0, 0⟩ ⟨1, 0⟩ .east, ⟨1, 0⟩⟩ := by
    decide +kernel
  have hcheck : after.isCheck := Run.isCheck_after (by rw [hticked]; rfl)
  -- the run has the field for its first step, and the other client takes the lock of the flag
  obtain ⟨begun, hbegun⟩ := exists_path_two_begun (s := {}) "вправо\nвниз" nofun
  have hfree : ∀ l, (Point.inside .raiseStop).holds l = true →
      (Point.waiting .raiseStop).holds l = true ∨ (Point.driving r .ready).holds l = false := by
    rintro (_ | _) hl
    · cases hl
    · exact .inr rfl
  have hhistory := (hbegun.snoc (step_two_false (.call none .raiseStop) nofun)).snoc
    (step_two_false (.take .raiseStop) hfree)
  have hraise := step_two_false (s := s) (p := .driving r .ready) .raise (fun _ hl => .inl hl)
  -- the run makes its step, finds the flag raised and leaves
  have hadvance := (Path.single (step_two_false (s := s.raiseStop) (p := .driving r .ready)
    (.answer .token .done) nofun)).snoc (step_two_true (.advance r rfl) (fun _ _ => .inr rfl))
  rw [hticked, act_of_isDispatch rfl] at hadvance
  have hlog := (hadvance.snoc (step_two_true (.release after .field) nofun)).trans
    (path_two_look hcheck (act_of_stop (s := t) hcheck rfl) fun _ => rfl)
  have hleave := step_two_true (s := t) (q := .outside (some .done))
    (.leave after.stopped _ rfl) nofun
  obtain ⟨_, _, _, hkept, _⟩ := stop_reaches_only_its_run (s := {}) nofun hhistory
  obtain ⟨hone, _, _, hresult⟩ :=
    hkept true false r .ready _ _ _ rfl hraise hlog (by simp) (by simp)
  obtain ⟨result, houtside, hcases⟩ := hresult _ hleave
  obtain ⟨hcancelled, hstatus⟩ : Cancelled result ∧ _ := by
    rcases hcases with hstopped | hphase | ⟨p, hp, hend⟩
    · exact hstopped
    · cases hphase
    · have hp : p = .ticked ⟨0, 1, .moved ⟨0, 0⟩ ⟨1, 0⟩ .east, ⟨1, 0⟩⟩ := by simpa using hp
      rcases hend with rfl | ⟨failure, rfl⟩ <;> cases hp
  obtain ⟨_, _, _, _, horigin, _⟩ :=
    stop_reaches_only_its_run (s := {}) nofun ((hhistory.snoc hraise).trans hlog)
  obtain ⟨before, since, d, hbefore, _, _, hd⟩ := horigin true _ result hleave houtside hcancelled
  refine ⟨_, _, _, _, _, _, hhistory, hraise, hlog, by simp, hone, hleave, hstatus, before, since,
    d, ?_, hd⟩
  rw [List.append_cons]
  exact hbefore

end RobotScript.Session
