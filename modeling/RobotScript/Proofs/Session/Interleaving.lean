import Mathlib.Logic.Function.Basic
import Mathlib.Logic.Relation
import RobotScript.Proofs.Session.Actions

/-!
Clients of a session whose calls overlap.

Any number of clients call a session. A client goes through the points of its call one move at a
time: it takes a lock, loads the status, exchanges it, reads or writes the flag or the field, stores
the status, gives the lock back. `Move` says what one move does to the session and `Step` lets one
client of a `World` move while the others stand still; a move into a point that holds a lock waits
until nobody else holds it. One lock guards the field and one the stop flag. The status has no lock
of its own: a change of the field reads it under the first lock, the start of a run and a request to
stop under the second, and the end of a run stores it under neither.

A watcher, which is told of a dispatch while its run still holds the field, can do nothing to the
session that another client could not do at that moment, so the runs here have no watcher. A client
alone does what the functions of `Session` do in one go: `alone_edit`, `alone_update`,
`alone_reset`, `alone_cancel` and `alone_run`.
-/

namespace RobotScript.Session

/-! ### Calls -/

/-- The locks of a session. -/
inductive Lock where
  | field
  | token
deriving DecidableEq

/-- A change of the field, which may be refused. -/
abbrev Change := Field → Except Field.Error Unit × Field

/-- A call of a client. -/
inductive Call where
  | run (source : String)
  | edit (change : Change)
  | snapshot
  | cancel
  /-- Raises the stop flag, whether or not a run is active. -/
  | raiseStop
  /-- Lowers the stop flag. -/
  | clearStop
  | isCancelled
  /-- Waits for the stop flag or for some time to pass. -/
  | sleep

/-- The call of a partial update. -/
def Call.update (u : Field.Update) : Call :=
  .edit fun f =>
    match f.apply u with
    | .ok f' => (.ok (), f')
    | .error e => (.error e, f)

/-- The call that resets the field. -/
def Call.reset : Call := .edit fun f => (.ok (), f.reset)

/-- The lock under which a call does its work, or the first part of it. -/
def Call.lock : Call → Lock
  | edit _ => .field
  | snapshot => .field
  | _ => .token

/-- What a call returns. -/
inductive Answer where
  | ran (result : Except Failure Report)
  | edited (result : Except Field.Error Unit)
  | snapshot (contents : Field.Snapshot)
  | cancelled (flag : Bool)
  | done

/-! ### Points of a call -/

/-- The lock a run needs for its next action. -/
def Phase.lock? : Phase → Option Lock
  | polling => some .token
  | advancing => some .field
  | pausing => some .token
  | leaving _ => none
  | left _ => none

/-- Where a run stands between its actions and its locks. -/
inductive Stage where
  /-- Without a lock. -/
  | free
  /-- With the lock for its next action. -/
  | ready
  /-- With the lock of the action it has made. -/
  | acted (lock : Lock)
deriving DecidableEq

/-- Where a client stands. -/
inductive Point where
  /-- Between two calls, with the answer of the last one. -/
  | outside (last : Option Answer)
  /-- About to take the lock of a call. -/
  | waiting (call : Call)
  /-- With the lock of a call, before anything else. -/
  | inside (call : Call)
  /-- In the middle of a change of a field that was found as given. -/
  | changing (change : Change) (found : Field)
  /-- About to raise the flag, after a run was seen to be active. -/
  | raising
  /-- About to exchange the status, which was seen not to be running. -/
  | exchanging (source : String) (seen : Status) (idle : seen ≠ .running)
  /-- In a new run, about to lower the flag. -/
  | clearing (source : String)
  /-- About to give a lock back and return. -/
  | answering (lock : Lock) (answer : Answer)
  /-- In a run. -/
  | driving (run : Run) (stage : Stage)

namespace Point

/-- Whether a client holds a lock. -/
def holds (l : Lock) : Point → Bool
  | inside call => call.lock = l
  | changing .. => Lock.field = l
  | raising => Lock.token = l
  | exchanging .. => Lock.token = l
  | clearing _ => Lock.token = l
  | answering lock _ => lock = l
  | driving run .ready => run.phase.lock? = some l
  | driving _ (.acted lock) => lock = l
  | _ => false

/-- Whether a client is in a run: it has begun one and has not left it. -/
def isActive : Point → Bool
  | clearing _ => true
  | driving .. => true
  | _ => false

/-- Whether a client is in the middle of a change of the field. -/
def isChanging : Point → Bool
  | changing .. => true
  | _ => false

/-- The point after a look at the status by a client that wants to run a script. -/
def tryBegin (source : String) (seen : Status) : Point :=
  if h : seen = .running then .answering .token (.ran (.error .alreadyRunning))
  else .exchanging source seen h

end Point

/-- What a move does to what the clients share, locks apart. -/
inductive Effect where
  | none
  /-- Sets the status to running. -/
  | begin
  /-- Lowers the flag at the start of a run. -/
  | start
  | raise
  | lower
  | change
  | advance (progress : Progress)
  /-- Sets the status to what the run came to. -/
  | leave
deriving DecidableEq

/-! ### Moves -/

namespace Run

/-- The session and the run after the next action of the run. -/
def act (r : Run) (s : Session) : Watched Unit := (⟨s, r, ()⟩ : Watched Unit).step Watcher.idle

/-- What the next dispatch of the run does. -/
def dispatch (r : Run) (s : Session) : Advance := (⟨s, r, ()⟩ : Watched Unit).dispatch

end Run

/-- **One move of a client**: from a point to a point, with what it does to the session. -/
inductive Move (s : Session) : Point → Effect → Point → Session → Prop
  | call (last : Option Answer) (call : Call) : Move s (.outside last) .none (.waiting call) s
  | take (call : Call) : Move s (.waiting call) .none (.inside call) s
  | answer (lock : Lock) (answer : Answer) :
      Move s (.answering lock answer) .none (.outside (some answer)) s
  -- a change of the field
  | busy (change : Change) (h : s.status = .running) :
      Move s (.inside (.edit change)) .none (.answering .field (.edited (.error .busy))) s
  | allow (change : Change) (h : s.status ≠ .running) :
      Move s (.inside (.edit change)) .none (.changing change s.field) s
  /-- In the middle of a change the field may hold anything. -/
  | scratch (change : Change) (found f : Field) :
      Move s (.changing change found) .change (.changing change found) { s with field := f }
  | change (change : Change) (found : Field) :
      Move s (.changing change found) .change (.answering .field (.edited (change found).1))
        { s with field := (change found).2 }
  | snapshot :
      Move s (.inside .snapshot) .none (.answering .field (.snapshot s.field.snapshot)) s
  -- the stop flag
  | ignore (h : s.status ≠ .running) : Move s (.inside .cancel) .none (.answering .token .done) s
  | notice (h : s.status = .running) : Move s (.inside .cancel) .none .raising s
  | cancel : Move s .raising .raise (.answering .token .done) s.raiseStop
  | raise : Move s (.inside .raiseStop) .raise (.answering .token .done) s.raiseStop
  | lower : Move s (.inside .clearStop) .lower (.answering .token .done) s.clearStop
  | ask : Move s (.inside .isCancelled) .none (.answering .token (.cancelled s.stopRequested)) s
  | wake : Move s (.inside .sleep) .none (.answering .token (.cancelled s.stopRequested)) s
  /-- A client that sleeps gives the lock back while it waits. -/
  | doze (h : s.stopRequested = false) : Move s (.inside .sleep) .none (.waiting .sleep) s
  -- the start of a run
  | load (source : String) : Move s (.inside (.run source)) .none (.tryBegin source s.status) s
  /-- An exchange may fail, also without a reason; then the status is looked at again. -/
  | retry (source : String) (seen : Status) (idle : seen ≠ .running) :
      Move s (.exchanging source seen idle) .none (.tryBegin source s.status) s
  | exchange (source : String) (seen : Status) (idle : seen ≠ .running) (h : s.status = seen) :
      Move s (.exchanging source seen idle) .begin (.clearing source) { s with status := .running }
  | start (source : String) :
      Move s (.clearing source) .start
        (.driving { program := s.engine.read source } (.acted .token)) s.clearStop
  -- the run itself
  | ready (r : Run) (h : r.phase.lock?.isSome) :
      Move s (.driving r .free) .none (.driving r .ready) s
  | look (r : Run) (h : r.isCheck) :
      Move s (.driving r .ready) .none (.driving (r.act s).run (.acted .token)) (r.act s).session
  /-- A pause that is not over gives the lock back while it lasts. -/
  | pause (r : Run) (h : r.phase = .pausing) (hs : s.stopRequested = false) :
      Move s (.driving r .ready) .none (.driving r (.acted .token)) s
  | advance (r : Run) (h : r.isDispatch) :
      Move s (.driving r .ready) (.advance (r.dispatch s).progress)
        (.driving (r.act s).run (.acted .field)) (r.act s).session
  | release (r : Run) (lock : Lock) : Move s (.driving r (.acted lock)) .none (.driving r .free) s
  | leave (r : Run) (result : Except Failure Report) (h : r.phase = .leaving result) :
      Move s (.driving r .free) .leave (.outside (some (.ran result))) (r.act s).session

/-! ### What moves do to each part of the session -/

section Acts

variable {s : Session} {r : Run}

lemma act_of_stop (h : r.isCheck) (hs : s.stopRequested = true) :
    r.act s = ⟨s, r.stopped, ()⟩ := Watched.step_of_stop (w := ⟨s, r, ()⟩) h hs

lemma session_act_of_isCheck (h : r.isCheck) : (r.act s).session = s := by
  cases hs : s.stopRequested with
  | true => rw [act_of_stop h hs]
  | false =>
    unfold Run.act
    rcases Run.phase_of_isCheck h with hp | hp
    · rw [Watched.step_of_polling (w := ⟨s, r, ()⟩) hp hs]
    · rw [Watched.step_of_pausing (w := ⟨s, r, ()⟩) hp hs]

/-- A look at the flag is made under its lock. -/
lemma lock?_of_isCheck (h : r.isCheck) : r.phase.lock? = some .token := by
  rcases Run.phase_of_isCheck h with hp | hp
  · rw [hp]
    rfl
  · rw [hp]
    rfl

/-- A dispatch changes the field of the session and nothing else. -/
lemma act_of_isDispatch (h : r.isDispatch) :
    r.act s = ⟨{ s with field := (r.dispatch s).field },
      r.after s.engine.settings.delayMs (r.dispatch s), ()⟩ := by
  unfold Run.act
  rw [Watched.step_of_advancing (Run.phase_of_isDispatch h)]
  rcases he : (r.dispatch s).progress.event? with _ | event
  · rw [Watched.advance_of_none he]
    rfl
  · rw [Watched.advance_of_some he]
    rfl

lemma session_act_of_leaving {result : Except Failure Report} (h : r.phase = .leaving result) :
    (r.act s).session = s.leave result := by
  unfold Run.act
  rw [Watched.step_of_leaving (w := ⟨s, r, ()⟩) h]

/-- A lock is for a look or a dispatch. -/
lemma isCheck_or_isDispatch (h : r.phase.lock?.isSome) : r.isCheck ∨ r.isDispatch := by
  rcases hp : r.phase with _ | _ | _ | result | result
  · simp [Run.isCheck, hp]
  · simp [Run.isDispatch, hp]
  · simp [Run.isCheck, hp]
  · simp [Phase.lock?, hp] at h
  · simp [Phase.lock?, hp] at h

/-- Without a lock to take, a run is on its way out. -/
lemma leaving_of_lock?_eq_none (h : r.phase.lock? = none) (hleft : ¬r.isLeft) :
    ∃ result, r.phase = .leaving result := by
  rcases hp : r.phase with _ | _ | _ | result | result
  · simp [hp, Phase.lock?] at h
  · simp [hp, Phase.lock?] at h
  · simp [hp, Phase.lock?] at h
  · exact ⟨result, rfl⟩
  · exact absurd (Watched.isLeft_iff.2 ⟨result, hp⟩) hleft

lemma status_ofResult_ne_running (result : Except Failure Report) :
    Status.ofResult result ≠ .running := by
  unfold Status.ofResult
  split
  · split <;> simp
  · simp

end Acts

@[simp] lemma isActive_tryBegin (source : String) (seen : Status) :
    (Point.tryBegin source seen).isActive = false := by
  unfold Point.tryBegin
  split <;> rfl

@[simp] lemma isChanging_tryBegin (source : String) (seen : Status) :
    (Point.tryBegin source seen).isChanging = false := by
  unfold Point.tryBegin
  split <;> rfl

@[simp] lemma holds_tryBegin (l : Lock) (source : String) (seen : Status) :
    (Point.tryBegin source seen).holds l = decide (Lock.token = l) := by
  unfold Point.tryBegin
  split <;> rfl

namespace Move

variable {s s' : Session} {p q : Point} {e : Effect}

/-- **The status changes with the runs**: a move begins a run where there was none, or ends one, or
leaves both the status and whether its client is in a run alone. -/
lemma status_cases (m : Move s p e q s') :
    (e = .begin ∧ s.status ≠ .running ∧ s'.status = .running ∧ q.isActive = true) ∨
    (e = .leave ∧ s'.status ≠ .running ∧ p.isActive = true ∧ q.isActive = false) ∨
    (e ≠ .begin ∧ e ≠ .leave ∧ s'.status = s.status ∧ q.isActive = p.isActive) := by
  cases m with
  | exchange source seen idle h =>
    left
    exact ⟨rfl, h ▸ idle, rfl, rfl⟩
  | leave r result h =>
    right; left
    rw [session_act_of_leaving h]
    exact ⟨rfl, status_ofResult_ne_running result, rfl, rfl⟩
  | look r h =>
    right; right
    rw [session_act_of_isCheck h]
    exact ⟨by simp, by simp, rfl, rfl⟩
  | advance r h =>
    right; right
    rw [act_of_isDispatch h]
    exact ⟨by simp, by simp, rfl, rfl⟩
  | load source => exact .inr (.inr ⟨by simp, by simp, rfl, isActive_tryBegin _ _⟩)
  | retry source seen idle => exact .inr (.inr ⟨by simp, by simp, rfl, isActive_tryBegin _ _⟩)
  | _ => exact .inr (.inr ⟨by simp, by simp, rfl, rfl⟩)

/-- **The flag changes with the effects that say so.** -/
lemma stopRequested_cases (m : Move s p e q s') :
    (e = .raise ∧ s'.stopRequested = true) ∨
    ((e = .lower ∨ e = .start) ∧ s'.stopRequested = false) ∨
    (e ≠ .raise ∧ e ≠ .lower ∧ e ≠ .start ∧ s'.stopRequested = s.stopRequested) := by
  cases m with
  | cancel => exact .inl ⟨rfl, rfl⟩
  | raise => exact .inl ⟨rfl, rfl⟩
  | lower => exact .inr (.inl ⟨.inl rfl, rfl⟩)
  | start source => exact .inr (.inl ⟨.inr rfl, rfl⟩)
  | look r h =>
    right; right
    rw [session_act_of_isCheck h]
    exact ⟨by simp, by simp, by simp, rfl⟩
  | advance r h =>
    right; right
    rw [act_of_isDispatch h]
    exact ⟨by simp, by simp, by simp, rfl⟩
  | leave r result h =>
    right; right
    rw [session_act_of_leaving h]
    exact ⟨by simp, by simp, by simp, rfl⟩
  | _ => exact .inr (.inr ⟨by simp, by simp, by simp, rfl⟩)

/-- **The field changes in the middle of a change and by the dispatches of a run.** -/
lemma field_cases (m : Move s p e q s') :
    (e = .change ∧ p.isChanging = true) ∨
    (∃ progress r, e = .advance progress ∧ p = .driving r .ready ∧ r.phase = .advancing) ∨
    (e ≠ .change ∧ (∀ progress, e ≠ .advance progress) ∧ s'.field = s.field) := by
  cases m with
  | scratch change found f => exact .inl ⟨rfl, rfl⟩
  | change change found => exact .inl ⟨rfl, rfl⟩
  | advance r h => exact .inr (.inl ⟨_, r, rfl, rfl, Run.phase_of_isDispatch h⟩)
  | look r h =>
    right; right
    rw [session_act_of_isCheck h]
    exact ⟨by simp, by simp, rfl⟩
  | leave r result h =>
    right; right
    rw [session_act_of_leaving h]
    exact ⟨by simp, by simp, rfl⟩
  | _ => exact .inr (.inr ⟨by simp, by simp, rfl⟩)

/-- A change is let in only while the status is not running. -/
lemma isChanging_of_running (m : Move s p e q s') (h : s.status = .running)
    (hq : q.isChanging = true) : p.isChanging = true := by
  cases m with
  | allow change hs => exact absurd h hs
  | scratch change found f => rfl
  | load source => simp at hq
  | retry source seen idle => simp at hq
  | _ => cases hq

end Move

/-! ### A client alone -/

/-- The moves of a client that nobody disturbs. -/
def Alone : Session × Point → Session × Point → Prop :=
  Relation.ReflTransGen fun a b => ∃ e, Move a.1 a.2 e b.2 b.1

section Alone

variable {s s' s'' : Session} {p q o : Point} {e : Effect}

lemma Alone.then (m : Move s p e q s') (h : Alone (s', q) (s'', o)) : Alone (s, p) (s'', o) :=
  Relation.ReflTransGen.head ⟨e, m⟩ h

lemma alone_answer (s : Session) (lock : Lock) (answer : Answer) :
    Alone (s, .answering lock answer) (s, .outside (some answer)) :=
  Relation.ReflTransGen.single ⟨.none, .answer lock answer⟩

/-- A change of the field that nobody disturbs is `Session.edit`. -/
theorem alone_edit (s : Session) (change : Change) :
    Alone (s, .waiting (.edit change))
      ((s.edit change).2, .outside (some (.edited (s.edit change).1))) := by
  apply Alone.then (.take _)
  by_cases h : s.status = .running
  · rw [edit_of_running h]
    exact Alone.then (.busy change h) (alone_answer _ _ _)
  · have hedit : s.edit change = ((change s.field).1, { s with field := (change s.field).2 }) := by
      simp [edit, Status.isRunning, h]
    rw [hedit]
    exact Alone.then (.allow change h)
      (Alone.then (.change change s.field) (alone_answer _ _ _))

/-- A partial update that nobody disturbs is `Session.update`. -/
theorem alone_update (s : Session) (u : Field.Update) :
    Alone (s, .waiting (.update u)) ((s.update u).2, .outside (some (.edited (s.update u).1))) :=
  alone_edit s _

/-- A reset of the field that nobody disturbs is `Session.reset`. -/
theorem alone_reset (s : Session) :
    Alone (s, .waiting .reset) (s.reset.2, .outside (some (.edited s.reset.1))) :=
  alone_edit s _

/-- A request to stop that nobody disturbs is `Session.cancel`. -/
theorem alone_cancel (s : Session) :
    Alone (s, .waiting .cancel) (s.cancel, .outside (some .done)) := by
  apply Alone.then (.take _)
  by_cases h : s.status = .running
  · rw [cancel_of_running h]
    exact Alone.then (.notice h) (Alone.then .cancel (alone_answer _ _ _))
  · rw [cancel_of_not_running h]
    exact Alone.then (.ignore h) (alone_answer _ _ _)

/-- An action of a run: its lock, the action, the lock given back. -/
lemma alone_step {w : Watched Unit} (h : w.run.phase.lock?.isSome) :
    Alone (w.session, .driving w.run .free)
      ((w.step Watcher.idle).session, .driving (w.step Watcher.idle).run .free) := by
  apply Alone.then (.ready w.run h)
  rcases isCheck_or_isDispatch h with hc | hd
  · exact Alone.then (.look w.run hc)
      (Relation.ReflTransGen.single ⟨.none, .release _ _⟩)
  · exact Alone.then (.advance w.run hd)
      (Relation.ReflTransGen.single ⟨.none, .release _ _⟩)

lemma not_isLeft_step {σ : Type} {watcher : Watcher σ} {w : Watched σ}
    (h : w.run.phase.lock?.isSome) : ¬(w.step watcher).run.isLeft := by
  intro hleft
  obtain ⟨result, hresult⟩ := Watched.isLeft_iff.1 hleft
  rcases isCheck_or_isDispatch h with hc | hd
  · cases hs : w.session.stopRequested with
    | true =>
      rw [Watched.step_of_stop hc hs] at hresult
      cases hresult
    | false =>
      rcases Run.phase_of_isCheck hc with hp | hp
      · rw [Watched.step_of_polling hp hs] at hresult
        cases hresult
      · rw [Watched.step_of_pausing hp hs] at hresult
        cases hresult
  · rw [Watched.step_of_advancing (Run.phase_of_isDispatch hd), Watched.run_advance] at hresult
    rcases Run.isCheck_after_or_leaving w.run w.session.engine.settings.delayMs w.dispatch with
      ⟨_, hc⟩ | ⟨_, result', hp, _⟩
    · simp [Run.isCheck, hresult] at hc
    · rw [hp] at hresult
      cases hresult

/-- A run that gets to its end leaves with its result. -/
lemma alone_after {n : Nat} {w : Watched Unit} {result : Except Failure Report}
    (hw : ¬w.run.isLeft)
    (h : (w.after Watcher.idle (fun _ => id) n).run.phase = .left result) :
    Alone (w.session, .driving w.run .free)
      ((w.after Watcher.idle (fun _ => id) n).session, .outside (some (.ran result))) := by
  induction n generalizing w with
  | zero => exact absurd (Watched.isLeft_iff.2 ⟨result, h⟩) hw
  | succ n ih =>
    rw [Watched.after_id_succ_left] at h ⊢
    by_cases hlock : w.run.phase.lock?.isSome
    · exact (alone_step hlock).trans (ih (not_isLeft_step hlock) h)
    · obtain ⟨found, hp⟩ := leaving_of_lock?_eq_none (by simpa using hlock) hw
      have hleft : (w.step Watcher.idle).run.phase = .left found := by
        rw [Watched.step_of_leaving hp]
      rw [Watched.after_id_of_isLeft (Watched.isLeft_iff.2 ⟨found, hleft⟩)] at h ⊢
      obtain rfl : found = result := by
        rw [hleft] at h
        exact Phase.left.inj h
      exact Relation.ReflTransGen.single ⟨.leave, .leave w.run found hp⟩

/-- **A run that nobody disturbs is `Session.run`** with a watcher that does nothing. -/
theorem alone_run (s : Session) (source : String) :
    Alone (s, .waiting (.run source))
      ((s.run source Watcher.idle ()).2.1,
        .outside (some (.ran (s.run source Watcher.idle ()).1))) := by
  apply Alone.then (.take _)
  apply Alone.then (.load source)
  by_cases h : s.status = .running
  · have hrun : s.run source Watcher.idle () = (.error .alreadyRunning, s, ()) := by
      simp [run, start, begin?_of_running h]
    rw [hrun]
    simp only [Point.tryBegin, h, dite_true]
    exact alone_answer _ _ _
  · let w : Watched Unit := ⟨{ s with status := .running, stopRequested := false },
      { program := s.engine.read source }, ()⟩
    have hleft : (w.after Watcher.idle (fun _ => id) w.budget).run.isLeft :=
      Watched.isLeft_after_budget _ rfl
    obtain ⟨result, hresult⟩ := Watched.isLeft_iff.1 hleft
    have hfinish : (w.finish Watcher.idle).run.result? = some result := by
      rw [Watched.finish_eq_after]
      simp [Run.result?, hresult]
    have hrun : s.run source Watcher.idle () =
        (result, (w.after Watcher.idle (fun _ => id) w.budget).session, ()) := by
      rw [← Watched.finish_eq_after]
      simp [run, start, begin?_of_not_running h, hfinish, w]
    rw [hrun]
    simp only [Point.tryBegin, h, dite_false]
    apply Alone.then (.exchange source s.status h rfl)
    apply Alone.then (.start source)
    apply Alone.then (.release _ _)
    exact alone_after (w := w) (by simp [w, Run.isLeft, Run.result?]) hresult

end Alone

/-! ### Many clients -/

/-- A session and where each of its clients stands. -/
structure World (ι : Type) where
  session : Session
  point : ι → Point

variable {ι : Type}

/-- **One step**: a client moves, the others stand still. A lock that the client gets with its move
is one that nobody held. -/
structure Step (w : World ι) (i : ι) (e : Effect) (w' : World ι) : Prop where
  move : Move w.session (w.point i) e (w'.point i) w'.session
  granted : ∀ l, (w'.point i).holds l = true →
    (w.point i).holds l = true ∨ ∀ j, (w.point j).holds l = false
  others : ∀ j, j ≠ i → w'.point j = w.point j

/-- Steps one after the other, each with its client and its effect. -/
inductive Path (u : World ι) : List (ι × Effect) → World ι → Prop
  | nil : Path u [] u
  | snoc {log : List (ι × Effect)} {w w' : World ι} {i : ι} {e : Effect} :
      Path u log w → Step w i e w' → Path u (log ++ [(i, e)]) w'

namespace World

/-- A session before its first client calls. -/
def initial (s : Session) : World ι := ⟨s, fun _ => .outside none⟩

/-- The worlds that the clients of a session can get to; at first no run is active. -/
def Reachable (w : World ι) : Prop :=
  ∃ s log, s.status ≠ .running ∧ Path (initial s) log w

/-- A client moved to a point, with the session as the move left it. -/
def moved [DecidableEq ι] (w : World ι) (i : ι) (q : Point) (s : Session) : World ι :=
  ⟨s, Function.update w.point i q⟩

end World

section Steps

variable {u w w' v : World ι} {i j : ι} {e : Effect} {log log' : List (ι × Effect)}

lemma Step.move_of_point {p : Point} (h : Step w i e w') (hp : w.point i = p) :
    Move w.session p e (w'.point i) w'.session := hp ▸ h.move

/-- A move makes a step when nobody holds the lock it takes. -/
lemma step_moved [DecidableEq ι] {q : Point} {s : Session}
    (m : Move w.session (w.point i) e q s)
    (h : ∀ l, q.holds l = true → (w.point i).holds l = true ∨ ∀ j, (w.point j).holds l = false) :
    Step w i e (w.moved i q s) := by
  have hq : (w.moved i q s).point i = q := by simp [World.moved]
  refine ⟨?_, ?_, ?_⟩
  · rw [hq]
    exact m
  · rw [hq]
    exact h
  · intro j hj
    simp [World.moved, hj]

/-- A move that takes no lock can always be made. -/
lemma exists_step {p q : Point} {s : Session} (hp : w.point i = p) (m : Move w.session p e q s)
    (h : ∀ l, q.holds l = true → p.holds l = true) : ∃ w', Step w i e w' := by
  classical
  subst hp
  exact ⟨w.moved i q s, step_moved m fun l hl => .inl (h l hl)⟩

lemma Path.trans (h : Path u log w) (h' : Path w log' v) : Path u (log ++ log') v := by
  induction h' with
  | nil => rwa [List.append_nil]
  | snoc _ hstep ih =>
    rw [← List.append_assoc]
    exact ih.snoc hstep

lemma Path.single (h : Step w i e w') : Path w [(i, e)] w' := Path.nil.snoc h

lemma World.Reachable.path (hw : w.Reachable) (h : Path w log v) : v.Reachable := by
  obtain ⟨s, log₀, hs, h₀⟩ := hw
  exact ⟨s, log₀ ++ log, hs, h₀.trans h⟩

lemma World.Reachable.step (hw : w.Reachable) (h : Step w i e w') : w'.Reachable :=
  hw.path (Path.single h)

/-- What one step keeps is kept along a path. -/
lemma Path.keeps {P : World ι → Prop} (hP : ∀ {w i e w'}, Step w i e w' → P w → P w')
    (h : Path u log w) (hu : P u) : P w := by
  induction h with
  | nil => exact hu
  | snoc _ hstep ih => exact hP hstep ih

end Steps

/-! ### Two clients -/

/-- A session with two clients. -/
def World.two (s : Session) (p q : Point) : World Bool := ⟨s, fun b => bif b then p else q⟩

section Two

variable {s s' : Session} {p p' q q' : Point} {e : Effect}

lemma step_two_true (m : Move s p e p' s')
    (h : ∀ l, p'.holds l = true → p.holds l = true ∨ q.holds l = false) :
    Step (.two s p q) true e (.two s' p' q) where
  move := m
  granted := by
    intro l hl
    rcases hp : p.holds l with _ | _
    · right
      rintro (_ | _)
      · exact (h l hl).resolve_left (by simp [hp])
      · exact hp
    · exact .inl hp
  others := by
    rintro (_ | _) hj
    · rfl
    · exact absurd rfl hj

lemma step_two_false (m : Move s q e q' s')
    (h : ∀ l, q'.holds l = true → q.holds l = true ∨ p.holds l = false) :
    Step (.two s p q) false e (.two s' p q') where
  move := m
  granted := by
    intro l hl
    rcases hq : q.holds l with _ | _
    · right
      rintro (_ | _)
      · exact hq
      · exact (h l hl).resolve_left (by simp [hq])
    · exact .inl hq
  others := by
    rintro (_ | _) hj
    · exact absurd rfl hj
    · rfl

/-- The first of two clients begins a run. -/
lemma path_two_start (source : String) (h : s.status ≠ .running) :
    Path (World.initial s)
      [(true, .none), (true, .none), (true, .none), (true, .begin), (true, .start)]
      (.two { s with status := .running, stopRequested := false }
        (.driving { program := s.engine.read source } (.acted .token)) (.outside none)) := by
  have hinitial : World.initial s = .two s (.outside none) (.outside none) := by
    simp only [World.initial, World.two, Bool.cond_self]
  have hbegin : Point.tryBegin source s.status = .exchanging source s.status h := by
    simp [Point.tryBegin, h]
  rw [hinitial]
  have hcall : Path (World.two s (.outside none) (.outside none)) [(true, .none)]
      (.two s (.waiting (.run source)) (.outside none)) :=
    .single (step_two_true (.call none _) nofun)
  have htake := hcall.snoc (step_two_true (.take _) (fun _ _ => .inr rfl))
  have hload := htake.snoc (step_two_true (.load source) (fun _ _ => .inr rfl))
  rw [hbegin] at hload
  have hexchange := hload.snoc
    (step_two_true (.exchange source s.status h rfl) (fun _ _ => .inr rfl))
  exact hexchange.snoc (step_two_true (.start source) (fun _ _ => .inr rfl))

/-- The first of two clients looks at the flag, while the other one holds no lock. -/
lemma path_two_look {r r' : Run} (hr : r.isCheck) (hact : r.act s = ⟨s, r', ()⟩)
    (hq : ∀ l, q.holds l = false) :
    Path (.two s (.driving r .free) q) (List.replicate 3 (true, .none))
      (.two s (.driving r' .free) q) := by
  have hlock : r.phase.lock?.isSome := by
    rw [lock?_of_isCheck hr]
    rfl
  have hready := Path.single (step_two_true (s := s) (.ready r hlock) fun l _ => .inr (hq l))
  have hlook := hready.snoc (step_two_true (.look r hr) fun l _ => .inr (hq l))
  rw [hact] at hlook
  exact hlook.snoc (step_two_true (.release r' .token) nofun)

/-- It gets the field for its next dispatch if nobody has asked its run to stop. -/
lemma exists_path_two_ready {r : Run} (hr : r.isCheck) (hs : s.stopRequested = false)
    (hq : ∀ l, q.holds l = false) :
    ∃ n, Path (.two s (.driving r .free) q) (List.replicate n (true, .none))
      (.two s (.driving { r with phase := .advancing } .ready) q) := by
  have hpoll : ∀ r : Run, r.phase = .polling →
      Path (.two s (.driving r .free) q) (List.replicate 4 (true, .none))
        (.two s (.driving { r with phase := .advancing } .ready) q) := by
    intro r hp
    have hlook := path_two_look (by simp [Run.isCheck, hp])
      (Watched.step_of_polling (w := ⟨s, r, ()⟩) hp hs) hq
    exact hlook.snoc (step_two_true (.ready _ rfl) fun l _ => .inr (hq l))
  rcases Run.phase_of_isCheck hr with hp | hp
  · exact ⟨4, hpoll r hp⟩
  · -- the end of a pause is one look more
    have hlook := path_two_look hr (Watched.step_of_pausing (w := ⟨s, r, ()⟩) hp hs) hq
    exact ⟨7, hlook.trans (hpoll _ rfl)⟩

/-- The first of two clients begins a run and gets the field for its first dispatch. -/
lemma exists_path_two_begun (source : String) (h : s.status ≠ .running) :
    ∃ log, Path (World.initial s) log
      (.two { s with status := .running, stopRequested := false }
        (.driving { program := s.engine.read source, phase := .advancing } .ready)
        (.outside none)) := by
  have hfree := (path_two_start source h).snoc (step_two_true (.release _ .token) nofun)
  obtain ⟨n, hready⟩ := exists_path_two_ready (q := .outside none)
    (s := { s with status := .running, stopRequested := false })
    (r := { program := s.engine.read source }) rfl rfl fun _ => rfl
  exact ⟨_, hfree.trans hready⟩

end Two

end RobotScript.Session
