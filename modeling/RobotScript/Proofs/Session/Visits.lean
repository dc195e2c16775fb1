import RobotScript.Proofs.Session.Isolation

/-!
Calls that leave no trace.

A visit is a call that is refused because a run is active, or one that only looks at the field or at
the flag. A `Schedule` is a path that keeps a record of each step, has queries between the steps,
which take no lock, and marks the calls that turn out to be visits. A visitor holds a lock for a
while, so the world without visitors is not the same world; `Mirrors` is what the two have in common
after every step, and `Schedule.filter` strikes the visits out of a schedule. A watcher makes its
calls while its run has the field, and `Watched.after_congr` compares two watchers of one run. The
main statement is `visits_inert`.
-/

namespace RobotScript.Session

variable {ι : Type}

/-! ### Visits -/

/-- Whether a call can be a visit. -/
def Call.isVisit : Call → Bool
  | run _ | edit _ | snapshot | isCancelled => true
  | _ => false

/-- Whether an answer is that of a visit. -/
def Answer.isHarmless : Answer → Bool
  | ran (.error .alreadyRunning) | edited (.error .busy) | snapshot _ | cancelled _ => true
  | _ => false

/-- Whether a client may be on a visit, or back from one. -/
def Point.isQuiet : Point → Bool
  | waiting call | inside call => call.isVisit
  | answering _ answer | outside (some answer) => answer.isHarmless
  | _ => false

/-- Whether a client is between two calls. -/
def Point.isOutside : Point → Bool
  | outside _ => true
  | _ => false

/-- **A visit changes nothing.** -/
lemma Move.eq_of_isQuiet {s s' : Session} {p q : Point} {e : Effect} (m : Move s p e q s')
    (hp : p.isOutside ∨ p.isQuiet) (hq : q.isQuiet) : e = .none ∧ s' = s := by
  cases m with
  | call last call => exact ⟨rfl, rfl⟩
  | take call => exact ⟨rfl, rfl⟩
  | answer lock answer => exact ⟨rfl, rfl⟩
  | busy change h => exact ⟨rfl, rfl⟩
  | snapshot => exact ⟨rfl, rfl⟩
  | ask => exact ⟨rfl, rfl⟩
  | load source => exact ⟨rfl, rfl⟩
  | allow change h => cases hq
  | _ => simp [Point.isOutside, Point.isQuiet, Call.isVisit] at hp

/-! ### Schedules -/

/-- What a client can ask at any moment, without a lock. -/
inductive Query where
  | status
  /-- The settings and the vocabulary. -/
  | engine

/-- The reply to a query. -/
inductive Reply where
  | status (status : Status)
  | engine (engine : Engine)

/-- The session replies to a query. -/
def Query.reply (s : Session) : Query → Reply
  | status => .status s.status
  | engine => .engine s.engine

/-- An entry of the record of a schedule. -/
inductive Entry (ι : Type) where
  /-- A client made a move: what it did, where the client got to and the session after it, and
  whether the move belongs to a visit. -/
  | moved (client : ι) (effect : Effect) (point : Point) (session : Session) (visit : Bool)
  /-- A client was given a reply. -/
  | asked (client : ι) (query : Query) (reply : Reply)

/-- Whether an entry is part of a visit or a query. -/
def Entry.isVisit : Entry ι → Bool
  | moved _ _ _ _ visit => visit
  | asked .. => true

/-- How a step of the client `i` changes the marks of the clients on a visit: a visit begins with a
call and lasts until the call returns. -/
structure Marks (w : World ι) (i : ι) (w' : World ι) (before after : ι → Bool) : Prop where
  begins : before i = false → after i = true → (w.point i).isOutside
  lasts : before i = true → after i = !(w'.point i).isOutside
  quiet : before i = true ∨ after i = true → (w'.point i).isQuiet
  others : ∀ j, j ≠ i → after j = before j

/-- **Schedules**: steps and queries one after the other, some of the calls marked as visits. -/
inductive Schedule (u : World ι) : List (Entry ι) → World ι → (ι → Bool) → Prop
  | nil : Schedule u [] u fun _ => false
  | move {log : List (Entry ι)} {w w' : World ι} {before after : ι → Bool} {i : ι} {e : Effect} :
      Schedule u log w before → Step w i e w' → Marks w i w' before after →
      Schedule u (log ++ [.moved i e (w'.point i) w'.session (before i || after i)]) w' after
  | ask {log : List (Entry ι)} {w : World ι} {visiting : ι → Bool} (i : ι) (query : Query) :
      Schedule u log w visiting →
      Schedule u (log ++ [.asked i query (query.reply w.session)]) w visiting

/-- A client between two calls can only call. -/
lemma Move.waiting_of_isOutside {s s' : Session} {p q : Point} {e : Effect} (m : Move s p e q s')
    (hp : p.isOutside) : ∃ call, q = .waiting call := by
  cases m with
  | call last call => exact ⟨call, rfl⟩
  | _ => cases hp

/-- A client on a visit is in the middle of a call that does nothing. -/
lemma Schedule.quiet {u w : World ι} {log : List (Entry ι)} {visiting : ι → Bool}
    (h : Schedule u log w visiting) (i : ι) (hi : visiting i = true) :
    (w.point i).isQuiet ∧ (w.point i).isOutside = false := by
  induction h with
  | nil => cases hi
  | ask _ _ _ ih => exact ih hi
  | @move log w w' before after j e _ hstep hm ih =>
    by_cases hij : i = j
    · subst hij
      refine ⟨hm.quiet (.inr hi), ?_⟩
      cases hbefore : before i with
      | true => simpa [hi] using hm.lasts hbefore
      | false =>
        obtain ⟨call, hcall⟩ := hstep.move.waiting_of_isOutside (hm.begins hbefore hi)
        rw [hcall]
        rfl
    · rw [hstep.others i hij]
      exact ih (hm.others i hij ▸ hi)

/-! ### Leaving visits out -/

/-- The same point, but for the answer of the last call. -/
def Point.Same (p q : Point) : Prop := p = q ∨ p.isOutside ∧ q.isOutside

section Same

variable {p p' q : Point} {s s' : Session} {e : Effect}

lemma holds_of_isOutside (h : p.isOutside) (l : Lock) : p.holds l = false := by
  cases p with
  | outside last => rfl
  | _ => cases h

lemma Point.Same.holds_eq (h : p.Same p') (l : Lock) : p.holds l = p'.holds l := by
  rcases h with rfl | ⟨hp, hp'⟩
  · rfl
  · rw [holds_of_isOutside hp, holds_of_isOutside hp']

lemma Point.Same.isOutside_eq (h : p.Same p') : p.isOutside = p'.isOutside := by
  rcases h with rfl | ⟨hp, hp'⟩
  · rfl
  · rw [hp, hp']

/-- What a client does next does not depend on the answer of its last call. -/
lemma Move.of_same (m : Move s p e q s') (h : p'.Same p) : Move s p' e q s' := by
  rcases h with rfl | ⟨hp', hp⟩
  · exact m
  · cases p' with
    | outside last' =>
      cases m with
      | call last call => exact .call last' call
      | _ => cases hp
    | _ => cases hp'

end Same

/-- A world `w` and a world `v` without its visitors: the session is the same, a visitor is outside
in `v`, and all others stand where they stand. -/
structure Mirrors (w : World ι) (visiting : ι → Bool) (v : World ι) : Prop where
  session : v.session = w.session
  away : ∀ i, visiting i = true → (v.point i).isOutside
  same : ∀ i, visiting i = false → (v.point i).Same (w.point i)

section Steps

variable {u w w' v : World ι} {i : ι} {e : Effect} {before after : ι → Bool}

/-- A lock that nobody holds among visitors is free without them. -/
lemma Mirrors.free (h : Mirrors w before v) {l : Lock} (hw : ∀ j, (w.point j).holds l = false)
    (j : ι) : (v.point j).holds l = false := by
  cases hj : before j with
  | true => exact holds_of_isOutside (h.away j hj) l
  | false => rw [(h.same j hj).holds_eq, hw j]

/-- A move of a visit is made by nobody in the world without visitors. -/
lemma Mirrors.visit (h : Mirrors w before v) (hstep : Step w i e w')
    (hm : Marks w i w' before after) (hquiet : before i = true → (w.point i).isQuiet)
    (hvisit : before i = true ∨ after i = true) : Mirrors w' after v := by
  have hcases : before i = true ∨ before i = false ∧ (w.point i).isOutside := by
    cases hi : before i with
    | true => exact .inl rfl
    | false => exact .inr ⟨rfl, hm.begins hi (hvisit.resolve_left (by simp [hi]))⟩
  have hpoint : (w.point i).isOutside ∨ (w.point i).isQuiet := by
    rcases hcases with hi | ⟨-, hout⟩
    · exact .inr (hquiet hi)
    · exact .inl hout
  have haway : (v.point i).isOutside := by
    rcases hcases with hi | ⟨hi, hout⟩
    · exact h.away i hi
    · rw [(h.same i hi).isOutside_eq, hout]
  obtain ⟨-, hsession⟩ := hstep.move.eq_of_isQuiet hpoint (hm.quiet hvisit)
  refine ⟨by rw [h.session, hsession], fun j hj => ?_, fun j hj => ?_⟩
  · by_cases hji : j = i
    · subst hji
      exact haway
    · exact h.away j (hm.others j hji ▸ hj)
  · by_cases hji : j = i
    · subst hji
      -- the mark goes with the return
      have hi : before j = true := hvisit.resolve_right (by simp [hj])
      have hout : (w'.point j).isOutside := by simpa [hj] using hm.lasts hi
      exact .inr ⟨haway, hout⟩
    · rw [hstep.others j hji]
      exact h.same j (hm.others j hji ▸ hj)

/-- Any other move can be made without the visitors. -/
lemma Mirrors.step (h : Mirrors w before v) (hstep : Step w i e w')
    (hm : Marks w i w' before after) (hbefore : before i = false) (hafter : after i = false) :
    ∃ v', Step v i e v' ∧ v'.point i = w'.point i ∧ Mirrors w' after v' := by
  classical
  have hsame := h.same i hbefore
  have m : Move v.session (v.point i) e (w'.point i) w'.session := by
    rw [h.session]
    exact hstep.move.of_same hsame
  -- fewer clients hold a lock where there are no visitors
  have hgranted : ∀ l, (w'.point i).holds l = true →
      (v.point i).holds l = true ∨ ∀ j, (v.point j).holds l = false := by
    intro l hl
    rcases hstep.granted l hl with hold | hfree
    · exact .inl (by rw [hsame.holds_eq, hold])
    · exact .inr (h.free hfree)
  have hpoint : (v.moved i (w'.point i) w'.session).point i = w'.point i := by simp [World.moved]
  refine ⟨_, step_moved m hgranted, hpoint, rfl, fun j hj => ?_, fun j hj => ?_⟩
  · by_cases hji : j = i
    · subst hji
      rw [hafter] at hj
      cases hj
    · simp only [World.moved, Function.update_of_ne hji]
      exact h.away j (hm.others j hji ▸ hj)
  · by_cases hji : j = i
    · subst hji
      exact .inl hpoint
    · simp only [World.moved, Function.update_of_ne hji, hstep.others j hji]
      exact h.same j (hm.others j hji ▸ hj)

lemma marks_false : Marks w i w' (fun _ => false) fun _ => false :=
  ⟨nofun, nofun, fun h => absurd h (by simp), fun _ _ => rfl⟩

/-- **A schedule goes on without its visits.** -/
theorem Schedule.filter {log : List (Entry ι)} {visiting : ι → Bool}
    (h : Schedule u log w visiting) :
    ∃ v, Schedule u (log.filter (!·.isVisit)) v (fun _ => false) ∧ Mirrors w visiting v := by
  induction h with
  | nil => exact ⟨u, .nil, rfl, nofun, fun _ _ => .inl rfl⟩
  | ask i query _ ih =>
    obtain ⟨v, hv, hmirrors⟩ := ih
    refine ⟨v, ?_, hmirrors⟩
    rw [List.filter_append]
    simpa [Entry.isVisit] using hv
  | @move log w w' before after i e hbefore hstep hm ih =>
    obtain ⟨v, hv, hmirrors⟩ := ih
    rw [List.filter_append]
    cases hvisit : before i || after i with
    | true =>
      have hquiet : before i = true → (w.point i).isQuiet := fun hi => (hbefore.quiet i hi).1
      refine ⟨v, ?_, hmirrors.visit hstep hm hquiet (by simpa using hvisit)⟩
      simpa [Entry.isVisit] using hv
    | false =>
      rw [Bool.or_eq_false_iff] at hvisit
      obtain ⟨v', hstep', hpoint, hmirrors'⟩ := hmirrors.step hstep hm hvisit.1 hvisit.2
      refine ⟨v', ?_, hmirrors'⟩
      have hmove := hv.move hstep' marks_false
      rw [hpoint, hmirrors'.session] at hmove
      simpa [Entry.isVisit] using hmove

end Steps

/-! ### Visits during a run -/

/-- The answer to a call that can be a visit, during a run. -/
def Call.duringRun (s : Session) : Call → Answer
  | run _ => .ran (.error .alreadyRunning)
  | edit _ => .edited (.error .busy)
  | snapshot => .snapshot s.field.snapshot
  | isCancelled => .cancelled s.stopRequested
  | _ => .done

section During

variable {s s' : Session} {p q : Point} {e : Effect} {call : Call}

lemma tryBegin_of_running (hs : s.status = .running) (source : String) :
    Point.tryBegin source s.status = .answering .token (.ran (.error .alreadyRunning)) := by
  simp [Point.tryBegin, hs]

/-- **During a run a call that can be a visit is one.** -/
lemma Move.isQuiet (m : Move s p e q s') (hs : s.status = .running) (hp : p.isQuiet)
    (hin : p.isOutside = false) : q.isQuiet := by
  cases m with
  | call last call => cases hin
  | take call => exact hp
  | answer lock answer => exact hp
  | busy change h => rfl
  | allow change h => exact absurd hs h
  | snapshot => rfl
  | ask => rfl
  | load source =>
    rw [tryBegin_of_running hs]
    rfl
  | _ => simp [Point.isQuiet, Call.isVisit] at hp

/-- Its look at the session gives its answer. -/
lemma Move.answering (m : Move s (.inside call) e q s') (hs : s.status = .running)
    (hcall : call.isVisit) : s' = s ∧ q = .answering call.lock (call.duringRun s) := by
  cases m with
  | busy change h => exact ⟨rfl, rfl⟩
  | allow change h => exact absurd hs h
  | snapshot => exact ⟨rfl, rfl⟩
  | ask => exact ⟨rfl, rfl⟩
  | load source => exact ⟨rfl, tryBegin_of_running hs source⟩
  | _ => cases hcall

lemma exists_move_answering (hs : s.status = .running) (hcall : call.isVisit) :
    Move s (.inside call) .none (.answering call.lock (call.duringRun s)) s := by
  cases call with
  | run source => exact tryBegin_of_running hs source ▸ Move.load source
  | edit change => exact .busy change hs
  | snapshot => exact .snapshot
  | isCancelled => exact .ask
  | _ => cases hcall

variable {u w w' : World ι} {c d : ι} {log : List (Entry ι)} {visiting : ι → Bool}

/-- **A call that looks at the session during a run is answered and changes nothing.** -/
lemma visit_answered (hw : w.Sound) (hc : (w.point c).isActive) (hcall : call.isVisit)
    (hd : w.point d = .inside call) :
    (∃ w', Step w d .none w') ∧
    ∀ e w', Step w d e w' →
      w'.session = w.session ∧ w'.Returns d (call.duringRun w.session) := by
  have hrunning : w.session.status = .running := hw.running_iff.2 ⟨c, hc⟩
  constructor
  · exact exists_step hd (exists_move_answering hrunning hcall) fun _ hl => hl
  · intro e w' hstep
    obtain ⟨hsession, hpoint⟩ := (hstep.move_of_point hd).answering hrunning hcall
    exact ⟨hsession, returns_of_answering hpoint⟩

lemma Schedule.reachable (h : Schedule u log w visiting) (hu : u.Reachable) : w.Reachable := by
  induction h with
  | nil => exact hu
  | move _ hstep _ ih => exact ih.step hstep
  | ask _ _ _ ih => exact ih

/-- **Whatever such a call does during a run, it does as a visit.** -/
lemma Schedule.visit (h : Schedule u log w visiting) (hw : w.Sound)
    (hc : (w.point c).isActive) (hstep : Step w d e w')
    (hd : visiting d = true ∨ (w.point d).isOutside ∧ (w'.point d).isQuiet) :
    w'.session = w.session ∧
    ∃ visiting', Schedule u (log ++ [.moved d e (w'.point d) w'.session true]) w' visiting' ∧
      visiting' d = !(w'.point d).isOutside ∧ ∀ j, j ≠ d → visiting' j = visiting j := by
  classical
  have hrunning : w.session.status = .running := hw.running_iff.2 ⟨c, hc⟩
  have hpoint : (w.point d).isOutside ∨ (w.point d).isQuiet :=
    hd.symm.imp And.left fun hvisiting => (h.quiet d hvisiting).1
  have hquiet : (w'.point d).isQuiet := by
    rcases hd with hvisiting | ⟨-, hquiet⟩
    · obtain ⟨hbefore, hin⟩ := h.quiet d hvisiting
      exact hstep.move.isQuiet hrunning hbefore hin
    · exact hquiet
  let visiting' := Function.update visiting d !(w'.point d).isOutside
  have hafter : visiting' d = !(w'.point d).isOutside := Function.update_self ..
  have hm : Marks w d w' visiting visiting' :=
    { begins := fun hbefore _ => (hd.resolve_left (by simp [hbefore])).1
      lasts := fun _ => hafter
      quiet := fun _ => hquiet
      others := fun j hj => Function.update_of_ne hj .. }
  have hmark : (visiting d || visiting' d) = true := by
    rcases hd with hvisiting | ⟨hout, -⟩
    · rw [hvisiting, Bool.true_or]
    · obtain ⟨call, hcall⟩ := hstep.move.waiting_of_isOutside hout
      simp [hafter, hcall, Point.isOutside]
  refine ⟨(hstep.move.eq_of_isQuiet hpoint hquiet).2, visiting', ?_, hafter, hm.others⟩
  rw [← hmark]
  exact h.move hstep hm

end During

/-! ### Watchers -/

/-- What the session is after a call that no other call overlaps. -/
def Call.after (s : Session) : Call → Session
  | run source => (s.run source Watcher.idle ()).2.1
  | edit change => (s.edit change).2
  | cancel => s.cancel
  | raiseStop => s.raiseStop
  | clearStop => s.clearStop
  | _ => s

/-- What a watcher can do while it is told of an event: the field is locked until it returns. -/
inductive Aside where
  | make (call : Call) (h : call.lock = .token)
  | ask (query : Query)

/-- What the session is after an aside. -/
def Aside.after (s : Session) : Aside → Session
  | make call _ => call.after s
  | ask _ => s

/-- Whether an aside is a call that can be a visit, or a query. -/
def Aside.isVisit : Aside → Bool
  | make call _ => call.isVisit
  | ask _ => true

section Asides

variable {s : Session} {σ : Type}

/-- A run that comes during a run is refused and has no effect. -/
lemma run_of_running (hs : s.status = .running) (source : String) (watcher : Watcher σ) (seen : σ) :
    s.run source watcher seen = (.error .alreadyRunning, s, seen) := by
  rw [run, start, begin?_of_running hs]

lemma Call.after_of_isVisit {call : Call} (hs : s.status = .running) (h : call.isVisit) :
    call.after s = s := by
  cases call with
  | run source => rw [Call.after, run_of_running hs]
  | edit change => rw [Call.after, edit_of_running hs]
  | snapshot => rfl
  | isCancelled => rfl
  | _ => cases h

lemma Call.status_after (hs : s.status = .running) (call : Call) :
    (call.after s).status = .running := by
  cases call with
  | cancel =>
    rw [Call.after, cancel_of_running hs]
    exact hs
  | raiseStop => exact hs
  | clearStop => exact hs
  | sleep => exact hs
  | _ => rwa [Call.after_of_isVisit hs rfl]

lemma Aside.after_of_isVisit {aside : Aside} (hs : s.status = .running) (h : aside.isVisit) :
    aside.after s = s := by
  cases aside with
  | make call _ => exact call.after_of_isVisit hs h
  | ask query => rfl

lemma Aside.status_after (hs : s.status = .running) (aside : Aside) :
    (aside.after s).status = .running := by
  cases aside with
  | make call _ => exact call.status_after hs
  | ask query => exact hs

/-- During a run the visits among asides can be left out. -/
lemma foldl_asides (hs : s.status = .running) (asides : List Aside) :
    (asides.filter (!·.isVisit)).foldl Aside.after s = asides.foldl Aside.after s := by
  induction asides generalizing s with
  | nil => rfl
  | cons aside asides ih =>
    rw [List.foldl_cons]
    cases haside : aside.isVisit with
    | true =>
      rw [List.filter_cons_of_neg (by simp [haside]), aside.after_of_isVisit hs haside, ih hs]
    | false =>
      rw [List.filter_cons_of_pos (by simp [haside]), List.foldl_cons, ih (aside.status_after hs)]

/-- A watcher that says with what asides it meets each event. -/
def Watcher.making (asides : Event → Session → σ → List Aside × σ) : Watcher σ where
  notice event s seen :=
    let (made, seen') := asides event s seen
    ((made.foldl Aside.after s).stopRequested, seen')

/-- The asides without the visits among them. -/
def withoutVisits (asides : Event → Session → σ → List Aside × σ) :
    Event → Session → σ → List Aside × σ :=
  fun event s seen =>
    let (made, seen') := asides event s seen
    (made.filter (!·.isVisit), seen')

lemma notice_withoutVisits (asides : Event → Session → σ → List Aside × σ) (event : Event)
    (hs : s.status = .running) (seen : σ) :
    (Watcher.making (withoutVisits asides)).notice event s seen =
      (Watcher.making asides).notice event s seen := by
  simp only [Watcher.making, withoutVisits, foldl_asides hs]

namespace Watched

variable {watcher watcher' : Watcher σ} {w : Watched σ}

/-- A run that is not over is the active run. -/
def Keeps (w : Watched σ) : Prop := ¬w.run.isLeft → w.session.status = .running

lemma status_step (h : w.run.phase.lock?.isSome) :
    (w.step watcher).session.status = w.session.status := by
  rcases isCheck_or_isDispatch h with hc | hd
  · cases hs : w.session.stopRequested with
    | true => rw [step_of_stop hc hs]
    | false =>
      rcases Run.phase_of_isCheck hc with hp | hp
      · rw [step_of_polling hp hs]
      · rw [step_of_pausing hp hs]
  · rw [step_of_advancing (Run.phase_of_isDispatch hd), status_session_advance]

lemma Keeps.step (h : w.Keeps) : (w.step watcher).Keeps := by
  intro hstep
  by_cases hover : w.run.isLeft
  · rw [step_of_isLeft hover] at hstep
    exact absurd hover hstep
  by_cases hlock : w.run.phase.lock?.isSome
  · rw [status_step hlock]
    exact h hover
  · obtain ⟨result, hp⟩ := leaving_of_lock?_eq_none (by simpa using hlock) hover
    rw [step_of_leaving hp] at hstep
    exact absurd (isLeft_iff.2 ⟨result, rfl⟩) hstep

variable (hsame : ∀ event s seen, s.status = .running →
  watcher.notice event s seen = watcher'.notice event s seen)

include hsame

lemma advance_congr (hs : w.session.status = .running) :
    w.advance watcher = w.advance watcher' := by
  rcases h : w.dispatch.progress.event? with _ | event
  · rw [advance_of_none h, advance_of_none h]
  · have hnotice := hsame event { w.session with field := w.dispatch.field } w.seen hs
    rw [advance_of_some h, advance_of_some h, hnotice]

lemma step_congr (h : w.Keeps) : w.step watcher = w.step watcher' := by
  rcases hp : w.run.phase with _ | _ | _ | result | result
  · simp only [step, hp]
  · rw [step_of_advancing hp, step_of_advancing hp]
    refine advance_congr hsame (h fun hleft => ?_)
    obtain ⟨result, hresult⟩ := isLeft_iff.1 hleft
    rw [hp] at hresult
    cases hresult
  · simp only [step, hp]
  · simp only [step, hp]
  · simp only [step, hp]

/-- **Watchers that do the same while a run is active make the same runs**, whatever others do to
the flag. -/
theorem after_congr (h : w.Keeps) (others : Nat → Bool → Bool) (n : Nat) :
    w.after watcher others n = w.after watcher' others n ∧ (w.after watcher others n).Keeps := by
  induction n with
  | zero => exact ⟨rfl, h⟩
  | succ n ih =>
    obtain ⟨heq, hkeeps⟩ := ih
    have hstop : ((w.after watcher others n).withStop (w.flagAt watcher others n)).Keeps := hkeeps
    refine ⟨?_, hstop.step⟩
    rw [after_succ, after_succ, step_congr hsame hstop]
    simp only [flagAt, heq]

end Watched

lemma keeps_of_start {source : String} {seen : σ} {w : Watched σ}
    (h : s.start source seen = .ok w) : w.Keeps := by
  by_cases hs : s.status = .running
  · rw [start, begin?_of_running hs] at h
    cases h
  · rw [start, begin?_of_not_running hs] at h
    cases h
    exact fun _ => rfl

lemma run_congr {watcher watcher' : Watcher σ}
    (hsame : ∀ event s seen, s.status = .running →
      watcher.notice event s seen = watcher'.notice event s seen)
    (source : String) (seen : σ) : s.run source watcher seen = s.run source watcher' seen := by
  rcases h : s.start source seen with failure | w
  · simp only [run, h]
  · have hafter := (Watched.after_congr hsame (keeps_of_start h) (fun _ => id) w.budget).1
    rw [← Watched.finish_eq_after, ← Watched.finish_eq_after] at hafter
    simp only [run, h, hafter]

end Asides

/-! ### Nothing but visits -/

/-- **Calls that are refused and calls that only read leave no trace.** Take any schedule and strike
out its visits and its queries: what is left is a schedule, with the same effect of each step, the
same point its client gets to and the same session after it. While a run is active, a call to run a
script, to change the field, to see the field or to see the flag can only be a visit: it changes
nothing of the session, a stop that was asked for included, and is told that a run is active, that
the field is busy, or what it wanted to see. A watcher makes the same run, action for action, with
the visits among its asides or without them. -/
theorem visits_inert {u w : World ι} {log : List (Entry ι)} {visiting : ι → Bool}
    (hu : u.Reachable) (h : Schedule u log w visiting) :
    (∃ v, Schedule u (log.filter (!·.isVisit)) v (fun _ => false) ∧ Mirrors w visiting v) ∧
    (∀ c, (w.point c).isActive →
      (∀ d e w', Step w d e w' →
        visiting d = true ∨ (w.point d).isOutside ∧ (w'.point d).isQuiet →
        w'.session = w.session ∧
        ∃ visiting', Schedule u (log ++ [.moved d e (w'.point d) w'.session true]) w' visiting' ∧
          visiting' d = !(w'.point d).isOutside ∧ ∀ j, j ≠ d → visiting' j = visiting j) ∧
      (∀ d call, call.isVisit → w.point d = .inside call →
        (∃ w', Step w d .none w') ∧
        ∀ e w', Step w d e w' →
          w'.session = w.session ∧ w'.Returns d (call.duringRun w.session))) ∧
    (∀ (σ : Type) (asides : Event → Session → σ → List Aside × σ) (s : Session) (source : String)
      (seen : σ),
      s.run source (.making (withoutVisits asides)) seen = s.run source (.making asides) seen ∧
      ∀ a, s.start source seen = .ok a → ∀ others n,
        a.after (.making (withoutVisits asides)) others n = a.after (.making asides) others n) := by
  refine ⟨h.filter, fun c hc => ?_, fun σ asides s source seen => ?_⟩
  · have hw : w.Sound := (h.reachable hu).sound
    refine ⟨fun d e w' hstep hd => h.visit hw hc hstep hd, fun d call hcall hd => ?_⟩
    exact visit_answered hw hc hcall hd
  · have hsame := fun event s seen hs => notice_withoutVisits (s := s) asides event hs seen
    refine ⟨run_congr hsame source seen, fun a ha others n => ?_⟩
    exact (Watched.after_congr hsame (keeps_of_start ha) others n).1

/-- A run of two steps is asked to stop after the first, another one is refused, and the first run
still stops before its second step. -/
theorem visits_inert_of_pending_stop :
    ∃ (u w : World Bool) (log : List (Entry Bool)),
      u.Reachable ∧ u.session.stopRequested = true ∧ Schedule u log w (fun _ => false) ∧
      .moved false .none (.outside (some (.ran (.error .alreadyRunning)))) u.session true ∈ log ∧
      ∃ v, Schedule u (log.filter (!·.isVisit)) v (fun _ => false) ∧ v.session = w.session ∧
        v.session.stopRequested = true ∧
        ∃ r : Run, v.point true = .driving r.stopped (.acted .token) ∧
          r.program.instructions.length = 2 ∧
          r.ticks = [⟨0, 1, .moved ⟨0, 0⟩ ⟨1, 0⟩ .east, ⟨1, 0⟩⟩] := by
  let source := "вправо\nвниз"
  let s : Session := { status := .running }
  let first : Run := { program := s.engine.read source, phase := .advancing }
  let s₁ : Session := { s with field := (first.dispatch s).field }
  let r : Run := first.after s.engine.settings.delayMs (first.dispatch s)
  have hticked : (first.dispatch s).progress =
      .ticked ⟨0, 1, .moved ⟨0, 0⟩ ⟨1, 0⟩ .east, ⟨1, 0⟩⟩ := by
    decide +kernel
  have hlength : first.program.instructions.length = 2 := by decide +kernel
  have hcheck : r.isCheck := Run.isCheck_after (by rw [hticked]; rfl)
  -- the run makes its first step, and the other client asks it to stop
  obtain ⟨begun, hbegun⟩ := exists_path_two_begun (s := {}) source nofun
  have hadvance := hbegun.snoc (step_two_true (.advance first rfl) (fun _ _ => .inr rfl))
  rw [act_of_isDispatch rfl] at hadvance
  have hask := (((((hadvance.snoc (step_two_true (.release r .field) nofun)).snoc
    (step_two_false (.call none .cancel) nofun)).snoc
    (step_two_false (.take .cancel) (fun _ _ => .inr rfl))).snoc
    (step_two_false (.notice rfl) (fun _ _ => .inr rfl))).snoc
    (step_two_false .cancel (fun _ _ => .inr rfl))).snoc
    (step_two_false (.answer .token .done) nofun)
  let t : Session := s₁.raiseStop
  let p : Point := .driving r .free
  let refused : Answer := .ran (.error .alreadyRunning)
  have hu : (World.two t p (.outside (some .done))).Reachable := ⟨{}, _, nofun, hask⟩
  -- it calls for a run of its own, and asks for the status
  have hcall : Schedule _ _ (.two t p (.waiting (.run source))) (!·) :=
    Schedule.nil.move (step_two_false (.call (some .done) (.run source)) nofun)
      ⟨fun _ _ => rfl, nofun, fun _ => rfl, by decide⟩
  have htake : Schedule _ _ (.two t p (.inside (.run source))) (!·) :=
    hcall.move (step_two_false (.take (.run source)) (fun _ _ => .inr rfl))
      ⟨nofun, fun _ => rfl, fun _ => rfl, by decide⟩
  have hload : Schedule _ _ (.two t p (.answering .token refused)) (!·) :=
    htake.move (step_two_false (.load source) (fun _ _ => .inr rfl))
      ⟨nofun, fun _ => rfl, fun _ => rfl, by decide⟩
  have hrefused : Schedule _ _ (.two t p (.outside (some refused))) fun _ => false :=
    hload.move (step_two_false (.answer .token refused) nofun)
      ⟨nofun, fun _ => rfl, fun _ => rfl, by decide⟩
  -- the first run looks at the flag
  have hlock : r.phase.lock?.isSome := by
    rw [lock?_of_isCheck hcheck]
    rfl
  have hlook := ((hrefused.ask false .status).move
    (step_two_true (.ready r hlock) (fun _ _ => .inr rfl)) marks_false).move
    (step_two_true (.look r hcheck) (fun _ _ => .inr rfl)) marks_false
  obtain ⟨v, hv, hmirrors⟩ := (visits_inert hu hlook).1
  have hact : r.act t = ⟨t, r.stopped, ()⟩ := act_of_stop hcheck rfl
  refine ⟨_, _, _, hu, rfl, hlook, ?_, v, hv, hmirrors.session, ?_, r, ?_, ?_, ?_⟩
  · simp only [List.mem_append, List.mem_singleton]
    exact .inl (.inl (.inl (.inr rfl)))
  · rw [hmirrors.session]
    show (r.act t).session.stopRequested = true
    rw [hact]
    rfl
  · have hsame := hmirrors.same true rfl
    rw [hsame.resolve_right (by rintro ⟨-, ⟨⟩⟩)]
    show Point.driving (r.act t).run _ = _
    rw [hact]
  · rw [Run.program_after]
    exact hlength
  · rw [Run.ticks_after, hticked]

end RobotScript.Session
