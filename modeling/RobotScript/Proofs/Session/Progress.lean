import RobotScript.Proofs.Session.Interleaving

/-!
Runs that are never stuck.

No client waits for a lock while it holds one, so whoever holds a lock can go on
(`exists_step_of_holds`), and a run that cannot take its next lock waits for a client that can go on
(`exists_step_of_driving`).
-/

namespace RobotScript.Session

variable {ι : Type}

/-- A run that is in its call has something left to do, and it has a lock for its next action only
if that action needs one. -/
def Point.Proper : Point → Prop
  | driving r .ready => r.phase.lock?.isSome
  | driving r _ => ¬r.isLeft
  | _ => True

section Progress

variable {w w' : World ι} {c i : ι} {r : Run} {stage : Stage} {e : Effect} {l : Lock}

lemma Move.proper {s s' : Session} {p q : Point} (m : Move s p e q s') (hp : p.Proper) :
    q.Proper := by
  cases m with
  | load source => unfold Point.tryBegin; split <;> trivial
  | retry source seen idle => unfold Point.tryBegin; split <;> trivial
  | start source => exact Bool.false_ne_true
  | ready r h => exact h
  | look r h => exact not_isLeft_step (w := ⟨s, r, ()⟩) hp
  | pause r h hs =>
    intro hleft
    obtain ⟨result, hresult⟩ := Watched.isLeft_iff.1 hleft
    rw [h] at hresult
    cases hresult
  | advance r h => exact not_isLeft_step (w := ⟨s, r, ()⟩) hp
  | release r lock => exact hp
  | _ => trivial

lemma World.Reachable.proper (hw : w.Reachable) (i : ι) : (w.point i).Proper := by
  obtain ⟨s, log, _, h⟩ := hw
  refine h.keeps (P := fun w => ∀ i, (w.point i).Proper) ?_ (fun _ => trivial) i
  intro w i e w' hstep hproper j
  by_cases hj : j = i
  · subst hj
    exact hstep.move.proper (hproper j)
  · rw [hstep.others j hj]
    exact hproper j

/-- A run with the lock of its next action can make it. -/
lemma exists_move_of_ready {s : Session} (h : (Point.driving r .ready).holds l = true) :
    ∃ e q s', Move s (.driving r .ready) e q s' ∧
      ∀ l, q.holds l = true → (Point.driving r .ready).holds l = true := by
  have hlock : r.phase.lock? = some l := by simpa [Point.holds] using h
  rcases isCheck_or_isDispatch (by rw [hlock]; rfl) with hc | hd
  · refine ⟨_, _, _, .look r hc, ?_⟩
    rcases Run.phase_of_isCheck hc with hp | hp
    · simp [Point.holds, hp, Phase.lock?]
    · simp [Point.holds, hp, Phase.lock?]
  · refine ⟨_, _, _, .advance r hd, ?_⟩
    simp [Point.holds, Run.phase_of_isDispatch hd, Phase.lock?]

/-- Whoever holds a lock can go on without another one. -/
lemma exists_move_of_holds {p : Point} (s : Session) (h : p.holds l = true) :
    ∃ e q s', Move s p e q s' ∧ ∀ l, q.holds l = true → p.holds l = true := by
  cases p with
  | inside call =>
    cases call with
    | run source =>
      refine ⟨_, _, _, .load source, fun l hl => ?_⟩
      rwa [holds_tryBegin] at hl
    | edit change =>
      by_cases hs : s.status = .running
      · exact ⟨_, _, _, .busy change hs, fun _ hl => hl⟩
      · exact ⟨_, _, _, .allow change hs, fun _ hl => hl⟩
    | snapshot => exact ⟨_, _, _, .snapshot, fun _ hl => hl⟩
    | cancel =>
      by_cases hs : s.status = .running
      · exact ⟨_, _, _, .notice hs, fun _ hl => hl⟩
      · exact ⟨_, _, _, .ignore hs, fun _ hl => hl⟩
    | raiseStop => exact ⟨_, _, _, .raise, fun _ hl => hl⟩
    | clearStop => exact ⟨_, _, _, .lower, fun _ hl => hl⟩
    | isCancelled => exact ⟨_, _, _, .ask, fun _ hl => hl⟩
    | sleep => exact ⟨_, _, _, .wake, fun _ hl => hl⟩
  | changing change found => exact ⟨_, _, _, .change change found, fun _ hl => hl⟩
  | raising => exact ⟨_, _, _, .cancel, fun _ hl => hl⟩
  | exchanging source seen idle =>
    refine ⟨_, _, _, .retry source seen idle, fun l hl => ?_⟩
    rwa [holds_tryBegin] at hl
  | clearing source => exact ⟨_, _, _, .start source, fun _ hl => hl⟩
  | answering lock answer => exact ⟨_, _, _, .answer lock answer, nofun⟩
  | driving r stage =>
    cases stage with
    | free => cases h
    | ready => exact exists_move_of_ready h
    | acted lock => exact ⟨_, _, _, .release r lock, nofun⟩
  | outside last => cases h
  | waiting call => cases h

lemma exists_step_of_holds (h : (w.point i).holds l = true) : ∃ e w', Step w i e w' := by
  obtain ⟨e, q, s', m, hq⟩ := exists_move_of_holds w.session h
  obtain ⟨w', hstep⟩ := exists_step rfl m hq
  exact ⟨e, w', hstep⟩

/-- **A run is never stuck**: it can go on, or it waits for a lock whose holder can. -/
lemma exists_step_of_driving (hw : w.Reachable) (hc : w.point c = .driving r stage) :
    (∃ e w', Step w c e w') ∨
    ∃ l i e w', r.phase.lock? = some l ∧ (w.point i).holds l = true ∧ Step w i e w' := by
  classical
  have hproper := hw.proper c
  rw [hc] at hproper
  cases stage with
  | ready =>
    obtain ⟨l, hl⟩ := Option.isSome_iff_exists.1 hproper
    exact .inl (exists_step_of_holds (l := l) (by simp [hc, Point.holds, hl]))
  | acted lock => exact .inl (exists_step_of_holds (l := lock) (by simp [hc, Point.holds]))
  | free =>
    rcases hlock : r.phase.lock? with _ | l
    · obtain ⟨result, hp⟩ := leaving_of_lock?_eq_none hlock hproper
      exact .inl ⟨_, exists_step hc (.leave r result hp) (by simp [Point.holds])⟩
    · by_cases hheld : ∃ i, (w.point i).holds l = true
      · obtain ⟨i, hi⟩ := hheld
        obtain ⟨e, w', hstep⟩ := exists_step_of_holds hi
        exact .inr ⟨l, i, e, w', rfl, hi, hstep⟩
      · have m := Move.ready (s := w.session) r (by simp [hlock])
        rw [← hc] at m
        refine .inl ⟨_, _, step_moved m fun l' hl' => .inr fun j => ?_⟩
        obtain rfl : l = l' := by simpa [Point.holds, hlock] using hl'
        exact Bool.eq_false_iff.2 fun hj => hheld ⟨j, hj⟩

end Progress

end RobotScript.Session
