import RobotScript.Proofs.Session.Interleaving

/-!
Runs that nobody disturbs.

`World.Sound` is what every step keeps, whatever the clients do: a lock has one holder, at most one
client is in a run, and the status says whether one is. The status is not behind the lock of the
field, so a change that was let in before a run began may go on after it; `World.HeldBy` is what a
run has once it makes its first dispatch, for which it needed that lock. The main statement is
`run_isolation`.
-/

namespace RobotScript.Session

variable {ι : Type}

/-! ### What every step keeps -/

/-- The locks, the runs and the status of a world fit together. -/
structure World.Sound (w : World ι) : Prop where
  exclusive : ∀ l i j, (w.point i).holds l = true → (w.point j).holds l = true → i = j
  one_active : ∀ i j, (w.point i).isActive = true → (w.point j).isActive = true → i = j
  running_iff : w.session.status = .running ↔ ∃ i, (w.point i).isActive = true

section Steps

variable {w w' : World ι} {i j : ι} {e : Effect} {l : Lock}

/-- A client that moves does not get a lock that another one holds. -/
lemma Step.holds_of_held (h : Step w i e w') (hs : w.Sound) (hj : j ≠ i)
    (hheld : (w.point j).holds l = true) : (w'.point i).holds l = false := by
  rw [Bool.eq_false_iff]
  intro hi
  rcases h.granted l hi with hold | hfree
  · exact hj (hs.exclusive l j i hheld hold)
  · rw [hfree j] at hheld
    cases hheld

lemma Step.exclusive (h : Step w i e w') (hs : w.Sound) (a b : ι)
    (ha : (w'.point a).holds l = true) (hb : (w'.point b).holds l = true) : a = b := by
  by_cases hai : a = i
  · by_cases hbi : b = i
    · rw [hai, hbi]
    · subst hai
      rw [h.others b hbi] at hb
      rw [h.holds_of_held hs hbi hb] at ha
      cases ha
  · rw [h.others a hai] at ha
    by_cases hbi : b = i
    · subst hbi
      rw [h.holds_of_held hs hai ha] at hb
      cases hb
    · rw [h.others b hbi] at hb
      exact hs.exclusive l a b ha hb

/-- A step that neither begins nor ends a run moves nobody into a run or out of one. -/
lemma Step.isActive_eq (h : Step w i e w')
    (hi : (w'.point i).isActive = (w.point i).isActive) (a : ι) :
    (w'.point a).isActive = (w.point a).isActive := by
  by_cases ha : a = i
  · rw [ha, hi]
  · rw [h.others a ha]

lemma Step.sound (h : Step w i e w') (hs : w.Sound) : w'.Sound := by
  have hexclusive : ∀ l a b, (w'.point a).holds l = true → (w'.point b).holds l = true → a = b :=
    fun l a b => h.exclusive hs a b
  rcases h.move.status_cases with
    ⟨_, hidle, hrunning, hi⟩ | ⟨_, hstatus, hi, hi'⟩ | ⟨_, _, hstatus, hi⟩
  · -- a run begins: there was none
    have honly : ∀ a, (w'.point a).isActive = true → a = i := by
      intro a ha
      by_contra hai
      rw [h.others a hai] at ha
      exact hidle (hs.running_iff.2 ⟨a, ha⟩)
    refine ⟨hexclusive, ?_, iff_of_true hrunning ⟨i, hi⟩⟩
    intro a b ha hb
    rw [honly a ha, honly b hb]
  · -- the only run ends
    have hnone : ∀ a, ¬(w'.point a).isActive = true := by
      intro a ha
      by_cases hai : a = i
      · rw [hai, hi'] at ha
        cases ha
      · rw [h.others a hai] at ha
        exact hai (hs.one_active a i ha hi)
    refine ⟨hexclusive, fun a _ ha => absurd ha (hnone a), iff_of_false hstatus ?_⟩
    rintro ⟨a, ha⟩
    exact hnone a ha
  · have hsame := h.isActive_eq hi
    refine ⟨hexclusive, ?_, ?_⟩
    · intro a b ha hb
      rw [hsame] at ha hb
      exact hs.one_active a b ha hb
    · rw [hstatus, hs.running_iff]
      simp only [hsame]

/-- **Every world that clients can get to is sound.** -/
theorem World.Reachable.sound (hw : w.Reachable) : w.Sound := by
  obtain ⟨s, log, hs, h⟩ := hw
  refine h.keeps Step.sound ⟨nofun, nofun, iff_of_false hs ?_⟩
  rintro ⟨i, hi⟩
  cases hi

end Steps

/-! ### A run that has the field -/

/-- A client is in a run and nobody is in the middle of a change. -/
def World.HeldBy (w : World ι) (c : ι) : Prop :=
  (w.point c).isActive = true ∧ ∀ d, (w.point d).isChanging = false

section Held

variable {w w' v : World ι} {c d i : ι} {e : Effect} {progress : Progress}
  {log : List (ι × Effect)}

/-- A client in a run is in it until it leaves. -/
lemma Step.isActive_of_ne_leave (h : Step w i e w') (hne : (i, e) ≠ (c, .leave))
    (hc : (w.point c).isActive = true) : (w'.point c).isActive = true := by
  by_cases hci : c = i
  · subst hci
    rcases h.move.status_cases with ⟨_, _, _, hactive⟩ | ⟨he, _⟩ | ⟨_, _, _, hactive⟩
    · exact hactive
    · exact absurd (by rw [he]) hne
    · rw [hactive, hc]
  · rw [h.others c hci]
    exact hc

lemma holds_of_isChanging {p : Point} (h : p.isChanging = true) : p.holds .field = true := by
  cases p with
  | changing change found => rfl
  | _ => cases h

/-- The lock of the field keeps changes away from a dispatch. -/
lemma Step.heldBy_of_advance (h : Step w c (.advance progress) w') (hs : w.Sound) :
    w.HeldBy c := by
  rcases h.move.field_cases with ⟨he, _⟩ | ⟨_, r, _, hpoint, hphase⟩ | ⟨_, he, _⟩
  · cases he
  · have hfield : (w.point c).holds .field = true := by
      simp [hpoint, Point.holds, hphase, Phase.lock?]
    refine ⟨by rw [hpoint]; rfl, fun d => ?_⟩
    rw [Bool.eq_false_iff]
    intro hd
    have hdc : d = c := hs.exclusive .field d c (holds_of_isChanging hd) hfield
    rw [hdc, hpoint] at hd
    cases hd
  · exact absurd rfl (he progress)

/-- While a run is active no change is let in. -/
lemma Step.heldBy (h : Step w i e w') (hs : w.Sound) (hne : (i, e) ≠ (c, .leave))
    (hheld : w.HeldBy c) : w'.HeldBy c := by
  obtain ⟨hc, hchanging⟩ := hheld
  have hrunning : w.session.status = .running := hs.running_iff.2 ⟨c, hc⟩
  refine ⟨h.isActive_of_ne_leave hne hc, fun d => ?_⟩
  by_cases hdi : d = i
  · subst hdi
    rw [Bool.eq_false_iff]
    intro hd
    have hbefore := h.move.isChanging_of_running hrunning hd
    rw [hchanging d] at hbefore
    cases hbefore
  · rw [h.others d hdi]
    exact hchanging d

/-- A run keeps the field to itself until it leaves. -/
lemma Path.heldBy (h : Path w log v) (hw : w.Reachable) (hlog : (c, Effect.leave) ∉ log)
    (hheld : w.HeldBy c) : v.HeldBy c := by
  induction h with
  | nil => exact hheld
  | @snoc log v v' i e hpath hstep ih =>
    rw [List.mem_append, not_or] at hlog
    refine hstep.heldBy (hw.path hpath).sound ?_ (ih hlog.1)
    intro heq
    exact hlog.2 (by rw [heq]; exact List.mem_singleton_self _)

/-- Whoever changes the field of a run is that run, at a dispatch. -/
lemma Step.field_of_heldBy (h : Step w d e w') (hs : w.Sound) (hheld : w.HeldBy c) :
    (e ≠ .change ∧ w'.session.field = w.session.field) ∨ (d = c ∧ ∃ p, e = .advance p) := by
  rcases h.move.field_cases with ⟨_, hd⟩ | ⟨p, r, he, hpoint, _⟩ | ⟨he, _, hfield⟩
  · rw [hheld.2 d] at hd
    cases hd
  · right
    refine ⟨hs.one_active d c ?_ hheld.1, p, he⟩
    rw [hpoint]
    rfl
  · exact .inl ⟨he, hfield⟩

lemma Path.not_change_mem (h : Path w log v) (hw : w.Reachable)
    (hlog : (c, Effect.leave) ∉ log) (hheld : w.HeldBy c) (d : ι) : (d, Effect.change) ∉ log := by
  induction h with
  | nil => exact List.not_mem_nil
  | @snoc log v v' i e hpath hstep ih =>
    rw [List.mem_append, not_or] at hlog
    have hv := hpath.heldBy hw hlog.1 hheld
    rw [List.mem_append, not_or]
    refine ⟨ih hlog.1, ?_⟩
    rw [List.mem_singleton]
    rintro ⟨⟩
    rcases hstep.field_of_heldBy (hw.path hpath).sound hv with ⟨he, _⟩ | ⟨_, p, he⟩
    · exact he rfl
    · cases he

/-- Between two dispatches of a run the field stays as the first one left it. -/
lemma Path.field_eq (h : Path w log v) (hw : w.Reachable) (hlog : (c, Effect.leave) ∉ log)
    (hheld : w.HeldBy c) (hadvance : ∀ p, (c, Effect.advance p) ∉ log) :
    v.session.field = w.session.field := by
  induction h with
  | nil => rfl
  | @snoc log v v' i e hpath hstep ih =>
    simp only [List.mem_append, not_or] at hlog hadvance
    have hv := hpath.heldBy hw hlog.1 hheld
    have hfield := ih hlog.1 fun p => (hadvance p).1
    rcases hstep.field_of_heldBy (hw.path hpath).sound hv with ⟨_, he⟩ | ⟨rfl, p, rfl⟩
    · rw [he, hfield]
    · exact absurd (List.mem_singleton_self _) (hadvance p).2

end Held

/-! ### Calls that are refused -/

/-- Whenever the client `d` moves again, it returns with an answer, and its return changes nothing;
nobody can keep it from returning. -/
def World.Returns (w : World ι) (d : ι) (answer : Answer) : Prop :=
  ∀ log v, Path w log v → (∀ x ∈ log, x.1 ≠ d) →
    (∃ v', Step v d .none v') ∧
    ∀ e v', Step v d e v' → v'.session = v.session ∧ v'.point d = .outside (some answer)

section Refused

variable {w w' v : World ι} {d i : ι} {e : Effect} {log : List (ι × Effect)}

/-- A client that does not move stays where it is. -/
lemma Path.point_eq (h : Path w log v) (hlog : ∀ x ∈ log, x.1 ≠ d) : v.point d = w.point d := by
  induction h with
  | nil => rfl
  | @snoc log v v' i e _ hstep ih =>
    simp only [List.mem_append, List.mem_singleton] at hlog
    have hdi : d ≠ i := fun hdi => hlog (i, e) (.inr rfl) hdi.symm
    rw [hstep.others d hdi]
    exact ih fun x hx => hlog x (.inl hx)

/-- A client that has its answer returns with it. -/
lemma returns_of_answering {lock : Lock} {answer : Answer}
    (h : w.point d = .answering lock answer) : w.Returns d answer := by
  intro log v hpath hlog
  have hv : v.point d = .answering lock answer := (hpath.point_eq hlog).trans h
  constructor
  · exact exists_step hv (.answer lock answer) nofun
  · intro e v' hstep
    have m := hstep.move_of_point hv
    generalize v'.point d = q, v'.session = s' at m
    cases m
    exact ⟨rfl, rfl⟩

/-- **A change that looks at the status during a run is refused.** -/
lemma edit_refused {change : Change} (hw : w.Sound) (hi : (w.point i).isActive = true)
    (hd : w.point d = .inside (.edit change)) :
    (∃ w', Step w d .none w') ∧
    ∀ e w', Step w d e w' →
      w'.session = w.session ∧ w'.Returns d (.edited (.error .busy)) := by
  have hrunning : w.session.status = .running := hw.running_iff.2 ⟨i, hi⟩
  constructor
  · exact exists_step hd (.busy change hrunning) fun _ hl => hl
  · intro e w' hstep
    have m := hstep.move_of_point hd
    generalize hq : w'.point d = q at m
    generalize w'.session = s' at m
    cases m with
    | busy _ _ => exact ⟨rfl, returns_of_answering hq⟩
    | allow _ hs => exact absurd hrunning hs

end Refused

/-! ### Isolation -/

/-- In the middle of a change nobody else touches the field. -/
lemma Step.field_of_changing {w w' : World ι} {d i : ι} {e : Effect} (h : Step w i e w')
    (hs : w.Sound) (hd : (w.point d).isChanging = true) (hne : i ≠ d) :
    w'.session.field = w.session.field := by
  have hdfield : (w.point d).holds .field = true := holds_of_isChanging hd
  rcases h.move.field_cases with ⟨_, hi⟩ | ⟨_, r, _, hpoint, hphase⟩ | ⟨_, _, hfield⟩
  · exact absurd (hs.exclusive .field i d (holds_of_isChanging hi) hdfield) hne
  · have hi : (w.point i).holds .field = true := by
      simp [hpoint, Point.holds, hphase, Phase.lock?]
    exact absurd (hs.exclusive .field i d hi hdfield) hne
  · exact hfield

/-- **Runs are isolated, in whatever order the clients move.** At most one client is in a run, and
the status is running exactly while one is. From any dispatch of a run, the first one too, until
that run leaves, nobody is in the middle of a change, nobody makes one, and only dispatches of that
run touch the field. A change that was let in has the field to itself until it is done, and one
that looks at the status during a run is told that the field is busy and changes nothing. -/
theorem run_isolation {w : World ι} (hw : w.Reachable) :
    (∀ i j, (w.point i).isActive → (w.point j).isActive → i = j) ∧
    (w.session.status = .running ↔ ∃ i, (w.point i).isActive) ∧
    (∀ c progress w₁ log v, Step w c (.advance progress) w₁ → Path w₁ log v →
      (c, .leave) ∉ log →
      (∀ d, ¬(w.point d).isChanging ∧ ¬(v.point d).isChanging ∧ (d, .change) ∉ log) ∧
      ((∀ p, (c, .advance p) ∉ log) → v.session.field = w₁.session.field) ∧
      (∀ d e v', Step v d e v' → v'.session.field ≠ v.session.field →
        d = c ∧ ∃ p, e = .advance p)) ∧
    (∀ d i e w', (w.point d).isChanging → Step w i e w' → i ≠ d →
      w'.session.field = w.session.field) ∧
    (∀ d change, w.point d = .inside (.edit change) → (∃ i, (w.point i).isActive) →
      (∃ w', Step w d .none w') ∧
      ∀ e w', Step w d e w' →
        w'.session = w.session ∧ w'.Returns d (.edited (.error .busy))) := by
  have hs := hw.sound
  refine ⟨hs.one_active, hs.running_iff, ?_, ?_, ?_⟩
  · intro c progress w₁ log v hadvance hpath hlog
    have hheld : w.HeldBy c := hadvance.heldBy_of_advance hs
    have hheld₁ : w₁.HeldBy c := hadvance.heldBy hs (by simp) hheld
    have hw₁ : w₁.Reachable := hw.step hadvance
    have hheldv : v.HeldBy c := hpath.heldBy hw₁ hlog hheld₁
    refine ⟨fun d => ⟨?_, ?_, hpath.not_change_mem hw₁ hlog hheld₁ d⟩,
      hpath.field_eq hw₁ hlog hheld₁, ?_⟩
    · rw [hheld.2 d]
      exact Bool.false_ne_true
    · rw [hheldv.2 d]
      exact Bool.false_ne_true
    · intro d e v' hstep hne
      rcases hstep.field_of_heldBy (hw₁.path hpath).sound hheldv with ⟨_, hfield⟩ | hrun
      · exact absurd hfield hne
      · exact hrun
  · intro d i e w' hd hstep hne
    exact hstep.field_of_changing hs hd hne
  · rintro d change hd ⟨i, hi⟩
    exact edit_refused hs hi hd

/-- A reset that comes between the two steps of a run is refused, and the run makes its second step
from where the first has led. -/
theorem run_isolation_of_reset :
    ∃ (w w₁ v v₁ v₂ : World Bool) (log log₁ : List (Bool × Effect)),
      w.Reachable ∧
      Step w true (.advance (.ticked ⟨0, 1, .moved ⟨0, 0⟩ ⟨1, 0⟩ .east, ⟨1, 0⟩⟩)) w₁ ∧
      Path w₁ log v ∧ v.point false = .inside .reset ∧ v.session.field = w₁.session.field ∧
      (∀ e w', Step v false e w' →
        w'.session = v.session ∧ w'.Returns false (.edited (.error .busy))) ∧
      Path v log₁ v₁ ∧ v₁.point false = .outside (some (.edited (.error .busy))) ∧
      Step v₁ true (.advance (.ticked ⟨1, 2, .moved ⟨1, 0⟩ ⟨1, 1⟩ .south, ⟨1, 1⟩⟩)) v₂ := by
  let s : Session := { status := .running }
  let r : Run := { program := s.engine.read "вправо\nвниз", phase := .advancing }
  let t : Session := { s with field := (r.dispatch s).field }
  let after : Run := r.after s.engine.settings.delayMs (r.dispatch s)
  let next : Run := { after with phase := .advancing }
  have hfirst : (r.dispatch s).progress = .ticked ⟨0, 1, .moved ⟨0, 0⟩ ⟨1, 0⟩ .east, ⟨1, 0⟩⟩ := by
    decide +kernel
  have hsecond :
      (next.dispatch t).progress = .ticked ⟨1, 2, .moved ⟨1, 0⟩ ⟨1, 1⟩ .south, ⟨1, 1⟩⟩ := by
    decide +kernel
  -- the run begins and makes its first step
  obtain ⟨history, hbegun⟩ := exists_path_two_begun (s := {}) "вправо\nвниз" nofun
  have hw : (World.two s (.driving r .ready) (.outside none)).Reachable :=
    ⟨{}, history, nofun, hbegun⟩
  have hadvance := step_two_true (s := s) (q := .outside none) (.advance r rfl)
    (fun _ _ => .inr rfl)
  rw [hfirst, act_of_isDispatch rfl] at hadvance
  -- the other client takes the field for a reset
  have hpath := ((Path.single (step_two_true (s := t) (q := .outside none)
    (.release after .field) nofun)).snoc
    (step_two_false (.call none .reset) nofun)).snoc
    (step_two_false (.take .reset) (fun _ _ => .inr rfl))
  -- it is refused, and the run makes its second step
  have hrefused := (Path.single (step_two_false (s := t) (p := .driving after .free)
    (.busy (fun f => (.ok (), f.reset)) rfl) (fun _ hl => .inl hl))).snoc
    (step_two_false (.answer .field (.edited (.error .busy))) nofun)
  have hcheck : after.isCheck := Run.isCheck_after (by rw [hfirst]; rfl)
  obtain ⟨n, hready⟩ := exists_path_two_ready (s := t)
    (q := .outside (some (.edited (.error .busy)))) hcheck rfl fun _ => rfl
  have hagain := step_two_true (s := t) (q := .outside (some (.edited (.error .busy))))
    (.advance next rfl) (fun _ _ => .inr rfl)
  rw [hsecond] at hagain
  obtain ⟨_, _, hfield, _, _⟩ := run_isolation hw
  obtain ⟨_, _, _, _, hbusy⟩ := run_isolation ((hw.step hadvance).path hpath)
  refine ⟨_, _, _, _, _, _, _, hw, hadvance, hpath, rfl, ?_, ?_, hrefused.trans hready, rfl, hagain⟩
  · exact (hfield true _ _ _ _ hadvance hpath (by simp)).2.1 (by simp)
  · exact (hbusy false _ rfl ⟨true, rfl⟩).2

end RobotScript.Session
