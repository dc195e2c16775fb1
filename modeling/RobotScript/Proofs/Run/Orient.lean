import RobotScript.Proofs.Run.Indifference

/-!
Runs whose commands only turn the robot.

With the motion `orient` a movement command leaves the robot where it is, so no step is refused
(`Effect.eq_paint_or_turn`) and all a run can do is turn the robot and paint its cell over and over
again. `Underway.Rests` says this of a run between two dispatches, with exactly which ticks there
are: the first of them is fresh if the cell was unpainted, and no other one is. Every dispatch keeps
it (`Underway.Rests.after`); the main statement is `orient_only_turns`.
-/

namespace RobotScript

section Dispatch

variable {e : Engine} {p : Program} {m : Machine} {f g : Field} {progress : Progress}

/-- **What a dispatch can do if commands only turn**: it leaves the field and shows nothing, paints
the cell of the robot, or turns it. -/
lemma Effect.eq_paint_or_turn (h : Effect e p m f progress g)
    (horient : e.settings.motion = .orient) :
    g = f ∧ progress.event? = none ∨
    (∃ line, g = f.paint.2 ∧
      progress = .ticked ⟨m.pc, line, .painted f.robot.position f.paint.1, f.robot.position⟩) ∨
    ∃ d, g = f.setDirection d ∧ progress = .silent := by
  cases h with
  | quiet hidden => exact Or.inl ⟨rfl, hidden⟩
  | painted => exact Or.inr (Or.inl ⟨_, rfl, rfl⟩)
  | turned => exact Or.inr (Or.inr ⟨_, rfl, rfl⟩)
  | moved _ _ motion | refused _ _ motion =>
    rw [horient] at motion
    cases motion

/-- No step is refused if there are none. -/
lemma progress_ne_blockedMove (horient : e.settings.motion = .orient) (start goal : Cell)
    (line : Nat) : (advance e p m f).progress ≠ .failed (.blockedMove start goal line) := by
  intro hp
  have heffect := effect_advance e p m f
  rw [hp] at heffect
  rcases heffect.eq_paint_or_turn horient with ⟨-, hhidden⟩ | ⟨_, -, hticked⟩ | ⟨_, -, hsilent⟩
  · cases hhidden
  · cases hticked
  · cases hsilent

end Dispatch

/-! ### What a dispatch keeps -/

/-- The event of the `k`-th tick of a run whose robot stays on its cell. -/
def Field.repaint (f : Field) (k : Nat) : Event :=
  .painted f.robot.position (k = 0 && !f.isPainted f.robot.position)

/-- **A run that started on the field `f` has done no more than turn and paint.** -/
structure Underway.Rests (f : Field) (u : Underway) : Prop where
  ground : u.field.SameGround f
  ticks : u.ticks.reverse.map Tick.event = (List.range u.ticks.length).map f.repaint
  positions : ∀ t ∈ u.ticks, t.position = f.robot.position
  painted (c : Cell) : c ∈ u.field.painted ↔ c ∈ f.painted ∨ c = f.robot.position ∧ u.ticks ≠ []

namespace Underway.Rests

variable {e : Engine} {p : Program} {m : Machine} {f : Field} {u : Underway} {progress : Progress}

/-- The next painting is fresh if it is the first one and the cell was unpainted. -/
lemma paint_eq (h : u.Rests f) :
    Event.painted u.field.robot.position u.field.paint.1 = f.repaint u.ticks.length := by
  have hpainted := h.painted f.robot.position
  simp only [true_and] at hpainted
  rw [Field.repaint, Field.paint, h.ground.position, Event.painted.injEq]
  refine ⟨rfl, ?_⟩
  rw [Bool.eq_iff_iff, Bool.and_eq_true, Bool.not_eq_true', Bool.not_eq_true', decide_eq_true_iff,
    ← Bool.not_eq_true, ← Bool.not_eq_true, Field.isPainted_iff, Field.isPainted_iff, hpainted,
    List.length_eq_zero_iff]
  tauto

lemma after_quiet (h : u.Rests f) (hp : progress.event? = none) :
    (u.after ⟨progress, m, u.field⟩).Rests f := by
  have hticks := Underway.ticks_after_quiet (u := u) (m := m) (f := u.field) hp
  exact ⟨h.ground, by rw [hticks]; exact h.ticks, by rw [hticks]; exact h.positions,
    by rw [hticks]; exact h.painted⟩

lemma after_turn (h : u.Rests f) (d : Direction) :
    (u.after ⟨.silent, m, u.field.setDirection d⟩).Rests f :=
  ⟨⟨h.ground.size, h.ground.walls, h.ground.position⟩, h.ticks, h.positions, h.painted⟩

lemma after_paint (h : u.Rests f) (index line : Nat) :
    (u.after ⟨.ticked ⟨index, line, .painted u.field.robot.position u.field.paint.1,
      u.field.robot.position⟩, m, u.field.paint.2⟩).Rests f := by
  refine ⟨⟨h.ground.size, h.ground.walls, h.ground.position⟩, ?_, ?_, fun c => ?_⟩
  · rw [Underway.ticks_after_ticked, List.reverse_cons, List.map_append, h.ticks,
      List.length_cons, List.range_succ, List.map_append]
    exact congrArg _ (congrArg (fun event => [event]) h.paint_eq)
  · rw [Underway.ticks_after_ticked]
    exact List.forall_mem_cons.2 ⟨h.ground.position, h.positions⟩
  · rw [Underway.ticks_after_ticked, Underway.field_after, Field.mem_painted_paint, h.painted,
      h.ground.position]
    simp only [ne_eq, reduceCtorEq, not_false_eq_true, and_true]
    tauto

/-- **Every dispatch leaves the robot at rest**, also one that fails. -/
theorem after {a : Advance} (h : u.Rests f) (horient : e.settings.motion = .orient)
    (ha : Effect e p u.machine u.field a.progress a.field) : (u.after a).Rests f := by
  obtain ⟨progress, m', g⟩ := a
  rcases ha.eq_paint_or_turn horient with ⟨rfl, hhidden⟩ | ⟨line, rfl, rfl⟩ | ⟨d, rfl, rfl⟩
  · exact h.after_quiet hhidden
  · exact h.after_paint _ line
  · exact h.after_turn d

end Underway.Rests

/-! ### Whole runs -/

section Runs

variable {e : Engine} {p : Program} {f : Field} {u : Underway}

lemma Engine.rests_course (horient : e.settings.motion = .orient) (n : Nat) :
    (e.course p f n).Rests f := by
  refine course_induction (motive := fun _ u => u.Rests f) ?_ ?_ ?_ n
  · exact ⟨⟨rfl, rfl, rfl⟩, rfl, by simp, by simp⟩
  · intro n u _ hu
    exact hu.after horient (effect_advance e p u.machine u.field)
  · exact fun n u hu => hu

/-- The ticks one by one. -/
lemma Underway.Rests.tick (h : u.Rests f) {k : Nat} {t : Tick}
    (ht : u.ticks.reverse[k]? = some t) :
    t.event = f.repaint k ∧ t.position = f.robot.position := by
  refine ⟨?_, h.positions t (List.mem_reverse.1 (List.mem_of_getElem? ht))⟩
  have hk : k < u.ticks.length := by simpa using (List.getElem?_eq_some_iff.1 ht).1
  have hevent := congrArg (·[k]?) h.ticks
  simp only [List.getElem?_map, ht, List.getElem?_range hk, Option.map_some] at hevent
  exact Option.some.inj hevent

/-- A report whose robot stayed on its cell has no path. -/
lemma Underway.Rests.path_eq_nil (h : u.Rests f) {r : Report} (hr : r.ticks = u.ticks.reverse) :
    r.path = [] := by
  rw [Report.path, List.map_eq_nil_iff, List.filter_eq_nil_iff]
  intro t ht
  rw [hr] at ht
  obtain ⟨k, hk⟩ := List.mem_iff_getElem?.1 ht
  rw [(h.tick hk).1]
  exact Bool.false_ne_true

lemma Field.SameGround.evaluate_eq {g : Field} (h : f.SameGround g) (text : String) :
    Condition.evaluate text f = Condition.evaluate text g := by
  unfold Condition.evaluate
  rcases Condition.read text with reason | c
  · rfl
  · simp only [h.holds_eq c]

lemma Engine.execute_ne_blockedMove (horient : e.settings.motion = .orient) (start goal : Cell)
    (line : Nat) : (e.execute p f).result ≠ .error (.blockedMove start goal line) := by
  obtain ⟨n, u, -, -, ⟨-, hx⟩ | ⟨failure, hp, hx⟩⟩ := execute_cases e p f
  · rw [hx]
    exact nofun
  · rw [hx]
    intro hresult
    cases hresult
    exact progress_ne_blockedMove horient start goal line hp

end Runs

/-- **A run whose commands only turn moves nothing.** Let commands only turn the robot. Then in
every prefix of the run of any program, also of one that fails, the field has its size, its walls
and its robot where they were. All ticks are paintings of that cell; the first one is fresh if the
cell was unpainted, and no other is. So there is no path, the cell is the only one painted, exactly
if there was a tick, and the robot looks where the last movement command told it. Every condition is
answered as it was at the start. No execution ends with a refused step; it ends with the longest
prefix. -/
theorem orient_only_turns (e : Engine) (p : Program) (f : Field)
    (horient : e.settings.motion = .orient) :
    (∀ n, ((e.course p f n).field.size = f.size ∧ (e.course p f n).field.walls = f.walls ∧
        (e.course p f n).field.robot.position = f.robot.position) ∧
      (∀ k (t : Tick), (e.course p f n).ticks.reverse[k]? = some t →
        t.event = .painted f.robot.position (k = 0 && !f.isPainted f.robot.position) ∧
          t.position = f.robot.position) ∧
      (∀ r : Report, r.ticks = (e.course p f n).ticks.reverse → r.path = []) ∧
      (∀ c, c ∈ (e.course p f n).field.painted ↔
        c ∈ f.painted ∨ c = f.robot.position ∧ (e.course p f n).ticks ≠ []) ∧
      (e.course p f n).field.robot.direction = (e.turns p f n).head?.getD f.robot.direction ∧
      ∀ text, Condition.evaluate text (e.course p f n).field = Condition.evaluate text f) ∧
    (∀ start goal line, (e.execute p f).result ≠ .error (.blockedMove start goal line)) ∧
    (e.execute p f).last = e.course p f (e.settings.maxSteps + 1) ∧
    ∀ r, (e.execute p f).result = .ok r →
      r.ticks = (e.execute p f).last.ticks.reverse ∧ r.path = [] := by
  refine ⟨fun n => ?_, Engine.execute_ne_blockedMove horient, Engine.last_execute e p f,
    fun r hr => ⟨Engine.ticks_of_ok hr, ?_⟩⟩
  · have hrests := Engine.rests_course (p := p) (f := f) horient n
    exact ⟨⟨hrests.ground.size, hrests.ground.walls, hrests.ground.position⟩,
      fun k t ht => hrests.tick ht, fun r hr => hrests.path_eq_nil hr, hrests.painted,
      Engine.direction_course n, hrests.ground.evaluate_eq⟩
  · have hrests := Engine.rests_course (p := p) (f := f) horient (e.settings.maxSteps + 1)
    rw [← Engine.last_execute] at hrests
    exact hrests.path_eq_nil (Engine.ticks_of_ok hr)

/-- An endless loop in a corner turns the robot towards the border and paints, until the steps are
used up. -/
theorem orient_only_turns_of_endless :
    let e : Engine := { settings := { motion := .orient, maxSteps := 7 } }
    let p : Program := ⟨[⟨.loopStart "слева стена", 1⟩, ⟨.command "вверх", 2⟩,
      ⟨.command "закрасить", 3⟩, ⟨.loopEnd, 4⟩], []⟩
    let f : Field := default
    (e.execute p f).result = .error (.stepLimitExceeded 7) ∧
      (e.course p f 8).ticks.map Tick.event = [.painted ⟨0, 0⟩ false, .painted ⟨0, 0⟩ true] ∧
      (e.course p f 8).field.robot.position = f.robot.position ∧
      (e.turns p f 8).head? = some .north ∧ (e.course p f 8).field.robot.direction = .north ∧
      Condition.evaluate "слева стена" (e.course p f 8).field =
        Condition.evaluate "слева стена" f := by
  intro e p f
  obtain ⟨⟨-, -, hposition⟩, -, -, -, hdirection, hconditions⟩ :=
    (orient_only_turns e p f rfl).1 8
  have hturns : (e.turns p f 8).head? = some .north := by decide +kernel
  rw [hturns] at hdirection
  exact ⟨by decide +kernel, by decide +kernel, hposition, hturns, hdirection, hconditions _⟩

end RobotScript
