import RobotScript.Proofs.Grid.Edge
import RobotScript.Proofs.Run.Course
import RobotScript.Proofs.Run.Effect

/-!
A run never drives the robot into a wall or off the field.

Nothing guards the robot but the question asked before each step, so safety is a property of whole
runs. `Underway.Safe` says what holds of a run between two of its dispatches and after its last one,
`Underway.Safe.after` that each effect of a dispatch keeps it, and `course_safe` is the statement
for every prefix of every execution.
-/

namespace RobotScript

/-! ### Walks -/

/-- **The moves among the events are a walk over the field** from the first cell to the last: each
starts where the one before it ended, goes one cell in its direction, stays on the field and crosses
no wall. -/
def Field.Walk (f : Field) : Cell → List Event → Cell → Prop
  | a, [], b => a = b
  | a, .moved start goal d :: events, b =>
    start = a ∧ goal = start + d.delta ∧ f.inBounds goal ∧
      (∀ w ∈ f.walls, ¬ w.Separates start goal) ∧ f.Walk goal events b
  | a, .painted _ _ :: events, b => f.Walk a events b
  | a, .wallHit _ _ :: events, b => f.Walk a events b

section Walk

variable {f : Field} {a b c : Cell} {events more : List Event}

lemma Field.Walk.append (h : f.Walk a events b) (hmore : f.Walk b more c) :
    f.Walk a (events ++ more) c := by
  induction events generalizing a with
  | nil =>
    obtain rfl : a = b := h
    exact hmore
  | cons event events ih =>
    cases event with
    | moved start goal d =>
      obtain ⟨hstart, hgoal, hbounds, hwalls, hrest⟩ := h
      exact ⟨hstart, hgoal, hbounds, hwalls, ih hrest⟩
    | painted cell fresh => exact ih (a := a) h
    | wallHit start goal => exact ih (a := a) h

lemma Field.walk_neighbour {r : Robot} {d : Direction} (h : f.isFree (r.neighbour d) r.position) :
    f.Walk r.position [.moved r.position (r.neighbour d) d] (r.neighbour d) := by
  obtain ⟨hbounds, hwalls⟩ := Field.isFree_iff.1 h
  exact ⟨rfl, rfl, hbounds, hwalls, rfl⟩

end Walk

/-! ### Where ticks come from -/

/-- The cell that an event takes the robot to. -/
def Event.goal? : Event → Option Cell
  | moved _ goal _ => some goal
  | _ => none

/-- **The tick comes from a command of the program** on its line, whose word means the step or the
painting that the tick tells of. -/
def Tick.MadeBy (e : Engine) (p : Program) (t : Tick) : Prop :=
  ∃ keyword, p.instructions[t.index]? = some ⟨.command keyword, t.line⟩ ∧
    match t.event with
    | .moved _ goal d => e.vocabulary.find? keyword = some (.move d) ∧ t.position = goal
    | .painted cell _ => e.vocabulary.find? keyword = some .paint ∧ t.position = cell
    | .wallHit _ _ => False

/-- A move takes the robot to the position of its tick, and a painting takes it nowhere. -/
lemma Tick.MadeBy.goal?_eq {e : Engine} {p : Program} {t : Tick} (h : t.MadeBy e p) :
    t.event.goal? = if t.event.isMove then some t.position else none := by
  obtain ⟨keyword, -, hevent⟩ := h
  obtain ⟨index, line, event, position⟩ := t
  cases event with
  | moved start goal d =>
    obtain ⟨-, rfl : position = goal⟩ := hevent
    rfl
  | painted cell fresh => rfl
  | wallHit start goal => exact hevent.elim

/-- The path of a report is where its moves lead. -/
lemma Report.path_of_madeBy {e : Engine} {p : Program} {r : Report}
    (h : ∀ t ∈ r.ticks, t.MadeBy e p) : r.path = r.ticks.filterMap (·.event.goal?) := by
  unfold Report.path
  generalize r.ticks = ticks at h ⊢
  induction ticks with
  | nil => rfl
  | cons t ticks ih =>
    have hrest := ih fun t' ht' => h t' (List.mem_cons_of_mem _ ht')
    have hgoal := (h t List.mem_cons_self).goal?_eq
    by_cases hmove : t.event.isMove
    · rw [if_pos hmove] at hgoal
      rw [List.filter_cons, if_pos hmove, List.map_cons, List.filterMap_cons, hgoal, hrest]
    · rw [if_neg hmove] at hgoal
      rw [List.filter_cons, if_neg hmove, List.filterMap_cons, hgoal, hrest]

/-! ### What a dispatch keeps -/

/-- **What holds of a run of a program that started on the field `f`.** -/
structure Underway.Safe (e : Engine) (p : Program) (f : Field) (u : Underway) : Prop where
  size : u.field.size = f.size
  walls : u.field.walls = f.walls
  inBounds : f.inBounds u.field.robot.position
  walk : f.Walk f.robot.position (u.ticks.reverse.map Tick.event) u.field.robot.position
  madeBy : ∀ t ∈ u.ticks, t.MadeBy e p

section Dispatch

variable {e : Engine} {p : Program} {f g : Field} {m : Machine} {u : Underway}
  {progress : Progress} {t : Tick}

/-- Whether the robot may step depends on the size and the walls only. -/
lemma Field.isFree_congr (hsize : g.size = f.size) (hwalls : g.walls = f.walls)
    (goal start : Cell) : g.isFree goal start = f.isFree goal start := by
  unfold Field.isFree Field.inBounds Field.hasWallBetween Field.hasWall
  rw [hsize, hwalls]

lemma Effect.painted_subset (h : Effect e p m f progress g) {c : Cell} (hc : c ∈ f.painted) :
    c ∈ g.painted := by
  cases h with
  | painted => exact Field.mem_painted_paint.2 (Or.inr hc)
  | quiet | turned | moved | refused => exact hc

/-- A tick tells where the robot stands after it. -/
lemma Effect.position_eq (h : Effect e p m f (.ticked t) g) : t.position = g.robot.position := by
  cases h with
  | quiet hidden => cases hidden
  | painted | moved => rfl

/-- **Every dispatch is safe**, also one that fails. -/
theorem Underway.Safe.after {a : Advance} (h : u.Safe e p f)
    (ha : Effect e p u.machine u.field a.progress a.field) : (u.after a).Safe e p f := by
  obtain ⟨progress, m', g⟩ := a
  cases ha with
  | quiet hidden =>
    have hticks := ticks_after_quiet (u := u) (m := m') (f := u.field) hidden
    refine ⟨h.size, h.walls, h.inBounds, ?_, ?_⟩
    · rw [hticks]
      exact h.walk
    · rw [hticks]
      exact h.madeBy
  | painted code word =>
    refine ⟨h.size, h.walls, h.inBounds, ?_, ?_⟩
    · rw [ticks_after_ticked, List.reverse_cons, List.map_append]
      exact h.walk.append rfl
    · rw [ticks_after_ticked]
      exact List.forall_mem_cons.2 ⟨⟨_, code, word, rfl⟩, h.madeBy⟩
  | turned => exact ⟨h.size, h.walls, h.inBounds, h.walk, h.madeBy⟩
  | @moved keyword line d code word motion free =>
    -- the way was asked for on the field of the run, which has the size and walls of the first one
    have hfree : f.isFree (u.field.robot.neighbour d) u.field.robot.position :=
      Field.isFree_congr h.size h.walls _ _ ▸ free
    refine ⟨h.size, h.walls, (Field.isFree_iff.1 hfree).1, ?_, ?_⟩
    · rw [ticks_after_ticked, List.reverse_cons, List.map_append]
      exact h.walk.append (Field.walk_neighbour hfree)
    · rw [ticks_after_ticked]
      exact List.forall_mem_cons.2 ⟨⟨_, code, word, rfl⟩, h.madeBy⟩
  | refused => exact ⟨h.size, h.walls, h.inBounds, h.walk, h.madeBy⟩

end Dispatch

/-! ### Whole runs -/

namespace Engine

variable {e : Engine} {p : Program} {f : Field}

lemma safe_course (hf : f.inBounds f.robot.position) (n : Nat) :
    (e.course p f n).Safe e p f := by
  refine course_induction (motive := fun _ u => u.Safe e p f) ?_ ?_ ?_ n
  · exact ⟨rfl, rfl, hf, rfl, by simp⟩
  · exact fun n u _ hsafe => hsafe.after (effect_advance e p u.machine u.field)
  · exact fun n u hsafe => hsafe

lemma painted_course {m n : Nat} (hmn : m ≤ n) {c : Cell}
    (hc : c ∈ (e.course p f m).field.painted) : c ∈ (e.course p f n).field.painted := by
  induction hmn with
  | refl => exact hc
  | @step n _ ih =>
    rcases hu : e.underway? p f n with _ | u
    · rw [course_succ_of_none hu]
      exact ih
    · rw [course_succ hu, Underway.field_after]
      rw [course_of_underway? hu] at ih
      exact (effect_advance e p u.machine u.field).painted_subset ih

/-- Each tick of a run was made by a dispatch and tells where the robot stood after it. -/
lemma tick_course (n : Nat) : ∀ newer t older, (e.course p f n).ticks = newer ++ t :: older →
    ∃ k < n, (e.course p f k).ticks = older ∧ (e.course p f (k + 1)).ticks = t :: older ∧
      t.position = (e.course p f (k + 1)).field.robot.position := by
  refine course_induction (motive := fun n u => ∀ newer t older, u.ticks = newer ++ t :: older →
    ∃ k < n, (e.course p f k).ticks = older ∧ (e.course p f (k + 1)).ticks = t :: older ∧
      t.position = (e.course p f (k + 1)).field.robot.position) ?_ ?_ ?_ n
  · intro newer t older h
    simp at h
  · intro n u hu ih newer t older h
    have hearlier : u.ticks = (e.course p f n).ticks := by rw [course_of_underway? hu]
    have heffect := effect_advance e p u.machine u.field
    have hcourse := course_succ hu
    rcases Underway.ticks_after_cases (u := u) (advance e p u.machine u.field) with
      hticks | ⟨tick, hprogress, hticks⟩
    · obtain ⟨k, hk, hk'⟩ := ih newer t older (hticks ▸ h)
      exact ⟨k, by omega, hk'⟩
    · -- the newest tick is the one of this dispatch, all others are older
      rw [hticks] at h
      cases newer with
      | nil =>
        obtain ⟨rfl, rfl⟩ : tick = t ∧ u.ticks = older := by simpa using h
        rw [hprogress] at heffect
        refine ⟨n, by omega, hearlier.symm, ?_, ?_⟩
        · rw [hcourse, hticks]
        · rw [hcourse]
          exact heffect.position_eq
      | cons newest newer =>
        obtain ⟨-, hu'⟩ : tick = newest ∧ u.ticks = newer ++ t :: older := by simpa using h
        obtain ⟨k, hk, hk'⟩ := ih newer t older hu'
        exact ⟨k, by omega, hk'⟩
  · intro n u ih newer t older h
    obtain ⟨k, hk, hk'⟩ := ih newer t older h
    exact ⟨k, by omega, hk'⟩

end Engine

/-- **A run never collides.** Let the robot stand on the field. Then every prefix of the run of any
program is safe, the path of its ticks is where the moves lead, each of its ticks was made by a
dispatch and tells where the robot stood right after it, and nothing that is painted is ever
unpainted. The execution, whether it fails or not, ends with the longest prefix, and its report has
the ticks of it. -/
theorem course_safe (e : Engine) (p : Program) (f : Field) (hf : f.inBounds f.robot.position) :
    (∀ n, (e.course p f n).Safe e p f ∧
      (∀ r : Report, r.ticks = (e.course p f n).ticks.reverse →
        r.path = r.ticks.filterMap (·.event.goal?)) ∧
      (∀ newer t older, (e.course p f n).ticks = newer ++ t :: older →
        ∃ k < n, (e.course p f k).ticks = older ∧ (e.course p f (k + 1)).ticks = t :: older ∧
          t.position = (e.course p f (k + 1)).field.robot.position) ∧
      ∀ later, n ≤ later → ∀ c ∈ (e.course p f n).field.painted,
        c ∈ (e.course p f later).field.painted) ∧
    (e.execute p f).last = e.course p f (e.settings.maxSteps + 1) ∧
    ∀ r, (e.execute p f).result = .ok r → r.ticks = (e.execute p f).last.ticks.reverse := by
  refine ⟨fun n => ⟨Engine.safe_course hf n, ?_, Engine.tick_course n, ?_⟩,
    Engine.last_execute e p f, fun r hr => Engine.ticks_of_ok hr⟩
  · intro r hr
    refine Report.path_of_madeBy (e := e) (p := p) fun t ht => ?_
    rw [hr, List.mem_reverse] at ht
    exact (Engine.safe_course hf n).madeBy t ht
  · exact fun later hlater c hc => Engine.painted_course hlater hc

/-- A step, a painting and a step off the field, which is refused. -/
theorem course_safe_of_refused :
    let p : Program :=
      ⟨[⟨.command "вправо", 1⟩, ⟨.command "закрасить", 2⟩, ⟨.command "вверх", 3⟩], []⟩
    (default : Field).inBounds (default : Field).robot.position ∧
      (({} : Engine).course p default 3).ticks.map Tick.event =
        [.painted ⟨1, 0⟩ true, .moved ⟨0, 0⟩ ⟨1, 0⟩ .east] ∧
      (({} : Engine).course p default 3).Safe {} p default :=
  ⟨by decide, by decide +kernel, ((course_safe _ _ default (by decide)).1 3).1⟩

end RobotScript
