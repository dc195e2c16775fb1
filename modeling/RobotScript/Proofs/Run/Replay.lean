import RobotScript.Proofs.Run.Course
import RobotScript.Proofs.Run.Effect

/-!
The events of a run tell all that happened to the field.

Whoever sees the first field and then only the events of a run can draw every field in between.
`Field.redraw` changes the drawing by one event. `Effect.tells` says that the event of a dispatch
tells what the dispatch did, `Underway.Told` that a run and the drawing agree, and `execution_told`
is the statement for whole executions, failed ones included.
-/

namespace RobotScript

/-! ### Drawing a field from events -/

namespace Field

/-- Changes a field as an event tells. After a refused step the robot looks at the wall. -/
def redraw (f : Field) : Event → Field
  | .moved _ goal d => (f.setDirection d).moveRobotTo goal
  | .painted cell _ => { f with painted := f.painted.insert cell }
  | .wallHit start goal =>
    match Direction.ofDelta? (goal - start) with
    | some d => f.setDirection d
    | none => f

/-- Changes a field by one event after the other. -/
def replay (f : Field) (events : List Event) : Field := events.foldl redraw f

lemma replay_snoc (f : Field) (events : List Event) (event : Event) :
    f.replay (events ++ [event]) = (f.replay events).redraw event := by
  rw [replay, List.foldl_append]
  rfl

lemma fresh_iff {f : Field} : f.paint.1 = true ↔ f.robot.position ∉ f.painted := by
  rw [← isPainted_iff]
  simp [paint]

/-- The direction of a refused step can be read off its two cells. -/
lemma redraw_wallHit (f : Field) (r : Robot) (d : Direction) :
    f.redraw (.wallHit r.position (r.neighbour d)) = f.setDirection d := by
  rw [redraw, Robot.neighbour, Cell.add_sub_cancel_left, Direction.ofDelta?_delta]

end Field

/-! ### What one dispatch tells -/

/-- **An event tells what became of a field**: all of it if commands step, and at any rate the
paint, the cell that was painted and whether it had paint before. -/
structure Event.Tells (motion : Motion) (event : Event) (f g : Field) : Prop where
  drawn : motion = .step → g = f.redraw event
  painted (c : Cell) : c ∈ g.painted ↔ c ∈ f.painted ∨ ∃ b, event = .painted c b
  cell {c : Cell} {fresh : Bool} : event = .painted c fresh → c = g.robot.position
  fresh {c : Cell} {fresh : Bool} : event = .painted c fresh → (fresh = true ↔ c ∉ f.painted)

section Dispatch

variable {e : Engine} {p : Program} {m : Machine} {f g : Field} {q : Progress}

/-- An event that is no painting has to tell of no paint. -/
lemma Event.Tells.of_unpainted {motion : Motion} {event : Event}
    (hevent : ∀ c b, event ≠ .painted c b) (hpainted : g.painted = f.painted)
    (hdrawn : g = f.redraw event) : event.Tells motion f g where
  drawn _ := hdrawn
  painted c := by simp [hpainted, hevent]
  cell h := absurd h (hevent _ _)
  fresh h := absurd h (hevent _ _)

/-- **The event of a dispatch tells what it did.** -/
theorem Effect.tells (h : Effect e p m f q g) {event : Event} (hevent : q.event? = some event) :
    event.Tells e.settings.motion f g := by
  cases h with
  | quiet hidden =>
    rw [hidden] at hevent
    cases hevent
  | painted =>
    cases hevent
    refine ⟨fun _ => rfl, fun c => ?_, fun h => ?_, fun h => ?_⟩
    · rw [Field.mem_painted_paint, or_comm]
      simp [eq_comm]
    · cases h
      rfl
    · cases h
      exact Field.fresh_iff
  | turned => cases hevent
  | moved =>
    cases hevent
    exact .of_unpainted (by simp) rfl rfl
  | refused =>
    cases hevent
    exact .of_unpainted (by simp) rfl (Field.redraw_wallHit f f.robot _).symm

/-- A dispatch without an event leaves the paint, and all else if commands step. -/
lemma Effect.eq_of_quiet (h : Effect e p m f q g) (hquiet : q.event? = none) :
    g.painted = f.painted ∧ (e.settings.motion = .step → g = f) := by
  cases h with
  | quiet => exact ⟨rfl, fun _ => rfl⟩
  | turned code word motion => exact ⟨rfl, fun hstep => by rw [motion] at hstep; cases hstep⟩
  | painted | moved | refused => cases hquiet

lemma Effect.event_ne_wallHit {t : Tick} (h : Effect e p m f (.ticked t) g) (a b : Cell) :
    t.event ≠ .wallHit a b := by
  cases h with
  | quiet hidden => cases hidden
  | painted | moved => exact nofun

end Dispatch

/-! ### What a run has told -/

/-- **What is told is true**: the field that goes with an event is the drawing up to that event if
commands step, and a painting tells the cell of the robot and whether it had no paint. -/
structure Sighting.Truthful (motion : Motion) (f : Field) (before : List Event) (s : Sighting) :
    Prop where
  drawn : motion = .step → s.field = f.replay (before ++ [s.event])
  cell {c : Cell} {fresh : Bool} : s.event = .painted c fresh → c = s.field.robot.position
  fresh {c : Cell} {fresh : Bool} : s.event = .painted c fresh →
    (fresh = true ↔ c ∉ f.painted ∧ ∀ b, .painted c b ∉ before)

/-- The events of a run so far, in order. -/
def Underway.events (u : Underway) : List Event := u.sightings.reverse.map Sighting.event

/-- **A run has told all it did** to the field it started on. -/
structure Underway.Told (motion : Motion) (f : Field) (u : Underway) : Prop where
  drawn : motion = .step → u.field = f.replay u.events
  painted (c : Cell) : c ∈ u.field.painted ↔ c ∈ f.painted ∨ ∃ b, .painted c b ∈ u.events
  truthful (newer older : List Sighting) (s : Sighting) : u.sightings = newer ++ s :: older →
    s.Truthful motion f (older.reverse.map Sighting.event)

namespace Underway

variable {f : Field} {u : Underway} {motion : Motion} {a : Advance} {event : Event}

lemma events_after (h : a.progress.event? = some event) :
    (u.after a).events = u.events ++ [event] := by
  rw [events, sightings_after a h, List.reverse_cons, List.map_append]
  rfl

lemma events_after_quiet (h : a.progress.event? = none) : (u.after a).events = u.events := by
  rw [events, sightings_after_quiet h]
  rfl

lemma Told.after_quiet (h : u.Told motion f) (hquiet : a.progress.event? = none)
    (hpainted : a.field.painted = u.field.painted) (hfield : motion = .step → a.field = u.field) :
    (u.after a).Told motion f := by
  refine ⟨fun hm => ?_, fun c => ?_, ?_⟩
  · rw [events_after_quiet hquiet, field_after, hfield hm]
    exact h.drawn hm
  · rw [events_after_quiet hquiet, field_after, hpainted]
    exact h.painted c
  · rw [sightings_after_quiet hquiet]
    exact h.truthful

/-- What an event tells of one dispatch goes into what the run has told. -/
lemma Told.after_event (h : u.Told motion f) (hevent : a.progress.event? = some event)
    (htells : event.Tells motion u.field a.field) : (u.after a).Told motion f := by
  have hdrawn : motion = .step → a.field = f.replay (u.events ++ [event]) := by
    intro hm
    rw [Field.replay_snoc, ← h.drawn hm]
    exact htells.drawn hm
  refine ⟨fun hm => ?_, fun c => ?_, fun newer older s hs => ?_⟩
  · rw [events_after hevent]
    exact hdrawn hm
  · rw [events_after hevent, field_after, htells.painted, h.painted, or_assoc, ← exists_or]
    simp only [List.mem_append, List.mem_singleton, eq_comm]
  · -- the newest sighting is the one of this dispatch, all others were truthful before
    rw [sightings_after a hevent] at hs
    cases newer with
    | nil =>
      obtain ⟨rfl, rfl⟩ := List.cons.inj hs
      refine ⟨hdrawn, htells.cell, fun hpaint => ?_⟩
      rw [htells.fresh hpaint, h.painted, not_or, not_exists]
      rfl
    | cons newest newer => exact h.truthful newer older s (List.cons.inj hs).2

/-- **Every dispatch is told**, a refused one too. -/
theorem Told.after {e : Engine} {p : Program} (h : u.Told e.settings.motion f)
    (ha : Effect e p u.machine u.field a.progress a.field) :
    (u.after a).Told e.settings.motion f := by
  rcases hevent : a.progress.event? with _ | event
  · obtain ⟨hpainted, hfield⟩ := ha.eq_of_quiet hevent
    exact h.after_quiet hevent hpainted hfield
  · exact h.after_event hevent (ha.tells hevent)

end Underway

/-! ### Whole runs -/

/-- The refused step that ended a run, as it is told. -/
def Execution.refusal (x : Execution) : List Event :=
  match x.result with
  | .error (.blockedMove start goal _) => [.wallHit start goal]
  | _ => []

namespace Engine

variable {e : Engine} {p : Program} {f : Field} {u : Underway} {n : Nat}

lemma told_course (n : Nat) : (e.course p f n).Told e.settings.motion f := by
  refine course_induction (motive := fun _ u => u.Told e.settings.motion f) ?_ ?_ ?_ n
  · exact ⟨fun _ => rfl, by simp [Underway.events], by simp⟩
  · exact fun n u _ htold => htold.after (effect_advance e p u.machine u.field)
  · exact fun n u htold => htold

lemma event_ne_wallHit (n : Nat) : ∀ t ∈ (e.course p f n).ticks, ∀ a b, t.event ≠ .wallHit a b := by
  refine course_induction
    (motive := fun _ u => ∀ t ∈ u.ticks, ∀ a b, t.event ≠ .wallHit a b) ?_ ?_ ?_ n
  · simp
  · intro n u _ ih
    have heffect := effect_advance e p u.machine u.field
    rcases Underway.ticks_after_cases (u := u) (advance e p u.machine u.field) with
      hticks | ⟨tick, hprogress, hticks⟩
    · rw [hticks]
      exact ih
    · rw [hprogress] at heffect
      rw [hticks]
      exact List.forall_mem_cons.2 ⟨heffect.event_ne_wallHit, ih⟩
  · exact fun n u ih => ih

/-- Until a run ends it has told its ticks and nothing else. -/
lemma events_of_underway? (h : e.underway? p f n = some u) :
    u.events = u.ticks.reverse.map Tick.event := by
  induction n generalizing u with
  | zero =>
    cases h
    rfl
  | succ n ih =>
    obtain ⟨v, hv, hgoes, rfl⟩ := underway?_succ_eq_some h
    have hbefore := ih hv
    rcases ha : advance e p v.machine v.field with ⟨progress, m', g⟩
    rw [ha] at hgoes
    cases progress with
    | silent => exact hbefore
    | ticked tick =>
      rw [Underway.events_after rfl, hbefore, Underway.ticks_after_ticked, List.reverse_cons,
        List.map_append]
      rfl
    | halted | failed => cases hgoes

lemma events_execute (e : Engine) (p : Program) (f : Field) :
    (e.execute p f).sightings.map Sighting.event =
      (e.execute p f).last.ticks.reverse.map Tick.event ++ (e.execute p f).refusal := by
  obtain ⟨n, u, hu, -, ⟨hprogress, hx⟩ | ⟨failure, hprogress, hx⟩⟩ := execute_cases e p f
  · rcases ha : advance e p u.machine u.field with ⟨progress, m', g⟩
    rw [ha] at hprogress hx
    obtain rfl : progress = .halted := hprogress
    rw [hx]
    exact (events_of_underway? hu).trans (List.append_nil _).symm
  · rcases ha : advance e p u.machine u.field with ⟨progress, m', g⟩
    rw [ha] at hprogress hx
    obtain rfl : progress = .failed failure := hprogress
    rw [hx]
    have htold : (u.after ⟨.failed failure, m', g⟩).events =
        u.events ++ (Progress.failed failure).event?.toList := by
      rcases hevent : (Progress.failed failure).event? with _ | event
      · rw [Underway.events_after_quiet hevent]
        exact (List.append_nil _).symm
      · exact Underway.events_after hevent
    refine Eq.trans htold ?_
    rw [events_of_underway? hu]
    congr 1
    cases failure <;> rfl

end Engine

/-- **The events of a run tell all that happened.** An execution shows the events of its ticks,
which a report lists, and after them the refused step that ended it, if one did; no tick is a
refusal. Where commands step, the events lead from the first field to the last one, in failed runs
too. Each sighting is truthful about what was told before it. -/
theorem execution_told (e : Engine) (p : Program) (f : Field) :
    (e.execute p f).sightings.map Sighting.event =
      (e.execute p f).last.ticks.reverse.map Tick.event ++ (e.execute p f).refusal ∧
    (∀ r, (e.execute p f).result = .ok r → r.ticks = (e.execute p f).last.ticks.reverse) ∧
    (∀ t ∈ (e.execute p f).last.ticks, ∀ a b, t.event ≠ .wallHit a b) ∧
    (e.settings.motion = .step →
      (e.execute p f).field = f.replay ((e.execute p f).sightings.map Sighting.event)) ∧
    ∀ before s after, (e.execute p f).sightings = before ++ s :: after →
      s.Truthful e.settings.motion f (before.map Sighting.event) := by
  have hlast := Engine.last_execute e p f
  have htold : (e.execute p f).last.Told e.settings.motion f := hlast ▸ Engine.told_course _
  refine ⟨Engine.events_execute e p f, fun r hr => Engine.ticks_of_ok hr,
    hlast ▸ Engine.event_ne_wallHit _, htold.drawn, fun before s after hs => ?_⟩
  have hsightings : (e.execute p f).last.sightings = after.reverse ++ s :: before.reverse := by
    have hreverse : (e.execute p f).last.sightings.reverse = before ++ s :: after := hs
    rw [List.reverse_eq_iff] at hreverse
    simpa using hreverse
  simpa using htold.truthful _ _ _ hsightings

/-- A run that paints, steps back and forth over its paint and is refused a step. -/
theorem execution_told_of_refused :
    let p : Program := ⟨[⟨.command "закрасить", 1⟩, ⟨.command "вправо", 2⟩, ⟨.command "влево", 3⟩,
      ⟨.command "закрасить", 4⟩, ⟨.command "вверх", 5⟩], []⟩
    let events : List Event := [.painted ⟨0, 0⟩ true, .moved ⟨0, 0⟩ ⟨1, 0⟩ .east,
      .moved ⟨1, 0⟩ ⟨0, 0⟩ .west, .painted ⟨0, 0⟩ false, .wallHit ⟨0, 0⟩ ⟨0, -1⟩]
    ({} : Engine).settings.motion = .step ∧
      (({} : Engine).execute p default).sightings.map Sighting.event = events ∧
      (({} : Engine).execute p default).field = Field.replay default events := by
  intro p events
  have hevents : (({} : Engine).execute p default).sightings.map Sighting.event = events := by
    decide +kernel
  refine ⟨rfl, hevents, ?_⟩
  rw [← hevents]
  exact (execution_told {} p default).2.2.2.1 rfl

end RobotScript
