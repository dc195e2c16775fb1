import Mathlib.Logic.Relation
import RobotScript.Field.Snapshot
import RobotScript.Proofs.Grid.Edge
import RobotScript.Proofs.Run.Course
import RobotScript.Proofs.Run.Effect
import RobotScript.Proofs.Session.Actions

/-!
Everything on a field stays in range.

A field is changed by its own functions, by the dispatches of a run and through a session. `Call`
lists these calls and `Reaches` puts any number of them one after another. Whatever a call does comes
down to the seven changes of `Alters` (`Call.altered`), so an invariant has to be checked for those
only. `Fenced` is kept by all of them, `Valid` by all but a move of the robot to a cell off the field,
which nothing refuses; `reaches_in_range` is the statement for every sequence of calls.
-/

namespace RobotScript

open Relation (ReflTransGen)

namespace Field

/-- **A field of a positive size with its walls on it.** -/
structure Fenced (f : Field) : Prop where
  positive : 0 < f.size
  walls {w : Wall} : w ∈ f.walls → w.fits f.size

/-! ### Updates that are not refused -/

section Update

variable {f : Field} {u : Update} {size : Int}

lemma badWall?_eq_none_iff : u.badWall? size = none ↔ ∀ w ∈ u.walls.getD [], w.fits size := by
  simp [Update.badWall?]

lemma badCell?_eq_none_iff :
    u.badCell? size = none ↔ ∀ c ∈ u.painted.getD [], covers size c := by
  simp [Update.badCell?]

lemma badRobot?_eq_none_iff :
    u.badRobot? size = none ↔ ∀ r, u.robot = some r → covers size r.position := by
  simp [Update.badRobot?, Option.filter_eq_none_iff]

lemma mem_walls_overwrite {w : Wall} :
    w ∈ (f.overwrite u).walls ↔ w ∈ u.walls.getD [] ∨ u.walls = none ∧ w ∈ f.walls := by
  rcases hu : u.walls with _ | ws
  · simp [overwrite, hu]
  · simp [overwrite, hu, Std.ExtTreeSet.mem_ofList]

lemma mem_painted_overwrite {c : Cell} :
    c ∈ (f.overwrite u).painted ↔ c ∈ u.painted.getD [] ∨ u.painted = none ∧ c ∈ f.painted := by
  rcases hu : u.painted with _ | cs
  · simp [overwrite, hu]
  · simp [overwrite, hu, Std.ExtTreeSet.mem_ofList]

end Update

/-! ### The elementary changes -/

/-- **What can happen to a field.** The robot is put onto a cell of the field, or onto one that is
allowed. -/
inductive Alters (allowed : Field → Cell → Prop) (f : Field) : Field → Prop
  | addWall {w : Wall} (fits : w.fits f.size) :
      Alters allowed f { f with walls := f.walls.insert w }
  | removeWall (w : Wall) : Alters allowed f { f with walls := f.walls.erase w }
  | overwrite {u : Update} (faultless : u.fault? f.size = none) : Alters allowed f (f.overwrite u)
  | reset : Alters allowed f f.reset
  | turn (d : Direction) : Alters allowed f (f.setDirection d)
  | paint : Alters allowed f f.paint.2
  | move {c : Cell} (target : f.inBounds c ∨ allowed f c) : Alters allowed f (f.moveRobotTo c)

section Alters

variable {allowed : Field → Cell → Prop} {f g : Field}

lemma Alters.size_eq (h : Alters allowed f g) : g.size = f.size := by
  cases h <;> rfl

lemma Alters.fenced (h : Alters allowed f g) (hf : f.Fenced) : g.Fenced := by
  cases h with
  | @addWall w fits =>
    refine ⟨hf.positive, fun {v} hv => ?_⟩
    rw [Std.ExtTreeSet.mem_insert, Std.LawfulEqCmp.compare_eq_iff_eq] at hv
    rcases hv with rfl | hv
    · exact fits
    · exact hf.walls hv
  | removeWall w => exact ⟨hf.positive, fun hv => hf.walls (Std.ExtTreeSet.mem_of_mem_erase hv)⟩
  | @overwrite u faultless =>
    have hwalls := badWall?_eq_none_iff.1 (Update.fault?_eq_none_iff.1 faultless).1
    refine ⟨hf.positive, fun {v} hv => ?_⟩
    rcases mem_walls_overwrite.1 hv with hv | ⟨-, hv⟩
    · exact hwalls v hv
    · exact hf.walls hv
  | reset => exact ⟨hf.positive, fun hv => absurd hv Std.ExtTreeSet.not_mem_empty⟩
  | turn | paint | move => exact ⟨hf.positive, hf.walls⟩

lemma Valid.fenced (h : f.Valid) : f.Fenced := by
  have hr := covers_iff.1 h.robot
  exact ⟨by omega, h.walls⟩

lemma inBounds_initial (h : 0 < f.size) : f.inBounds Robot.initial.position := by
  refine covers_iff.2 ?_
  simp only [Robot.initial, Cell.origin]
  omega

lemma Alters.painted_of_inBounds (h : Alters allowed f g) (hf : f.Valid) {c : Cell}
    (hc : c ∈ g.painted) : g.inBounds c := by
  cases h with
  | addWall | removeWall | turn | move => exact hf.painted hc
  | @overwrite u faultless =>
    have hcells := badCell?_eq_none_iff.1 (Update.fault?_eq_none_iff.1 faultless).2.1
    rcases mem_painted_overwrite.1 hc with hc | ⟨-, hc⟩
    · exact hcells c hc
    · exact hf.painted hc
  | reset => exact absurd hc Std.ExtTreeSet.not_mem_empty
  | paint =>
    -- the robot paints the cell under it, which nobody checks
    rcases mem_painted_paint.1 hc with rfl | hc
    · exact hf.robot
    · exact hf.painted hc

lemma Alters.robot_of_inBounds (h : Alters (fun f c => f.inBounds c) f g) (hf : f.Valid) :
    g.inBounds g.robot.position := by
  cases h with
  | addWall | removeWall | turn | paint => exact hf.robot
  | @overwrite u faultless =>
    have hrobot := badRobot?_eq_none_iff.1 (Update.fault?_eq_none_iff.1 faultless).2.2
    show f.inBounds (u.robot.getD f.robot).position
    rcases hu : u.robot with _ | r
    · exact hf.robot
    · exact hrobot r hu
  | reset => exact inBounds_initial hf.fenced.positive
  | move target => exact Or.elim target id id

/-- **No change takes anything out of range**, if the robot is put onto cells of the field only. -/
lemma Alters.valid (h : Alters (fun f c => f.inBounds c) f g) (hf : f.Valid) : g.Valid :=
  ⟨h.robot_of_inBounds hf, (h.fenced hf.fenced).walls, h.painted_of_inBounds hf⟩

end Alters

/-! ### Calls -/

/-- **A call that can change a field.** A call that is refused leaves the field as it is. -/
inductive Call (allowed : Field → Cell → Prop) (f : Field) : Field → Prop
  | addWall (w : Wall) : Call allowed f ((f.addWall w).toOption.elim f Prod.snd)
  | removeWall (w : Wall) : Call allowed f (f.removeWall w).2
  | toggleWall (w : Wall) : Call allowed f ((f.toggleWall w).toOption.elim f Prod.snd)
  | apply (u : Update) : Call allowed f ((f.apply u).toOption.getD f)
  | reset : Call allowed f f.reset
  | setDirection (d : Direction) : Call allowed f (f.setDirection d)
  | paint : Call allowed f f.paint.2
  | moveRobotTo {c : Cell} (target : allowed f c) : Call allowed f (f.moveRobotTo c)
  | step (e : Engine) (p : Program) (m : Machine) : Call allowed f (m.step e p f).field
  | execute (e : Engine) (p : Program) : Call allowed f (e.execute p f).field
  -- the calls of a session that holds the field, in whatever state it is
  | sessionUpdate {s : Session} (holds : s.field = f) (u : Update) :
      Call allowed f (s.update u).2.field
  | sessionReset {s : Session} (holds : s.field = f) : Call allowed f s.reset.2.field
  | sessionRun {s : Session} (holds : s.field = f) {σ : Type} (source : String)
      (watcher : Session.Watcher σ) (seen : σ) :
      Call allowed f (s.run source watcher seen).2.1.field
  /-- A run after some of its actions, between which others set the stop flag. -/
  | sessionRunning {s : Session} (holds : s.field = f) {σ : Type} {source : String} {seen : σ}
      {w : Session.Watched σ} (started : s.start source seen = .ok w) (watcher : Session.Watcher σ)
      (others : Nat → Bool → Bool) (n : Nat) :
      Call allowed f (w.after watcher others n).session.field

/-- **One field comes out of another by calls.** An edit of a session is made of calls. -/
inductive Reaches (allowed : Field → Cell → Prop) : Field → Field → Prop
  | refl (f : Field) : Reaches allowed f f
  | call {f g h : Field} (before : Reaches allowed f g) (next : Call allowed g h) :
      Reaches allowed f h
  | sessionEdit {f : Field} {s : Session} {α : Type} {change : Field → Except Error α × Field}
      (before : Reaches allowed f s.field) (made : ∀ g, Reaches allowed g (change g).2) :
      Reaches allowed f (s.edit change).2.field

/-- The fields that can be made. -/
inductive Made : Field → Prop
  | blank : Made default
  | ofSize {size : Int} {f : Field} (made : ofSize size = .ok f) : Made f
  | ofSnapshot {s : Snapshot} {f : Field} (made : ofSnapshot s = .ok f) : Made f

end Field

/-! ### What a run makes of a field -/

section Runs

variable {allowed : Field → Cell → Prop} {e : Engine} {p : Program} {m : Machine} {f : Field}

/-- A dispatch turns the robot, paints, or steps onto a cell of the field. -/
lemma Effect.altered {g : Field} {progress : Progress} (h : Effect e p m f progress g) :
    ReflTransGen (Field.Alters allowed) f g := by
  cases h with
  | quiet => exact .refl
  | painted => exact .single .paint
  | turned => exact .single (.turn _)
  | @moved keyword line d code word motion free =>
    have hgoal : f.inBounds (f.robot.neighbour d) := (Field.isFree_iff.1 free).1
    exact .tail (.single (.turn d)) (.move (Or.inl hgoal))
  | refused => exact .single (.turn _)

lemma Engine.altered_course (n : Nat) :
    ReflTransGen (Field.Alters allowed) f (e.course p f n).field := by
  refine course_induction (motive := fun _ u => ReflTransGen (Field.Alters allowed) f u.field)
    ?_ ?_ ?_ n
  · exact .refl
  · intro n u _ ih
    exact ih.trans (effect_advance e p u.machine u.field).altered
  · exact fun n u ih => ih

namespace Session.Watched

variable {σ : Type} {watcher : Watcher σ} {w : Watched σ}

/-- An action of a run leaves the field alone, unless it is a dispatch. -/
lemma field_session_step (watcher : Watcher σ) (w : Watched σ) :
    (w.step watcher).session.field = w.session.field ∨
      (w.step watcher).session.field = w.dispatch.field := by
  unfold step
  split
  · left
    split <;> rfl
  · exact Or.inr field_session_advance
  · left
    split <;> rfl
  · exact Or.inl rfl
  · exact Or.inl rfl

lemma altered_after (others : Nat → Bool → Bool) (n : Nat) :
    ReflTransGen (Field.Alters allowed) w.session.field
      (w.after watcher others n).session.field := by
  induction n with
  | zero => exact .refl
  | succ n ih =>
    rw [after_succ]
    rcases field_session_step watcher
      ((w.after watcher others n).withStop (w.flagAt watcher others n)) with h | h
    · rw [h]
      exact ih
    · rw [h]
      exact ih.trans (effect_advance _ _ _ _).altered

end Session.Watched

end Runs

/-! ### What calls make of a field -/

namespace Session

variable {σ : Type} {s : Session}

/-- A run begins on the field of its session. -/
lemma field_of_start {source : String} {seen : σ} {w : Watched σ}
    (h : s.start source seen = .ok w) : w.session.field = s.field := by
  unfold start begin? at h
  split at h
  · cases h
  · next session hsession =>
    cases h
    split at hsession
    · cases hsession
    · cases hsession
      rfl

lemma altered_run {allowed : Field → Cell → Prop} (source : String) (watcher : Watcher σ)
    (seen : σ) :
    ReflTransGen (Field.Alters allowed) s.field (s.run source watcher seen).2.1.field := by
  unfold run
  split
  · exact .refl
  · next w hw =>
    rw [← field_of_start hw, Watched.finish_eq_after]
    exact Watched.altered_after _ _

/-- An edit leaves the field or makes its change, as the status says. -/
lemma field_edit {α : Type} (change : Field → Except Field.Error α × Field) :
    (s.edit change).2.field = s.field ∨ (s.edit change).2.field = (change s.field).2 := by
  unfold edit
  split
  · exact Or.inl rfl
  · exact Or.inr rfl

end Session

namespace Field

variable {allowed : Field → Cell → Prop} {f g : Field}

lemma altered_apply (f : Field) (u : Update) :
    ReflTransGen (Alters allowed) f ((f.apply u).toOption.getD f) := by
  rcases h : f.apply u with e | g
  · exact .refl
  · obtain ⟨hfault, rfl⟩ := apply_eq_ok_iff.1 h
    exact .single (.overwrite hfault)

lemma altered_addWall (f : Field) (w : Wall) :
    ReflTransGen (Alters allowed) f ((f.addWall w).toOption.elim f Prod.snd) := by
  unfold addWall
  split
  · next h => exact .single (.addWall h)
  · exact .refl

lemma altered_toggleWall (f : Field) (w : Wall) :
    ReflTransGen (Alters allowed) f ((f.toggleWall w).toOption.elim f Prod.snd) := by
  unfold toggleWall
  split
  · exact .refl
  · next h =>
    split
    · exact .single (.removeWall w)
    · exact .single (.addWall (by simpa using h))

/-- **Every call comes down to the elementary changes.** -/
theorem Call.altered (h : Call allowed f g) : ReflTransGen (Alters allowed) f g := by
  cases h with
  | addWall w => exact altered_addWall f w
  | removeWall w => exact .single (.removeWall w)
  | toggleWall w => exact altered_toggleWall f w
  | apply u => exact altered_apply f u
  | reset => exact .single .reset
  | setDirection d => exact .single (.turn d)
  | paint => exact .single .paint
  | moveRobotTo target => exact .single (.move (Or.inr target))
  | step e p m => exact (effect_advance e p m f).altered
  | execute e p =>
    rw [Execution.field, Engine.last_execute]
    exact Engine.altered_course _
  | @sessionUpdate s holds u =>
    subst holds
    rcases s.field_edit _ with h | h
    · rw [Session.update, h]
    · rw [Session.update, h]
      have hupdate : ReflTransGen (Alters allowed) _ _ := altered_apply s.field u
      rcases happly : s.field.apply u with e | g
      · exact .refl
      · rw [happly] at hupdate
        exact hupdate
  | @sessionReset s holds =>
    subst holds
    rcases s.field_edit (fun f => ((.ok () : Except Error Unit), f.reset)) with h | h
    · rw [Session.reset, h]
    · rw [Session.reset, h]
      exact .single .reset
  | sessionRun holds source watcher seen =>
    subst holds
    exact Session.altered_run source watcher seen
  | sessionRunning holds started watcher others n =>
    subst holds
    rw [← Session.field_of_start started]
    exact Session.Watched.altered_after others n

/-- So does every sequence of calls. -/
theorem Reaches.altered (h : Reaches allowed f g) : ReflTransGen (Alters allowed) f g := by
  induction h with
  | refl f => exact .refl
  | call _ next ih => exact ih.trans next.altered
  | @sessionEdit f s α change _ _ ih ihmade =>
    rcases s.field_edit change with h | h
    · rw [h]
      exact ih
    · rw [h]
      exact ih.trans (ihmade s.field)

/-! ### Invariants -/

lemma size_of_altered (h : ReflTransGen (Alters allowed) f g) : g.size = f.size := by
  induction h with
  | refl => rfl
  | tail _ next ih => rw [next.size_eq, ih]

lemma fenced_of_altered (h : ReflTransGen (Alters allowed) f g) (hf : f.Fenced) : g.Fenced := by
  induction h with
  | refl => exact hf
  | tail _ next ih => exact next.fenced ih

lemma valid_of_altered (h : ReflTransGen (Alters fun f c => f.inBounds c) f g) (hf : f.Valid) :
    g.Valid := by
  induction h with
  | refl => exact hf
  | tail _ next ih => exact next.valid ih

lemma valid_blank {size : Int} (h : 0 < size) : (blank size).Valid where
  robot := inBounds_initial h
  walls hw := absurd hw Std.ExtTreeSet.not_mem_empty
  painted hc := absurd hc Std.ExtTreeSet.not_mem_empty

lemma ofSize_eq_ok_iff {size : Int} : ofSize size = .ok f ↔ 0 < size ∧ f = blank size := by
  unfold ofSize
  split
  · simp only [reduceCtorEq, false_iff]
    omega
  · next h =>
    rw [Except.ok.injEq, eq_comm]
    exact (and_iff_right (by omega)).symm

/-- **Whatever is made is valid.** -/
lemma Made.valid (h : Made f) : f.Valid := by
  cases h with
  | blank => exact valid_blank (by decide)
  | ofSize made =>
    obtain ⟨hsize, rfl⟩ := ofSize_eq_ok_iff.1 made
    exact valid_blank hsize
  | @ofSnapshot s f made =>
    unfold Field.ofSnapshot at made
    split at made
    · cases made
    · next g hg =>
      obtain ⟨hsize, rfl⟩ := ofSize_eq_ok_iff.1 hg
      obtain ⟨hfault, rfl⟩ := apply_eq_ok_iff.1 made
      exact Alters.valid (.overwrite hfault) (valid_blank hsize)

/-- **Everything on a field stays in range.** After any sequence of calls on a field that was made,
with whatever results, its size is what it was and positive, and all its walls stand on it. The robot
and the paint are on it too, unless the robot was put onto a cell off the field. -/
theorem reaches_in_range {f₀ f : Field} (made : Made f₀) :
    (Reaches (fun _ _ => True) f₀ f →
      f.size = f₀.size ∧ 0 < f.size ∧ ∀ w ∈ f.walls, w.fits f.size) ∧
    (Reaches (fun g c => g.inBounds c) f₀ f →
      f.size = f₀.size ∧ 0 < f.size ∧ (∀ w ∈ f.walls, w.fits f.size) ∧
        (∀ c ∈ f.painted, f.inBounds c) ∧ f.inBounds f.robot.position) := by
  constructor
  · intro h
    have hfenced := fenced_of_altered h.altered made.valid.fenced
    exact ⟨size_of_altered h.altered, hfenced.positive, fun w hw => hfenced.walls hw⟩
  · intro h
    have hvalid := valid_of_altered h.altered made.valid
    exact ⟨size_of_altered h.altered, hvalid.fenced.positive, fun w hw => hvalid.walls hw,
      fun c hc => hvalid.painted hc, hvalid.robot⟩

/-- A robot that is put into the far corner, paints it and is refused a step, and one that is put off
the field and paints there. -/
theorem reaches_in_range_of_corner :
    let walled := ((default : Field).addWall ⟨1, 0, .vertical⟩).toOption.elim default Prod.snd
    let corner := (({} : Machine).step {} ⟨[⟨.command "вниз", 1⟩], []⟩
      (walled.moveRobotTo ⟨9, 9⟩).paint.2).field
    let lost := (walled.moveRobotTo ⟨-1, 0⟩).paint.2
    (corner.robot = ⟨⟨9, 9⟩, .south⟩ ∧ corner.walls.toList = [⟨1, 0, .vertical⟩] ∧
      (∀ w ∈ corner.walls, w.fits corner.size) ∧ (∀ c ∈ corner.painted, corner.inBounds c) ∧
      corner.inBounds corner.robot.position) ∧
    (lost.inBounds lost.robot.position = false ∧ 0 < lost.size ∧
      ∀ w ∈ lost.walls, w.fits lost.size) := by
  intro walled corner lost
  have hwalled {allowed : Field → Cell → Prop} : Reaches allowed default walled :=
    .call (.refl _) (.addWall _)
  have hcorner : Reaches (fun g c => g.inBounds c) default corner :=
    .call (.call (.call hwalled (.moveRobotTo (by decide +kernel))) .paint) (.step _ _ _)
  have hlost : Reaches (fun _ _ => True) default lost :=
    .call (.call hwalled (.moveRobotTo trivial)) .paint
  obtain ⟨-, -, hwalls, hpainted, hrobot⟩ := (reaches_in_range .blank).2 hcorner
  obtain ⟨-, hpositive, hlostWalls⟩ := (reaches_in_range .blank).1 hlost
  exact ⟨⟨by decide +kernel, by decide +kernel, hwalls, hpainted, hrobot⟩, by decide +kernel,
    hpositive, hlostWalls⟩

end Field

end RobotScript
