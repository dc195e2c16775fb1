import Mathlib.Data.Nat.Find
import RobotScript.Proofs.Run.Collision
import RobotScript.Proofs.Run.Guarded
import RobotScript.Proofs.Script.Grammar

/-!
The walk to the wall.

The script `straight d` is a loop of one step, guarded by the question whether this step is free.
`Field.ClearFor` says how many steps the robot can make in a direction. A lap of the loop is three
dispatches, so after `n` dispatches the machine is at the instruction `n % 3` and the robot has made
`(n + 1) / 3` steps, as long as the way is free (`striding_unlimited?`). The end of the walk and the
exact effect of a limit follow; the main statement is `straight_to_wall`.
-/

namespace RobotScript

/-! ### The way ahead -/

namespace Field

variable (f : Field) (d : Direction)

/-- The cell so many steps from the robot in a direction. -/
def ahead (n : Nat) : Cell :=
  ⟨f.robot.position.x + n * d.delta.x, f.robot.position.y + n * d.delta.y⟩

/-- **The robot can make exactly so many steps in a direction.** -/
structure ClearFor (steps : Nat) : Prop where
  free {n : Nat} : n < steps → f.isFree (f.ahead d (n + 1)) (f.ahead d n)
  blocked : f.isFree (f.ahead d (steps + 1)) (f.ahead d steps) = false

/-- The field after so many steps. The first one turns the robot. -/
def strode : Nat → Field
  | 0 => f
  | n + 1 => (f.setDirection d).moveRobotTo (f.ahead d (n + 1))

variable {f d} {n k : Nat}

@[simp] lemma ahead_zero : f.ahead d 0 = f.robot.position := by
  simp [ahead]

lemma ahead_succ : f.ahead d (n + 1) = f.ahead d n + d.delta := by
  ext
  · simp only [ahead, Cell.add_x, Int.natCast_succ, Int.add_mul, Int.one_mul, Int.add_assoc]
  · simp only [ahead, Cell.add_y, Int.natCast_succ, Int.add_mul, Int.one_mul, Int.add_assoc]

/-- A free way ends before it has the length of the field. -/
lemma lt_size_of_free (hf : f.inBounds f.robot.position)
    (hfree : ∀ n < k, f.isFree (f.ahead d (n + 1)) (f.ahead d n)) : (k : Int) < f.size := by
  have hstart := covers_iff.1 hf
  cases k with
  | zero =>
    omega
  | succ k =>
    -- the robot has crossed the field in one of the coordinates, and is still on it
    have hgoal := covers_iff.1 (isFree_iff.1 (hfree k (Nat.lt_succ_self k))).1
    cases d <;> simp only [ahead, Direction.delta] at hgoal <;> omega

/-- **The way ahead is free for some number of steps, less than the size, and then blocked.** -/
theorem exists_clearFor (hf : f.inBounds f.robot.position) (d : Direction) :
    ∃ k, f.ClearFor d k ∧ (k : Int) < f.size := by
  have hblocked : ∃ n, f.isFree (f.ahead d (n + 1)) (f.ahead d n) = false := by
    by_contra hnone
    have hlt := lt_size_of_free (d := d) (k := f.size.toNat) hf fun n _ => by
      by_contra hn
      exact hnone ⟨n, by simpa using hn⟩
    omega
  have hfree : ∀ n < Nat.find hblocked, f.isFree (f.ahead d (n + 1)) (f.ahead d n) :=
    fun n hn => by simpa using Nat.find_min hblocked hn
  exact ⟨Nat.find hblocked, ⟨fun {n} => hfree n, Nat.find_spec hblocked⟩,
    lt_size_of_free hf hfree⟩

lemma ClearFor.unique {other : Nat} (h : f.ClearFor d k) (hother : f.ClearFor d other) :
    other = k := by
  rcases Nat.lt_trichotomy other k with hlt | heq | hlt
  · have hfree := h.free hlt
    rw [hother.blocked] at hfree
    cases hfree
  · exact heq
  · have hfree := hother.free hlt
    rw [h.blocked] at hfree
    cases hfree

/-! ### Fields on the way -/

@[simp] lemma size_strode : (f.strode d n).size = f.size := by
  cases n <;> rfl

@[simp] lemma walls_strode : (f.strode d n).walls = f.walls := by
  cases n <;> rfl

@[simp] lemma painted_strode : (f.strode d n).painted = f.painted := by
  cases n <;> rfl

@[simp] lemma position_strode : (f.strode d n).robot.position = f.ahead d n := by
  cases n with
  | zero => exact ahead_zero.symm
  | succ n => rfl

lemma direction_strode :
    (f.strode d n).robot.direction = if 0 < n then d else f.robot.direction := by
  cases n with
  | zero => rfl
  | succ n => exact (if_pos (Nat.succ_pos n)).symm

lemma neighbour_strode : (f.strode d n).robot.neighbour d = f.ahead d (n + 1) := by
  rw [Robot.neighbour, position_strode, ahead_succ]

lemma isFree_strode :
    (f.strode d n).isFree ((f.strode d n).robot.neighbour d) (f.strode d n).robot.position =
      f.isFree (f.ahead d (n + 1)) (f.ahead d n) := by
  rw [isFree_congr size_strode walls_strode, neighbour_strode, position_strode]

lemma strode_succ :
    ((f.strode d n).setDirection d).moveRobotTo (f.ahead d (n + 1)) = f.strode d (n + 1) := by
  cases n <;> rfl

/-- The ticks of so many steps, made by the second instruction on the second line. -/
def strides (f : Field) (d : Direction) (n : Nat) : List Tick :=
  (List.range n).map fun j =>
    ⟨1, 2, .moved (f.ahead d j) (f.ahead d (j + 1)) d, f.ahead d (j + 1)⟩

@[simp] lemma length_strides : (f.strides d n).length = n := by
  simp [strides]

lemma strides_succ :
    f.strides d (n + 1) = f.strides d n ++
      [⟨1, 2, .moved (f.ahead d n) (f.ahead d (n + 1)) d, f.ahead d (n + 1)⟩] := by
  rw [strides, List.range_succ, List.map_append]
  rfl

end Field

/-! ### The script -/

open Text

/-- The script that steps in a direction as long as it can. -/
def straight (d : Direction) : String :=
  Keyword.loopStart ++ " " ++ Condition.written ⟨d, .free⟩ ++ "\n" ++ Vocabulary.stepWord d ++
    "\n" ++ Keyword.loopEnd

/-- The program of this script. -/
def straightProgram (d : Direction) : Program where
  instructions := [⟨.loopStart (Condition.written ⟨d, .free⟩), 1⟩,
    ⟨.command (Vocabulary.stepWord d), 2⟩, ⟨.loopEnd, 3⟩]

lemma lines_straight (d : Direction) :
    lines (lowercase (straight d).toList) =
      [(Keyword.loopStart ++ " " ++ Condition.written ⟨d, .free⟩).toList,
        (Vocabulary.stepWord d).toList, Keyword.loopEnd.toList] := by
  have hplain : (straight d).toList.all isPlain := by
    cases d <;> decide +kernel
  rw [lowercase_of_isPlain hplain]
  cases d <;> decide +kernel

/-- The line of the step is read as the step. -/
lemma readLine_stepWord (d : Direction) :
    Source.readLine .standard (Vocabulary.stepWord d).toList =
      .instruction (.command (Vocabulary.stepWord d)) := by
  refine Source.readLine_keyword ?_ ?_ ?_
  · rw [Vocabulary.find?_stepWord]
    rfl
  · cases d <;> decide
  · cases d <;> decide

/-- **The script is read as the program.** -/
theorem ofSource_straight (d : Direction) :
    Program.ofSource .standard (straight d) = straightProgram d := by
  have hguard : Source.readLine .standard
      (Keyword.loopStart ++ " " ++ Condition.written ⟨d, .free⟩).toList =
      .instruction (.loopStart (Condition.written ⟨d, .free⟩)) := by
    cases d <;> decide +kernel
  have hend : Source.readLine .standard Keyword.loopEnd.toList = .instruction .loopEnd := by
    decide
  have hread : Source.readLines .standard (straight d) =
      [(.instruction (.loopStart (Condition.written ⟨d, .free⟩)), 1),
        (.instruction (.command (Vocabulary.stepWord d)), 2), (.instruction .loopEnd, 3)] := by
    rw [Source.readLines, lines_straight, List.map_cons, List.map_cons, List.map_cons, List.map_nil,
      hguard, readLine_stepWord, hend]
    rfl
  unfold Program.ofSource
  rw [hread]
  rfl

lemma loopExit_straightProgram (d : Direction) :
    loopExit (straightProgram d).instructions 0 = .ok 3 := rfl

/-! ### A lap of the loop -/

/-- **A walk that has made so many steps** and goes on at an instruction. Before the first lap the
machine is in no loop. -/
structure Underway.Striding (f : Field) (d : Direction) (place steps : Nat) (u : Underway) :
    Prop where
  pc : u.machine.pc = place
  loops : u.machine.loops = [0] ∨ place = 0 ∧ u.machine.loops = []
  field : u.field = f.strode d steps
  ticks : u.ticks.reverse = f.strides d steps

/-- The run after one more dispatch that is not counted against a limit. -/
def Underway.advanced (e : Engine) (p : Program) (u : Underway) : Underway :=
  u.after (unlimitedAdvance e p u.machine u.field)

section Lap

variable {s : Settings} {f : Field} {d : Direction} {n k : Nat} {u : Underway}

/-- The guard of the loop is looked at on the field of the walk. -/
lemma checkGuard_strode (line : Nat) :
    checkGuard (Condition.written ⟨d, .free⟩) (f.strode d n) line =
      .ok (f.isFree (f.ahead d (n + 1)) (f.ahead d n)) := by
  rw [checkGuard_of_read (Condition.read_written _)]
  exact congrArg Except.ok Field.isFree_strode

lemma unlimitedAdvance_guard (hu : u.Striding f d 0 n) :
    unlimitedAdvance { settings := s } (straightProgram d) u.machine u.field =
      ⟨.silent,
        if f.isFree (f.ahead d (n + 1)) (f.ahead d n) then ⟨1, [0], u.machine.dispatched + 1⟩
        else ⟨3, [], u.machine.dispatched + 1⟩,
        u.field⟩ := by
  obtain ⟨⟨pc, loops, dispatched⟩, field, ticks, sightings⟩ := u
  obtain ⟨rfl, hloops, rfl, -⟩ := hu
  have hi : (straightProgram d).instructions[0]? =
      some ⟨.loopStart (Condition.written ⟨d, .free⟩), 1⟩ := rfl
  have henter : Machine.enterLoop loops 0 = [0] ∧ Machine.leaveLoop loops 0 = [] := by
    rcases hloops with hloops | ⟨-, hloops⟩
    · obtain rfl : loops = [0] := hloops
      exact ⟨rfl, rfl⟩
    · obtain rfl : loops = [] := hloops
      exact ⟨rfl, rfl⟩
  rw [unlimitedAdvance_of_getElem? hi]
  rcases hfree : f.isFree (f.ahead d (n + 1)) (f.ahead d n) with _ | _
  · simp only [Machine.dispatch, Machine.runLoopStart, checkGuard_strode, hfree, Machine.counted,
      loopExit_straightProgram, henter.2]
    rfl
  · simp only [Machine.dispatch, Machine.runLoopStart, checkGuard_strode, hfree, Machine.counted,
      Machine.next, henter.1]
    rfl

/-- **A free step lets the walk into the loop.** -/
lemma Underway.Striding.enter (hu : u.Striding f d 0 n)
    (hfree : f.isFree (f.ahead d (n + 1)) (f.ahead d n)) :
    (unlimitedAdvance { settings := s } (straightProgram d) u.machine u.field).progress.goesOn ∧
      (u.advanced { settings := s } (straightProgram d)).Striding f d 1 n := by
  rw [Underway.advanced, unlimitedAdvance_guard hu, if_pos hfree]
  exact ⟨rfl, rfl, Or.inl rfl, hu.field, hu.ticks⟩

/-- **The step of a lap.** -/
lemma Underway.Striding.stride (hmotion : s.motion = .step) (hu : u.Striding f d 1 n)
    (hfree : f.isFree (f.ahead d (n + 1)) (f.ahead d n)) :
    (unlimitedAdvance { settings := s } (straightProgram d) u.machine u.field).progress.goesOn ∧
      (u.advanced { settings := s } (straightProgram d)).Striding f d 2 (n + 1) := by
  obtain ⟨⟨pc, loops, dispatched⟩, field, ticks, sightings⟩ := u
  obtain ⟨rfl, hloops, rfl, hticks⟩ := hu
  have hi : (straightProgram d).instructions[1]? = some ⟨.command (Vocabulary.stepWord d), 2⟩ := rfl
  have hperform := Command.perform_step (f := f.strode d n) (d := d) 2
    (Field.isFree_strode.trans hfree)
  have hadvance : unlimitedAdvance { settings := s } (straightProgram d) ⟨1, loops, dispatched⟩
      (f.strode d n) =
      ⟨.ticked ⟨1, 2, .moved (f.ahead d n) (f.ahead d (n + 1)) d, f.ahead d (n + 1)⟩,
        ⟨2, loops, dispatched + 1⟩, f.strode d (n + 1)⟩ := by
    rw [unlimitedAdvance_of_getElem? hi]
    simp only [Machine.dispatch, Machine.runCommand, Vocabulary.find?_stepWord, hmotion, hperform,
      Field.position_strode, Field.neighbour_strode, Field.strode_succ]
    rfl
  rw [Underway.advanced, hadvance]
  refine ⟨rfl, rfl, Or.inl ?_, rfl, ?_⟩
  · exact hloops.resolve_right (by simp)
  · rw [Underway.ticks_after_ticked, List.reverse_cons, Field.strides_succ]
    exact congrArg (· ++ _) hticks

/-- **The end of a lap leads back to the guard.** -/
lemma Underway.Striding.back (hu : u.Striding f d 2 n) :
    (unlimitedAdvance { settings := s } (straightProgram d) u.machine u.field).progress.goesOn ∧
      (u.advanced { settings := s } (straightProgram d)).Striding f d 0 n := by
  obtain ⟨⟨pc, loops, dispatched⟩, field, ticks, sightings⟩ := u
  obtain ⟨rfl, hloops, rfl, hticks⟩ := hu
  obtain rfl : loops = [0] := hloops.resolve_right (by simp)
  exact ⟨rfl, rfl, Or.inl rfl, rfl, hticks⟩

/-- **Where the walk is after `n` dispatches**, while the way is free. -/
theorem striding_unlimited? (hmotion : s.motion = .step) (hk : f.ClearFor d k)
    (hn : n ≤ 3 * k) :
    ∃ u, ({ settings := s } : Engine).unlimited? (straightProgram d) { field := f } n = some u ∧
      u.Striding f d (n % 3) ((n + 1) / 3) := by
  induction n with
  | zero => exact ⟨_, rfl, rfl, Or.inr ⟨rfl, rfl⟩, rfl, rfl⟩
  | succ n ih =>
    obtain ⟨u, hu, hstriding⟩ := ih (by omega)
    have hnext : (unlimitedAdvance { settings := s } (straightProgram d) u.machine
        u.field).progress.goesOn ∧ (u.advanced { settings := s } (straightProgram d)).Striding f d
          ((n + 1) % 3) ((n + 1 + 1) / 3) := by
      have hplace : n % 3 = 0 ∨ n % 3 = 1 ∨ n % 3 = 2 := by omega
      rcases hplace with hplace | hplace | hplace
      · have hlap : (n + 1) % 3 = 1 ∧ (n + 1 + 1) / 3 = (n + 1) / 3 := by omega
        rw [hplace] at hstriding
        rw [hlap.1, hlap.2]
        exact hstriding.enter (hk.free (by omega))
      · have hlap : (n + 1) % 3 = 2 ∧ (n + 1 + 1) / 3 = (n + 1) / 3 + 1 := by omega
        rw [hplace] at hstriding
        rw [hlap.1, hlap.2]
        exact hstriding.stride hmotion (hk.free (by omega))
      · have hlap : (n + 1) % 3 = 0 ∧ (n + 1 + 1) / 3 = (n + 1) / 3 := by omega
        rw [hplace] at hstriding
        rw [hlap.1, hlap.2]
        exact hstriding.back
    exact ⟨_, Engine.unlimited?_succ hu hnext.1, hnext.2⟩

/-- **The walk ends at the first step that is not free**, with one more look at the guard. -/
theorem ends_straight (hmotion : s.motion = .step) (hk : f.ClearFor d k) :
    ∃ u : Underway, u.field = f.strode d k ∧ u.ticks.reverse = f.strides d k ∧
      ({ settings := s } : Engine).Ends (straightProgram d) { field := f } (3 * k + 1)
        (u.finish (straightProgram d)) := by
  obtain ⟨u, hu, hstriding⟩ := striding_unlimited? (n := 3 * k) hmotion hk (Nat.le_refl _)
  have hlap : 3 * k % 3 = 0 ∧ (3 * k + 1) / 3 = k := by omega
  rw [hlap.1, hlap.2] at hstriding
  have hadvance := unlimitedAdvance_guard (s := s) hstriding
  rw [hk.blocked] at hadvance
  have hlast := Engine.unlimited?_succ hu (by rw [hadvance]; rfl)
  rw [hadvance] at hlast
  exact ⟨u.after ⟨.silent, ⟨3, [], u.machine.dispatched + 1⟩, u.field⟩, hstriding.field,
    hstriding.ticks, .halt hlast rfl⟩

end Lap

/-- **What a walk of so many steps leaves.** -/
structure Execution.Strode (f : Field) (d : Direction) (steps : Nat) (x : Execution) : Prop where
  ticks : x.last.ticks.reverse = f.strides d steps
  position : x.field.robot.position = f.ahead d steps
  direction : x.field.robot.direction = if 0 < steps then d else f.robot.direction
  size : x.field.size = f.size
  walls : x.field.walls = f.walls
  painted : x.field.painted = f.painted

lemma Execution.Strode.of_field {f : Field} {d : Direction} {steps : Nat} {x : Execution}
    (hfield : x.field = f.strode d steps) (hticks : x.last.ticks.reverse = f.strides d steps) :
    x.Strode f d steps := by
  refine ⟨hticks, ?_, ?_, ?_, ?_, ?_⟩ <;> rw [hfield]
  · exact Field.position_strode
  · exact Field.direction_strode
  · exact Field.size_strode
  · exact Field.walls_strode
  · exact Field.painted_strode

/-- **The walk to the wall.** The robot can make some number `k` of steps in a direction, less than
the size of the field. With a limit of at least `3 * k + 1` the script `straight` succeeds with that
many dispatches and `k` ticks, each a step in the direction. The robot stands `k` steps from where it
was, in front of a wall, looks where it went if it went at all, and nothing else has changed. With a
smaller limit the script fails for it, and one step is made for every three dispatches, the last lap
counting if it got as far as the step. -/
theorem straight_to_wall (s : Settings) (f : Field) (d : Direction) (hmotion : s.motion = .step)
    (hf : f.inBounds f.robot.position) :
    ∃ k, f.ClearFor d k ∧ (∀ other, f.ClearFor d other → other = k) ∧ (k : Int) < f.size ∧
      (3 * k + 1 ≤ s.maxSteps → ∃ r : Report,
        (({ settings := s } : Engine).run (straight d) f).result = .ok r ∧
        r.dispatched = 3 * k + 1 ∧ r.ticks = f.strides d k ∧ r.ticks.length = k ∧
        (∀ t ∈ r.ticks, ∃ start goal, t.event = .moved start goal d) ∧
        (({ settings := s } : Engine).run (straight d) f).Strode f d k ∧
        Condition.evaluate (Condition.written ⟨d, .wall⟩)
          (({ settings := s } : Engine).run (straight d) f).field = .ok true) ∧
      (s.maxSteps < 3 * k + 1 →
        (({ settings := s } : Engine).run (straight d) f).result =
          .error (.stepLimitExceeded s.maxSteps) ∧
        (({ settings := s } : Engine).run (straight d) f).last.ticks.length =
          (s.maxSteps + 1) / 3 ∧
        (({ settings := s } : Engine).run (straight d) f).Strode f d ((s.maxSteps + 1) / 3)) := by
  obtain ⟨k, hk, hsize⟩ := Field.exists_clearFor hf d
  have hread : ({ settings := s } : Engine).run (straight d) f =
      ({ settings := s } : Engine).execute (straightProgram d) f := by
    rw [Engine.run, Engine.read, ofSource_straight]
  refine ⟨k, hk, fun other => hk.unique, hsize, fun hlimit => ?_, fun hlimit => ?_⟩
  · obtain ⟨u, hfield, hticks, hends⟩ := ends_straight hmotion hk
    have hexecute := Engine.execute_of_ends hends hlimit
    rw [hread, hexecute]
    refine ⟨_, rfl, ?_, hticks, ?_, ?_, .of_field hfield hticks, ?_⟩
    · simpa using hends.report rfl
    · rw [hticks, Field.length_strides]
    · intro t ht
      rw [hticks] at ht
      obtain ⟨j, -, rfl⟩ := List.mem_map.1 ht
      exact ⟨_, _, rfl⟩
    · rw [Condition.evaluate_of_read (Condition.read_written _)]
      have hblocked : u.field.isFree (u.field.robot.neighbour d) u.field.robot.position = false := by
        rw [hfield, Field.isFree_strode, hk.blocked]
      exact congrArg Except.ok (congrArg Bool.not hblocked)
  · obtain ⟨u, hu, hstriding⟩ := striding_unlimited? (n := s.maxSteps) hmotion hk (by omega)
    have hend : ¬u.machine.isHalted (straightProgram d) := by
      have hlt : u.machine.pc < 3 := by
        rw [hstriding.pc]
        omega
      simpa [Machine.isHalted, straightProgram] using hlt
    rw [hread, Engine.execute_of_limit hu hend]
    refine ⟨rfl, ?_, .of_field hstriding.field hstriding.ticks⟩
    rw [← List.length_reverse]
    exact (congrArg List.length hstriding.ticks).trans Field.length_strides

/-- On a field of ten cells with a wall in the way the robot can make six steps to the south. -/
theorem straight_to_wall_of_fence :
    let f : Field := ⟨10, ⟨⟨4, 1⟩, .north⟩, .ofList [(⟨4, 8, .horizontal⟩ : Wall)], ∅⟩
    let s : Settings := { maxSteps := 19 }
    s.motion = .step ∧ f.inBounds f.robot.position ∧ f.ClearFor .south 6 ∧
      (∃ r : Report, (({ settings := s } : Engine).run (straight .south) f).result = .ok r ∧
        r.dispatched = 19 ∧ r.ticks.length = 6) ∧
      (({ settings := s } : Engine).run (straight .south) f).Strode f .south 6 ∧
      (({ settings := { s with maxSteps := 17 } } : Engine).run (straight .south) f).result =
        .error (.stepLimitExceeded 17) ∧
      (({ settings := { s with maxSteps := 17 } } : Engine).run (straight .south) f).Strode f
        .south 6 := by
  intro f s
  have hclear : f.ClearFor .south 6 := by
    have hfree : ∀ n < 6, f.isFree (f.ahead .south (n + 1)) (f.ahead .south n) := by
      decide +kernel
    exact ⟨fun {n} => hfree n, by decide +kernel⟩
  have hf : f.inBounds f.robot.position := by decide
  obtain ⟨k, -, hunique, -, hok, -⟩ := straight_to_wall s f .south rfl hf
  obtain rfl := hunique 6 hclear
  obtain ⟨k, -, hunique, -, -, hlimit⟩ :=
    straight_to_wall { s with maxSteps := 17 } f .south rfl hf
  obtain rfl := hunique 6 hclear
  obtain ⟨r, hr, hdispatched, -, hlength, -, hstrode, -⟩ := hok (by decide)
  obtain ⟨hfails, -, hstrode'⟩ := hlimit (by decide)
  have hsteps : (17 + 1) / 3 = 6 := rfl
  exact ⟨rfl, hf, hclear, ⟨r, hr, hdispatched, hlength⟩, hstrode, hfails, hsteps ▸ hstrode'⟩

end RobotScript
