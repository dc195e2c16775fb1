import RobotScript.Proofs.Run.LoopStack
import RobotScript.Proofs.Run.Replay
import RobotScript.Proofs.Script.Matching
import RobotScript.Proofs.Text.Plain

/-!
Guarded moves are never refused.

`Program.Guarded` asks that every movement command stands right behind a loop or a conditional that
asks whether its way is free. It says nothing about the ends of the blocks, which may be missing or
overlap. There is no way onto a command that stands behind the start of a block but through that
start: the ends of blocks are left behind a `кц` or a `все`, and a `кц` leads back to the start of a
loop (`Machine.pc_of_jump_behind`). So a machine that is at a movement command has just found its way
free (`cleared_advance`), whatever it did before; the main statement is `guarded_never_blocked`.
-/

namespace RobotScript

/-! ### Texts that are conditions -/

section Checks

variable {text : String} {c : Condition}

lemma Condition.evaluate_of_read (h : read text = .ok c) (f : Field) :
    evaluate text f = .ok (c.holds f) := by
  rw [evaluate, h]

lemma checkCondition_of_read (h : Condition.read text = .ok c) (f : Field) (line : Nat) :
    checkCondition text f line = .ok (c.holds f) := by
  rw [checkCondition, Condition.evaluate_of_read h]

/-- A text that is a condition is not empty, so it is looked at. -/
lemma checkGuard_of_read (h : Condition.read text = .ok c) (f : Field) (line : Nat) :
    checkGuard text f line = .ok (c.holds f) := by
  have hne : text ≠ "" := by
    rintro rfl
    cases h
  rw [checkGuard, if_neg hne, checkCondition_of_read h]

end Checks

/-! ### Guards -/

/-- **The operation lets a run pass where the robot can step in a direction**: it starts a loop or a
conditional that asks for this side to be free. -/
def Op.GuardsWay (d : Direction) : Op → Prop
  | loopStart text => Condition.read text = .ok ⟨d, .free⟩
  | ifStart text => Condition.read text = .ok ⟨d, .free⟩
  | _ => False

instance (d : Direction) : DecidablePred (Op.GuardsWay d)
  | .loopStart _ => inferInstanceAs (Decidable (_ = _))
  | .ifStart _ => inferInstanceAs (Decidable (_ = _))
  | .command _ => inferInstanceAs (Decidable False)
  | .loopEnd => inferInstanceAs (Decidable False)
  | .ifEnd => inferInstanceAs (Decidable False)

/-- **Every movement command stands right behind a guard of its way.** -/
def Program.Guarded (v : Vocabulary) (p : Program) : Prop :=
  ∀ index keyword line d, p.instructions[index]? = some ⟨.command keyword, line⟩ →
    v.find? keyword = some (.move d) →
    ∃ before i, index = before + 1 ∧ p.instructions[before]? = some i ∧ i.op.GuardsWay d

/-- **The way is free for the movement command that the machine is at**, if it is at one. -/
def Machine.Cleared (e : Engine) (p : Program) (m : Machine) (f : Field) : Prop :=
  ∀ keyword line d, p.instructions[m.pc]? = some ⟨.command keyword, line⟩ →
    e.vocabulary.find? keyword = some (.move d) →
    f.isFree (f.robot.neighbour d) f.robot.position

section Guard

variable {e : Engine} {code : List Instruction} {m : Machine} {f : Field} {d : Direction}
  {x : Dispatch} {line : Nat} {text : String}

lemma isFree_of_runLoopStart (hread : Condition.read text = .ok ⟨d, .free⟩)
    (hresult : (Machine.runLoopStart code text line m f).result = .ok x)
    (hpc : (Machine.runLoopStart code text line m f).machine.pc = m.pc + 1) :
    f.isFree (f.robot.neighbour d) f.robot.position := by
  have hguard : checkGuard text f line = .ok (f.isFree (f.robot.neighbour d) f.robot.position) :=
    checkGuard_of_read hread f line
  unfold Machine.runLoopStart at hresult hpc
  rcases hfree : f.isFree (f.robot.neighbour d) f.robot.position with _ | _
  · -- a loop that is left is left for a place further on
    rw [hfree] at hguard
    rcases hexit : loopExit code m.pc with failure | exit
    · simp only [hguard, hexit] at hresult
      cases hresult
    · have hbounds := loopExit_bounds hexit
      simp only [hguard, hexit] at hpc
      omega
  · rfl

lemma isFree_of_runIfStart (hread : Condition.read text = .ok ⟨d, .free⟩)
    (hresult : (Machine.runIfStart code text line m f).result = .ok x)
    (hpc : (Machine.runIfStart code text line m f).machine.pc = m.pc + 1) :
    f.isFree (f.robot.neighbour d) f.robot.position := by
  have hcondition : checkCondition text f line =
      .ok (f.isFree (f.robot.neighbour d) f.robot.position) := checkCondition_of_read hread f line
  unfold Machine.runIfStart at hresult hpc
  rcases hfree : f.isFree (f.robot.neighbour d) f.robot.position with _ | _
  · rw [hfree] at hcondition
    rcases hexit : ifExit code m.pc with failure | exit
    · simp only [hcondition, hexit] at hresult
      cases hresult
    · have hbounds := ifExit_bounds hexit
      simp only [hcondition, hexit] at hpc
      omega
  · rfl

/-- **A guard that is passed has found the way free, and leaves the field as it is.** -/
theorem isFree_of_guard {i : Instruction} (hguard : i.op.GuardsWay d)
    (hresult : (Machine.dispatch e code i m f).result = .ok x)
    (hpc : (Machine.dispatch e code i m f).machine.pc = m.pc + 1) :
    (Machine.dispatch e code i m f).field = f ∧
      f.isFree (f.robot.neighbour d) f.robot.position := by
  obtain ⟨op, line⟩ := i
  refine ⟨(quiet_dispatch ?_).1, ?_⟩
  · rintro keyword rfl
    exact hguard
  · cases op with
    | loopStart text => exact isFree_of_runLoopStart hguard hresult hpc
    | ifStart text => exact isFree_of_runIfStart hguard hresult hpc
    | command _ | loopEnd | ifEnd => exact hguard.elim

lemma getElem?_of_ifExit {start exit : Nat} (h : ifExit code start = .ok exit) :
    ∃ line, code[exit - 1]? = some ⟨.ifEnd, line⟩ := by
  unfold ifExit at h
  split at h
  · next n hn =>
    cases h
    obtain ⟨k, rfl⟩ := Nat.exists_eq_add_one.2 (Blocks.ifSpan?_bounds hn).1
    have hend := Blocks.getElem?_of_ifSpan? hn
    rwa [List.getElem?_drop] at hend
  · cases h

/-- **The only way to the place behind a guard is through the guard**, unless it is the start of a
loop. -/
theorem Machine.pc_of_jump_behind {m' : Machine} (hm : m.Stacked code) (h : m.Jump code m')
    {before : Nat} {i j : Instruction} (hpc : m'.pc = before + 1) (hi : code[before]? = some i)
    (hguard : i.op.GuardsWay d) (hj : code[before + 1]? = some j)
    (hnot : ∀ guard, j.op ≠ .loopStart guard) : m.pc = before := by
  cases h with
  | next | enter => exact Nat.succ.inj hpc
  | @skipLoop guard line exit at_pc found =>
    -- what stands at the exit of a block stands behind its end, which is no guard
    obtain ⟨line, hend⟩ := Blocks.getElem?_of_loopExit found
    obtain rfl : exit = before + 1 := hpc
    rw [Nat.add_sub_cancel, hi] at hend
    cases hend
    exact hguard.elim
  | @back line start rest at_pc innermost =>
    have hmem : start ∈ m.loops := by simp [innermost]
    obtain ⟨guard, line, hstart⟩ := hm.starts hmem
    obtain rfl : start = before + 1 := hpc
    rw [hj] at hstart
    cases hstart
    exact absurd rfl (hnot guard)
  | @skipIf condition line exit at_pc found =>
    obtain ⟨line, hend⟩ := getElem?_of_ifExit found
    obtain rfl : exit = before + 1 := hpc
    rw [Nat.add_sub_cancel, hi] at hend
    cases hend
    exact hguard.elim

end Guard

/-! ### Runs of guarded programs -/

section Runs

variable {e : Engine} {p : Program} {m : Machine} {f : Field}

/-- **After every dispatch of a guarded program the way ahead is free.** -/
theorem cleared_advance (h : p.Guarded e.vocabulary) (hm : m.Stacked p.instructions)
    (ha : (advance e p m f).progress.goesOn) :
    (advance e p m f).machine.Cleared e p (advance e p m f).field := by
  intro keyword line d hi hword
  obtain ⟨before, i, hpc, hbefore, hguard⟩ := h _ keyword line d hi hword
  have hlt := (dispatched_of_goesOn ha).1
  rw [Engine.advance_of_lt hlt] at ha hi hpc ⊢
  have hplace : m.counted.pc = before :=
    Machine.pc_of_jump_behind hm.counted (jump_of_goesOn ha) hpc hbefore hguard (hpc ▸ hi) (by simp)
  have hat : p.instructions[m.pc]? = some i := hplace ▸ hbefore
  rw [unlimitedAdvance_of_getElem? hat] at ha hpc ⊢
  obtain ⟨x, hx⟩ := result_of_goesOn ha
  obtain ⟨hfield, hfree⟩ := isFree_of_guard hguard hx (hpc.trans (by rw [hplace]))
  show (Machine.dispatch e p.instructions i m.counted f).field.isFree _ _
  rw [Dispatched.advance, hfield]
  exact hfree

namespace Engine

variable {n : Nat} {u : Underway}

lemma reached_of_underway? (h : e.underway? p f n = some u) : u.machine.Reached e p := by
  induction n generalizing u with
  | zero =>
    cases h
    exact .start
  | succ n ih =>
    obtain ⟨v, hv, -, rfl⟩ := underway?_succ_eq_some h
    exact (ih hv).step v.field

lemma cleared_of_underway? (hp : p.Guarded e.vocabulary) (h : e.underway? p f n = some u) :
    u.machine.Cleared e p u.field := by
  cases n with
  | zero =>
    cases h
    intro keyword line d hi hword
    obtain ⟨before, -, hpc, -⟩ := hp _ keyword line d hi hword
    cases hpc
  | succ n =>
    obtain ⟨v, hv, ha, rfl⟩ := underway?_succ_eq_some h
    exact cleared_advance hp (reached_of_underway? hv).stacked ha

end Engine

end Runs

/-- **Guarded moves are never refused.** Let every movement command of a program, as the vocabulary
of the engine has them, stand right behind a loop or a conditional that asks for its side to be free
(`Condition.read_written` says that the text of this condition is read so). However the blocks of the
program overlap, and even if they have no ends, no execution of it ends with a blocked move and none
ever shows a wall that was hit. -/
theorem guarded_never_blocked (e : Engine) (p : Program) (f : Field)
    (h : p.Guarded e.vocabulary) :
    (∀ start goal line, (e.execute p f).result ≠ .error (.blockedMove start goal line)) ∧
    ∀ s ∈ (e.execute p f).sightings, ∀ start goal, s.event ≠ .wallHit start goal := by
  have hresult : ∀ start goal line,
      (e.execute p f).result ≠ .error (.blockedMove start goal line) := by
    intro start goal line hblocked
    rcases fault_execute hblocked with hlimit | ⟨n, u, hu, hfault⟩
    · cases hlimit
    · cases hfault with
      | wall at_pc word motion blocked =>
        have hfree := Engine.cleared_of_underway? h hu _ _ _ at_pc word
        rw [blocked] at hfree
        cases hfree
  refine ⟨hresult, fun s hs start goal hevent => ?_⟩
  -- what an execution shows are its ticks and the blocked move that ends it
  have hmem : s.event ∈ (e.execute p f).sightings.map Sighting.event :=
    List.mem_map_of_mem hs
  rw [Engine.events_execute, List.mem_append, hevent] at hmem
  rcases hmem with hticks | hrefusal
  · obtain ⟨t, ht, htick⟩ := List.mem_map.1 hticks
    rw [List.mem_reverse, Engine.last_execute] at ht
    exact Engine.event_ne_wallHit _ t ht start goal htick
  · unfold Execution.refusal at hrefusal
    split at hrefusal
    · next hblocked => exact hresult _ _ _ hblocked
    · cases hrefusal

/-- A loop and a conditional that overlap, without a `все`: the robot goes down a stair to the corner
of the field. -/
theorem guarded_never_blocked_of_stair :
    let e : Engine := {}
    let p : Program := ⟨[⟨.loopStart "справа свободно", 1⟩, ⟨.command "вправо", 2⟩,
      ⟨.ifStart "СНИЗУ  свободно", 3⟩, ⟨.command "вниз", 4⟩, ⟨.loopEnd, 5⟩], []⟩
    let f : Field := ⟨10, ⟨⟨8, 8⟩, .north⟩, ∅, ∅⟩
    p.Guarded e.vocabulary ∧
      (e.execute p f).field.robot.position = ⟨9, 9⟩ ∧
      (∀ start goal line, (e.execute p f).result ≠ .error (.blockedMove start goal line)) ∧
      ∀ s ∈ (e.execute p f).sightings, ∀ start goal, s.event ≠ .wallHit start goal := by
  intro e p f
  have hguarded : p.Guarded e.vocabulary := by
    have heast : e.vocabulary.find? "вправо" = some (.move .east) :=
      Vocabulary.find?_stepWord .east
    have hsouth : e.vocabulary.find? "вниз" = some (.move .south) :=
      Vocabulary.find?_stepWord .south
    intro index keyword line d hi hword
    rcases index with _ | _ | _ | _ | _ | index
    · cases hi
    · cases hi
      rw [heast] at hword
      cases hword
      exact ⟨0, _, rfl, rfl, Condition.read_written ⟨.east, .free⟩⟩
    · cases hi
    · cases hi
      rw [hsouth] at hword
      cases hword
      exact ⟨2, _, rfl, rfl, by decide +kernel⟩
    · cases hi
    · cases hi
  exact ⟨hguarded, by decide +kernel, guarded_never_blocked e p f hguarded⟩

end RobotScript
