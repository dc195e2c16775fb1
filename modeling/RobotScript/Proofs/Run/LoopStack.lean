import RobotScript.Proofs.Run.Retry
import RobotScript.Proofs.Script.BlockCheck

/-!
The list of loops of a machine, for programs whose blocks may overlap in any way.

Jumps past a conditional can leave a loop without taking it off the list, and can enter the body of
one that is not on it, so the list need not be the loops around the instruction. It still is in
order: `Machine.Stacked` says that it holds starts of loops, that an inner one stands behind an
outer one and that none stands behind the machine. Jumps keep this (`Machine.Stacked.jump`) and so does a
dispatch that fails (`Machine.Stacked.giveUp`), and a dispatch does nothing else to a machine
(`Machine.step_machine_cases`), whatever the field is; `loops_in_order` is the statement for all
machines that dispatches can lead to.
-/

namespace RobotScript

namespace Machine

/-- **The machines that dispatches lead to.** A dispatch may follow one that failed or found the
program at its end, and others may change the field between two of them, so the field of each is
arbitrary. -/
inductive Reached (e : Engine) (p : Program) : Machine → Prop
  | start : Reached e p {}
  | step {m : Machine} (before : Reached e p m) (f : Field) : Reached e p (m.step e p f).machine

/-- **The loops of a machine are in order.** -/
structure Stacked (code : List Instruction) (m : Machine) : Prop where
  inside : m.pc ≤ code.length
  starts {start : Nat} : start ∈ m.loops →
    ∃ guard line, code[start]? = some ⟨.loopStart guard, line⟩
  /-- The innermost loop stands behind all others, and so on. -/
  ordered : m.loops.Pairwise (· > ·)
  top {start : Nat} : m.loops.head? = some start → start ≤ m.pc

section Step

variable {e : Engine} {p : Program} {code : List Instruction} {m m' : Machine}

/-- **What a dispatch does to a machine**: nothing, a jump, or it gives up where it is. -/
theorem step_machine_cases (e : Engine) (p : Program) (m : Machine) (f : Field) :
    (m.step e p f).machine = m ∨ m.counted.Jump p.instructions (m.step e p f).machine ∨
      ∃ failure, (m.step e p f).machine = m.counted.giveUp failure := by
  rcases hresult : (m.step e p f).result with failure | d
  · rcases step_error_cases hresult with ⟨-, hstep⟩ | ⟨hlt, hfault⟩
    · exact Or.inl (by rw [hstep])
    · exact Or.inr (Or.inr ⟨failure, by rw [step_of_fault hfault hlt]⟩)
  · rcases hi : p.instructions[m.pc]? with _ | i
    · exact Or.inl (by rw [step_of_isHalted (isHalted_of_getElem? hi)])
    rcases Nat.lt_or_ge m.dispatched e.settings.maxSteps with hlt | hge
    · rw [step_of_lt hi hlt] at hresult ⊢
      exact Or.inr (Or.inl (jump_dispatch (m := m.counted) hi hresult).2)
    · exact Or.inl (by rw [step_of_limit hi hge])

/-- **What holds at the start and is kept by jumps and by giving up holds of all machines that
dispatches lead to.** -/
theorem Reached.induction {motive : Machine → Prop} (h : m.Reached e p) (start : motive {})
    (counted : ∀ m, motive m → motive m.counted)
    (jump : ∀ m m', motive m → m.Jump p.instructions m' → motive m')
    (giveUp : ∀ m failure, motive m → motive (m.giveUp failure)) : motive m := by
  induction h with
  | start => exact start
  | @step m before f ih =>
    rcases step_machine_cases e p m f with h | h | ⟨failure, h⟩
    · rw [h]
      exact ih
    · exact jump _ _ (counted m ih) h
    · rw [h]
      exact giveUp _ failure (counted m ih)

namespace Stacked

lemma counted (h : m.Stacked code) : m.counted.Stacked code :=
  ⟨h.inside, h.starts, h.ordered, h.top⟩

/-- All loops stand before the machine, unless it is at the start of the innermost one. -/
lemma lt_of_mem (h : m.Stacked code) (hne : m.loops.head? ≠ some m.pc) {start : Nat}
    (hmem : start ∈ m.loops) : start < m.pc := by
  rcases hloops : m.loops with _ | ⟨top, outer⟩
  · rw [hloops] at hmem
    cases hmem
  · rw [hloops] at hmem hne
    have hle : top ≤ m.pc := h.top (by rw [hloops]; rfl)
    have htop : top ≠ m.pc := fun heq => hne (by rw [heq]; rfl)
    have hordered := h.ordered
    rw [hloops, List.pairwise_cons] at hordered
    rcases List.mem_cons.1 hmem with rfl | hmem
    · omega
    · have := hordered.1 start hmem
      omega

/-- The machine may go on to any later place. -/
lemma forward (h : m.Stacked code) {pc : Nat} (hpc : m.pc ≤ pc) (hin : pc ≤ code.length) :
    Stacked code { m with pc := pc } :=
  ⟨hin, h.starts, h.ordered, fun htop => Nat.le_trans (h.top htop) hpc⟩

lemma enterLoop (h : m.Stacked code)
    (hi : ∃ guard line, code[m.pc]? = some ⟨.loopStart guard, line⟩) :
    Stacked code { m with loops := enterLoop m.loops m.pc } := by
  unfold Machine.enterLoop
  split
  · exact h
  · next hne =>
    refine ⟨h.inside, fun hmem => ?_, ?_, fun htop => ?_⟩
    · rcases List.mem_cons.1 hmem with rfl | hmem
      · exact hi
      · exact h.starts hmem
    · exact List.pairwise_cons.2 ⟨fun start hmem => h.lt_of_mem hne hmem, h.ordered⟩
    · cases htop
      exact Nat.le_refl _

lemma leaveLoop (h : m.Stacked code) : Stacked code { m with loops := leaveLoop m.loops m.pc } := by
  unfold Machine.leaveLoop
  split
  · next htop =>
    obtain ⟨outer, hloops⟩ := List.head?_eq_some_iff.1 htop
    have hordered := h.ordered
    rw [hloops, List.pairwise_cons] at hordered
    refine ⟨h.inside, fun hmem => h.starts (List.mem_of_mem_tail hmem), ?_, fun hhead => ?_⟩
    · rw [hloops]
      exact hordered.2
    · rw [hloops] at hhead
      exact Nat.le_of_lt (hordered.1 _ (List.mem_of_mem_head? hhead))
  · exact h

/-- **A jump keeps the loops in order.** Only the end of a loop leads back, and onto the innermost
loop itself. -/
theorem jump (h : m.Stacked code) (hjump : m.Jump code m') : m'.Stacked code := by
  cases hjump with
  | next at_pc =>
    have := (List.getElem?_eq_some_iff.1 at_pc).1
    exact h.forward (Nat.le_succ _) this
  | enter at_pc =>
    have := (List.getElem?_eq_some_iff.1 at_pc).1
    exact (h.enterLoop ⟨_, _, at_pc⟩).forward (Nat.le_succ _) this
  | skipLoop at_pc found =>
    obtain ⟨hlt, hle⟩ := loopExit_bounds found
    exact h.leaveLoop.forward (by dsimp only; omega) hle
  | @back line start rest at_pc innermost =>
    have hmem : start ∈ m.loops := by
      rw [innermost]
      exact List.mem_cons_self
    obtain ⟨guard, line, hstart⟩ := h.starts hmem
    have := (List.getElem?_eq_some_iff.1 hstart).1
    refine ⟨Nat.le_of_lt this, h.starts, h.ordered, fun htop => ?_⟩
    dsimp only at htop ⊢
    rw [innermost] at htop
    cases htop
    exact Nat.le_refl _
  | skipIf at_pc found =>
    obtain ⟨hlt, hle⟩ := ifExit_bounds found
    exact h.forward (by omega) hle

lemma giveUp (h : m.Stacked code) (failure : Failure) : (m.giveUp failure).Stacked code := by
  cases failure with
  | unterminatedLoop => exact h.leaveLoop
  | unterminatedConditional | blockedMove | unknownCommand | invalidCondition | unmatchedLoopEnd
  | stepLimitExceeded | alreadyRunning => exact h

end Stacked

theorem Reached.stacked (h : m.Reached e p) : m.Stacked p.instructions :=
  h.induction ⟨Nat.zero_le _, nofun, .nil, nofun⟩ (fun _ => Stacked.counted)
    (fun _ _ => Stacked.jump) (fun _ failure hm => hm.giveUp failure)

end Step

/-! ### How many loops there can be -/

/-- Starts of loops in order are not more than there are before the place they all stand before. -/
lemma length_le_loopStarts_take {code : List Instruction} {loops : List Nat} {n : Nat}
    (starts : ∀ start ∈ loops, ∃ guard line, code[start]? = some ⟨.loopStart guard, line⟩)
    (ordered : loops.Pairwise (· > ·)) (before : ∀ start ∈ loops, start < n) :
    loops.length ≤ Blocks.loopStarts (code.take n) := by
  induction loops generalizing n with
  | nil => exact Nat.zero_le _
  | cons top outer ih =>
    obtain ⟨guard, line, htop⟩ := starts top List.mem_cons_self
    obtain ⟨hbehind, hordered⟩ := List.pairwise_cons.1 ordered
    have houter : outer.length ≤ Blocks.loopStarts (code.take top) :=
      ih (fun start hmem => starts start (List.mem_cons_of_mem _ hmem)) hordered hbehind
    have htake : code.take (top + 1) = code.take top ++ [⟨.loopStart guard, line⟩] := by
      rw [List.take_add_one, htop, Option.toList_some]
    have hone : Blocks.loopStarts [⟨.loopStart guard, line⟩] = 1 := rfl
    have hlt : top + 1 ≤ n := before top List.mem_cons_self
    have hle : Blocks.loopStarts (code.take (top + 1)) ≤ Blocks.loopStarts (code.take n) :=
      (List.take_prefix_take_left hlt).sublist.countP_le
    rw [htake, Blocks.loopStarts_append, hone] at hle
    rw [List.length_cons]
    omega

/-- **There are no more loops on the list than in the code.** -/
lemma Stacked.length_loops_le {code : List Instruction} {m : Machine} (h : m.Stacked code) :
    m.loops.length ≤ Blocks.loopStarts code := by
  have hle := length_le_loopStarts_take (n := code.length) (fun _ => h.starts) h.ordered
    fun start hmem => by
      obtain ⟨guard, line, hi⟩ := h.starts hmem
      exact (List.getElem?_eq_some_iff.1 hi).1
  rwa [List.take_length] at hle

/-- The end of a loop leads back to the innermost loop, if the machine is in one. -/
lemma step_of_loopEnd {e : Engine} {p : Program} {m : Machine} {f : Field} {line : Nat}
    (hi : p.instructions[m.pc]? = some ⟨.loopEnd, line⟩)
    (hlt : m.dispatched < e.settings.maxSteps) :
    m.step e p f =
      match m.loops with
      | [] => ⟨.error (.unmatchedLoopEnd line), m.counted, f⟩
      | start :: _ => ⟨.ok .silent, { m.counted with pc := start }, f⟩ := by
  rw [step_of_lt hi hlt]
  rfl

end Machine

/-- **The loops of a machine stay in order**, however badly the blocks of its program overlap. Of
every machine that dispatches lead to, also after failures and with the field changed between them:
its index is inside the program or at the end, its list of loops holds starts of loops, strictly
increasing from the outermost to the innermost, and the innermost is not behind the machine. So the
list is never longer than the program has loops, and the end of a loop, if the machine is in one,
leads strictly back to the start of the innermost. -/
theorem loops_in_order {e : Engine} {p : Program} {m : Machine} (h : m.Reached e p) :
    m.pc ≤ p.instructions.length ∧
    (∀ start ∈ m.loops, ∃ guard line, p.instructions[start]? = some ⟨.loopStart guard, line⟩) ∧
    m.loops.reverse.Pairwise (· < ·) ∧
    (∀ start, m.loops.head? = some start → start ≤ m.pc) ∧
    m.loops.length ≤ Blocks.loopStarts p.instructions ∧
    ∀ f line, p.instructions[m.pc]? = some ⟨.loopEnd, line⟩ →
      m.dispatched < e.settings.maxSteps →
        (m.loops = [] ∧ (m.step e p f).result = .error (.unmatchedLoopEnd line)) ∨
        ∃ start, m.loops.head? = some start ∧ start < m.pc ∧
          (∃ guard line, p.instructions[start]? = some ⟨.loopStart guard, line⟩) ∧
          m.step e p f = ⟨.ok .silent, { m.counted with pc := start }, f⟩ := by
  have hm := h.stacked
  refine ⟨hm.inside, fun start => hm.starts, List.pairwise_reverse.2 hm.ordered,
    fun start => hm.top, hm.length_loops_le, fun f line hi hlt => ?_⟩
  have hstep := Machine.step_of_loopEnd (f := f) hi hlt
  rcases hloops : m.loops with _ | ⟨start, outer⟩
  · rw [hloops] at hstep
    exact Or.inl ⟨rfl, by rw [hstep]⟩
  · rw [hloops] at hstep
    have hmem : start ∈ m.loops := by simp [hloops]
    -- the machine is at the end of a loop and hence not at the start of one
    have hne : m.loops.head? ≠ some m.pc := by
      intro htop
      obtain ⟨guard, line, hstart⟩ := hm.starts (List.mem_of_mem_head? htop)
      rw [hi] at hstart
      cases hstart
    exact Or.inr ⟨start, rfl, hm.lt_of_mem hne hmem, hm.starts hmem, hstep⟩

/-- A conditional that cuts through a loop leaves it on the list, where the next loop comes on top
of it and is gone back to. -/
theorem loops_in_order_of_overlap :
    let e : Engine := {}
    let p : Program := ⟨[⟨.loopStart "", 1⟩, ⟨.ifStart "сверху свободно", 2⟩, ⟨.loopEnd, 3⟩,
      ⟨.ifEnd, 4⟩, ⟨.loopStart "", 5⟩, ⟨.loopEnd, 6⟩], []⟩
    let m : Machine := ⟨5, [4, 0], 3⟩
    m.Reached e p ∧ m.loops.reverse.Pairwise (· < ·) ∧
      m.loops.length ≤ Blocks.loopStarts p.instructions ∧
      ∃ start, m.loops.head? = some start ∧ start < m.pc ∧
        (∃ guard line, p.instructions[start]? = some ⟨.loopStart guard, line⟩) ∧
        m.step e p default = ⟨.ok .silent, { m.counted with pc := start }, default⟩ := by
  intro e p m
  let f : Field := default
  have hm : m.Reached e p := by
    have hsteps : (((({} : Machine).step e p f).machine.step e p f).machine.step e p f).machine =
        m := by decide +kernel
    exact hsteps ▸ .step (.step (.step .start f) f) f
  obtain ⟨-, -, hordered, -, hlength, hback⟩ := loops_in_order hm
  rcases hback default 6 rfl (by decide) with ⟨hnone, -⟩ | hjump
  · cases hnone
  · exact ⟨hm, hordered, hlength, hjump⟩

end RobotScript
