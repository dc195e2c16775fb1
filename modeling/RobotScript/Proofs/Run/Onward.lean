import RobotScript.Proofs.Run.LoopStack

/-!
A run goes onward through its program, and only the end of a loop leads it back.

Both searches for the exit of a block end behind its start, so every jump but that of a loop end
goes to a later place (`Machine.Jump.lt_pc`); the end of a loop goes to the innermost loop of the
list, which stands before it because the list is in order (`Machine.Jump.pc_lt`). A dispatch that
fails stays where it is. So between two ends of loops there are no more dispatches than
instructions, and `Machine.length_made_add_pc_le` counts them over any number of dispatches. The
main statement is `only_loopEnd_leads_back`.
-/

namespace RobotScript

namespace Machine

/-! ### Where a jump leads -/

section Jump

variable {code : List Instruction} {m m' : Machine} {i : Instruction} {line : Nat}

/-- **Any instruction but the end of a loop leads onward**, at most to the end of the program. -/
theorem Jump.lt_pc (h : m.Jump code m') (hi : code[m.pc]? = some i) (hop : i.op ≠ .loopEnd) :
    m.pc < m'.pc ∧ m'.pc ≤ code.length := by
  have hin : m.pc < code.length := (List.getElem?_eq_some_iff.1 hi).1
  cases h with
  | next | enter => exact ⟨Nat.lt_succ_self _, hin⟩
  | skipLoop _ found =>
    obtain ⟨hlt, hle⟩ := loopExit_bounds found
    exact ⟨Nat.lt_of_succ_lt hlt, hle⟩
  | back at_pc =>
    rw [at_pc] at hi
    cases hi
    exact absurd rfl hop
  | skipIf _ found =>
    obtain ⟨hlt, hle⟩ := ifExit_bounds found
    exact ⟨Nat.lt_of_succ_lt hlt, hle⟩

/-- A machine at the end of a loop is not at the start of one. -/
lemma Stacked.head?_ne_of_loopEnd (hm : m.Stacked code)
    (hi : code[m.pc]? = some ⟨.loopEnd, line⟩) : m.loops.head? ≠ some m.pc := by
  intro htop
  obtain ⟨guard, line, hstart⟩ := hm.starts (List.mem_of_mem_head? htop)
  rw [hi] at hstart
  cases hstart

/-- **The end of a loop leads back.** -/
theorem Jump.pc_lt (h : m.Jump code m') (hm : m.Stacked code)
    (hi : code[m.pc]? = some ⟨.loopEnd, line⟩) : m'.pc < m.pc := by
  cases h with
  | next at_pc _ not_end =>
    rw [at_pc] at hi
    cases hi
    exact absurd rfl not_end
  | enter at_pc | skipLoop at_pc | skipIf at_pc =>
    rw [at_pc] at hi
    cases hi
  | @back _ start outer _ innermost =>
    have hmem : start ∈ m.loops := by simp [innermost]
    exact hm.lt_of_mem (hm.head?_ne_of_loopEnd hi) hmem

end Jump

/-! ### One dispatch -/

/-- The operation that a dispatch carries out with success. -/
def made? (e : Engine) (p : Program) (m : Machine) (f : Field) : Option Op :=
  match (m.step e p f).result with
  | .ok _ => p.instructions[m.pc]?.map (·.op)
  | .error _ => none

section Step

variable {e : Engine} {p : Program} {m : Machine} {f : Field} {i : Instruction} {d : Dispatch}
  {op : Op}

/-- An instruction that is dispatched with success jumps. -/
lemma jump_step (hi : p.instructions[m.pc]? = some i) (hd : (m.step e p f).result = .ok d) :
    m.counted.Jump p.instructions (m.step e p f).machine := by
  rcases Nat.lt_or_ge m.dispatched e.settings.maxSteps with hlt | hge
  · rw [step_of_lt hi hlt] at hd ⊢
    exact (jump_dispatch (m := m.counted) hi hd).2
  · rw [step_of_limit hi hge] at hd
    cases hd

/-- **A dispatch leads onward, unless it is that of the end of a loop.** -/
lemma lt_pc_step (hi : p.instructions[m.pc]? = some i) (hd : (m.step e p f).result = .ok d)
    (hop : i.op ≠ .loopEnd) :
    m.pc < (m.step e p f).machine.pc ∧ (m.step e p f).machine.pc ≤ p.instructions.length :=
  (jump_step hi hd).lt_pc (m := m.counted) hi hop

/-- **The end of a loop leads back**, in any machine that dispatches lead to. -/
lemma pc_step_lt (hm : m.Reached e p) (hi : p.instructions[m.pc]? = some i)
    (hd : (m.step e p f).result = .ok d) (hop : i.op = .loopEnd) :
    (m.step e p f).machine.pc < m.pc := by
  obtain ⟨op, line⟩ := i
  cases hop
  exact (jump_step hi hd).pc_lt (m := m.counted) hm.stacked.counted hi

/-- A dispatch that carries out nothing stays where it is. -/
lemma pc_step_of_none (h : m.made? e p f = none) : (m.step e p f).machine.pc = m.pc := by
  unfold made? at h
  rcases hresult : (m.step e p f).result with failure | d
  · rcases step_error_cases hresult with ⟨-, hstep⟩ | ⟨hlt, hfault⟩
    · rw [hstep]
    · rw [step_of_fault hfault hlt]
      exact pc_giveUp failure
  · rw [hresult] at h
    have hnone : p.instructions[m.pc]? = none := Option.map_eq_none_iff.1 h
    rw [step_of_isHalted (isHalted_of_getElem? hnone)]

lemma made?_eq_some (h : m.made? e p f = some op) :
    ∃ line d, p.instructions[m.pc]? = some ⟨op, line⟩ ∧ (m.step e p f).result = .ok d := by
  unfold made? at h
  split at h
  · next d hd =>
    obtain ⟨⟨op, line⟩, hi, rfl⟩ := Option.map_eq_some_iff.1 h
    exact ⟨line, d, hi, hd⟩
  · cases h

end Step

/-! ### Any number of dispatches -/

/-- The machine after one dispatch on each of the fields. -/
def stepped (e : Engine) (p : Program) : Machine → List Field → Machine
  | m, [] => m
  | m, f :: fs => stepped e p (m.step e p f).machine fs

/-- The operations that one dispatch on each of the fields carries out with success, in order. -/
def made (e : Engine) (p : Program) : Machine → List Field → List Op
  | _, [] => []
  | m, f :: fs => (m.made? e p f).toList ++ made e p (m.step e p f).machine fs

section Run

variable {e : Engine} {p : Program} {m : Machine}

lemma Reached.stepped (hm : m.Reached e p) (fs : List Field) : (m.stepped e p fs).Reached e p := by
  induction fs generalizing m with
  | nil => exact hm
  | cons f fs ih => exact ih (hm.step f)

/-- **Between two ends of loops every dispatch takes the machine further**, so it makes no more of
them than there are instructions. -/
theorem length_made_add_pc_le (hm : m.Reached e p) (fs : List Field) :
    (m.made e p fs).length + m.pc ≤
      (m.made e p fs).count .loopEnd * p.instructions.length + (m.stepped e p fs).pc := by
  induction fs generalizing m with
  | nil =>
    show 0 + m.pc ≤ 0 * p.instructions.length + m.pc
    omega
  | cons f fs ih =>
    have hnext := ih (hm.step f)
    rw [made, Machine.stepped]
    rcases hmade : m.made? e p f with _ | op
    · rw [pc_step_of_none hmade] at hnext
      exact hnext
    · obtain ⟨line, d, hi, hd⟩ := made?_eq_some hmade
      have hin : m.pc < p.instructions.length := (List.getElem?_eq_some_iff.1 hi).1
      rw [Option.toList_some, List.singleton_append, List.length_cons]
      by_cases hop : op = .loopEnd
      · -- the machine may lose all that it has gained, which is less than the program is long
        rw [hop, List.count_cons_self, Nat.succ_mul]
        omega
      · obtain ⟨hlt, -⟩ := lt_pc_step hi hd hop
        rw [List.count_cons_of_ne hop]
        omega

end Run

end Machine

/-! ### Programs without ends of loops -/

section Loopless

variable {e : Engine} {p : Program} {f : Field} {u : Underway} {n : Nat}

/-- Without ends of loops a run is at least as far as it has made dispatches. -/
lemma le_pc_of_unlimited? (hp : ∀ i ∈ p.instructions, i.op ≠ .loopEnd)
    (hu : e.unlimited? p { field := f } n = some u) : n ≤ u.machine.pc := by
  refine Engine.unlimited?_induction (motive := fun n u => n ≤ u.machine.pc) (Nat.zero_le _)
    (fun n u hle hgoes => ?_) hu
  obtain ⟨i, hi⟩ : ∃ i, p.instructions[u.machine.pc]? = some i := by
    rcases hi : p.instructions[u.machine.pc]? with _ | i
    · exact absurd (isHalted_of_getElem? hi) (not_isHalted_of_goesOn hgoes)
    · exact ⟨i, rfl⟩
  have honward := (jump_of_goesOn hgoes).lt_pc (m := u.machine.counted) hi
    (hp i (List.mem_of_getElem? hi))
  exact Nat.lt_of_le_of_lt hle honward.1

/-- **Without ends of loops no run needs more steps than there are instructions.** -/
lemma execute_ne_limit (hp : ∀ i ∈ p.instructions, i.op ≠ .loopEnd)
    (hlimit : p.instructions.length ≤ e.settings.maxSteps) (limit : Nat) :
    (e.execute p f).result ≠ .error (.stepLimitExceeded limit) := by
  obtain ⟨k, hk, x, hx⟩ | ⟨u, hu, hgoing⟩ :=
    Engine.ends_or_unlimited? e p { field := f } e.settings.maxSteps
  · rw [Engine.execute_of_ends hx hk]
    exact hx.result_ne limit
  · have hle := le_pc_of_unlimited? hp hu
    have hlt : ¬p.instructions.length ≤ u.machine.pc := by simpa [Machine.isHalted] using hgoing
    omega

end Loopless

/-- **Only the end of a loop leads back.** In every machine that dispatches lead to, with the field
changed between them in any way, the dispatch of any other instruction that succeeds leads strictly
onward and at most to the end of the program, and that of an end of a loop leads strictly back. So a
machine that starts on a program carries out at most as many instructions as the program has, and
that many more for each end of a loop among them, however many of its dispatches fail. Without ends
of loops a run needs no more steps than there are instructions, whatever its blocks look like. -/
theorem only_loopEnd_leads_back (e : Engine) (p : Program) :
    (∀ (m : Machine) f i d, m.Reached e p → p.instructions[m.pc]? = some i →
      (m.step e p f).result = .ok d →
      (i.op ≠ .loopEnd → m.pc < (m.step e p f).machine.pc ∧
        (m.step e p f).machine.pc ≤ p.instructions.length) ∧
      (i.op = .loopEnd → (m.step e p f).machine.pc < m.pc)) ∧
    (∀ fs, (Machine.made e p {} fs).length ≤
      ((Machine.made e p {} fs).count .loopEnd + 1) * p.instructions.length) ∧
    ((∀ i ∈ p.instructions, i.op ≠ .loopEnd) → p.instructions.length ≤ e.settings.maxSteps →
      ∀ f limit, (e.execute p f).result ≠ .error (.stepLimitExceeded limit)) := by
  refine ⟨fun m f i d hm hi hd => ⟨Machine.lt_pc_step hi hd, Machine.pc_step_lt hm hi hd⟩,
    fun fs => ?_, fun hp hlimit f limit => execute_ne_limit hp hlimit limit⟩
  have hcount := Machine.length_made_add_pc_le (e := e) (p := p) .start fs
  have hend := (Machine.Reached.stepped (e := e) (p := p) .start fs).stacked.inside
  rw [Nat.succ_mul]
  omega

/-- A conditional cuts through a loop, and the end of the next one leads back to its start. A
program of four instructions without ends of loops gets by with four steps. -/
theorem only_loopEnd_leads_back_of_overlap :
    let e : Engine := { settings := { maxSteps := 4 } }
    let p : Program := ⟨[⟨.loopStart "", 1⟩, ⟨.ifStart "сверху свободно", 2⟩, ⟨.loopEnd, 3⟩,
      ⟨.ifEnd, 4⟩, ⟨.loopStart "", 5⟩, ⟨.loopEnd, 6⟩], []⟩
    let q : Program := ⟨[⟨.ifStart "сверху стена", 1⟩, ⟨.command "вправо", 2⟩, ⟨.ifEnd, 3⟩,
      ⟨.command "вниз", 4⟩], []⟩
    let m : Machine := ⟨5, [4, 0], 3⟩
    let f : Field := default
    m.Reached e p ∧ (m.step e p f).machine.pc < m.pc ∧
      Machine.made e p {} [f, f, f, f, f] =
        [.loopStart "", .ifStart "сверху свободно", .loopStart "", .loopEnd] ∧
      (Machine.made e p {} [f, f, f, f, f]).length ≤
        ((Machine.made e p {} [f, f, f, f, f]).count .loopEnd + 1) * p.instructions.length ∧
      (∀ i ∈ q.instructions, i.op ≠ .loopEnd) ∧
      (e.execute q f).last.machine.dispatched = e.settings.maxSteps ∧
      ∀ limit, (e.execute q f).result ≠ .error (.stepLimitExceeded limit) := by
  intro e p q m f
  have hm : m.Reached e p := by
    have hsteps : Machine.stepped e p {} [f, f, f] = m := by decide +kernel
    exact hsteps ▸ Machine.Reached.stepped .start [f, f, f]
  have hd : (m.step e p f).result = .ok .silent := by decide +kernel
  have hq : ∀ i ∈ q.instructions, i.op ≠ .loopEnd := by decide
  obtain ⟨hstep, hcount, -⟩ := only_loopEnd_leads_back e p
  obtain ⟨-, -, hlimit⟩ := only_loopEnd_leads_back e q
  exact ⟨hm, (hstep m f ⟨.loopEnd, 6⟩ .silent hm rfl hd).2 rfl, by decide +kernel, hcount _, hq,
    by decide +kernel, hlimit hq (by decide) f⟩

end RobotScript
