import RobotScript.Proofs.Run.LoopStack

/-!
In well-nested code the loops of a machine are the loops around its instruction.

`Blocks.enclosing` lists the loops that start before an index and end behind it, each end found by
the search that a machine makes when it leaves the loop. `Blocks.openAt` reads the same list off the
code by opening and closing loops on the way to the index, and the two agree on well-nested code
(`Blocks.reverse_openAt`): a loop stays open up to its end (`Blocks.mem_openAt_of_loopExit`) and not
beyond (`Blocks.not_mem_openAt_of_loopExit`). A machine keeps the open loops on its list, so the end
of a loop leads back to the start of the same loop; the main statement is `loops_enclosing`.
-/

namespace RobotScript

namespace Blocks

/-- Whether a loop starts at one index and ends behind another. -/
def encloses (code : List Instruction) (index start : Nat) : Bool :=
  code[start]?.any (·.op.isLoopStart) && (loopExit code start).toOption.any (index < ·)

/-- **The loops around an index**, the outermost first: those that start before it and end behind
it. -/
def enclosing (code : List Instruction) (index : Nat) : List Nat :=
  (List.range index).filter (encloses code index)

section Enclosing

variable {code part : List Instruction} {index start exit line : Nat} {guard : String}

lemma encloses_iff :
    encloses code index start ↔ (∃ guard line, code[start]? = some ⟨.loopStart guard, line⟩) ∧
      ∃ exit, loopExit code start = .ok exit ∧ index < exit := by
  have hstart : code[start]?.any (·.op.isLoopStart) ↔
      ∃ guard line, code[start]? = some ⟨.loopStart guard, line⟩ := by
    rcases code[start]? with _ | ⟨op, line⟩
    · simp
    · cases op <;> simp [Op.isLoopStart]
  have hexit : (loopExit code start).toOption.any (index < ·) ↔
      ∃ exit, loopExit code start = .ok exit ∧ index < exit := by
    rcases loopExit code start with failure | exit <;> simp [Except.toOption]
  rw [encloses, Bool.and_eq_true, hstart, hexit]

/-! ### Open loops in order -/

/-- The open loops start before the index, each inside the ones after it. -/
lemma openAt_ordered (code : List Instruction) (index : Nat) :
    (∀ start ∈ openAt code index, start < index ∧
      ∃ guard line, code[start]? = some ⟨.loopStart guard, line⟩) ∧
    (openAt code index).Pairwise (· > ·) := by
  induction index using Nat.strongRecOn with
  | ind index ih =>
    rcases hopen : openAt code index with _ | ⟨top, outer⟩
    · exact ⟨nofun, .nil⟩
    · obtain ⟨hlt, hstart, houter⟩ := openAt_eq_cons hopen
      obtain ⟨hbefore, hordered⟩ := ih top hlt
      rw [houter] at hbefore hordered
      refine ⟨fun start hmem => ?_, ?_⟩
      · rcases List.mem_cons.1 hmem with rfl | hmem
        · exact ⟨hlt, hstart⟩
        · exact ⟨Nat.lt_trans (hbefore start hmem).1 hlt, (hbefore start hmem).2⟩
      · exact List.pairwise_cons.2 ⟨fun start hmem => (hbefore start hmem).1, hordered⟩

lemma lt_of_mem_openAt (h : start ∈ openAt code index) : start < index :=
  ((openAt_ordered code index).1 start h).1

/-- Loops that are opened on the way stand on the way. -/
lemma mem_openAt_add {n : Nat} (h : start ∈ openAt code (index + n)) :
    start ∈ openAt code index ∨ index ≤ start := by
  induction n with
  | zero => exact Or.inl h
  | succ n ih =>
    rw [← Nat.add_assoc, openAt] at h
    split at h
    · rcases List.mem_cons.1 h with rfl | h
      · exact Or.inr (Nat.le_add_right _ _)
      · exact ih h
    · exact ih (List.mem_of_mem_tail h)
    · exact ih h

/-! ### A loop is open up to its end -/

/-- Inside a span the loops that it closes last stay open. -/
lemma suffix_openAt_of_loopSpan? {depth n k : Nat} (hpart : SegmentAt code index part)
    (h : loopSpan? depth part = some n) (hk : k < n) :
    (openAt code index).drop depth <:+ openAt code (index + k) := by
  induction part generalizing index depth n k with
  | nil => cases h
  | cons i part ih =>
    cases k with
    | zero => exact List.drop_suffix _ _
    | succ k =>
      rw [← Nat.add_assoc, Nat.add_right_comm]
      have hk' : k < n - 1 := by omega
      obtain ⟨guard, l, hop, rfl, hl⟩ | ⟨hop, rfl, rfl⟩ | ⟨d, l, hop, rfl, rfl, hl⟩ |
        ⟨l, hstart, hend, rfl, hl⟩ := loopSpan?_cases h
      · have hrest := ih hpart.tail hl hk'
        rwa [openAt_of_loopStart hpart.head hop, List.drop_succ_cons] at hrest
      · omega
      · have hrest := ih hpart.tail hl hk'
        rwa [openAt_of_loopEnd hpart.head hop, List.drop_tail] at hrest
      · have hrest := ih hpart.tail hl hk'
        rwa [openAt_of_other hpart.head hstart hend] at hrest

lemma mem_openAt_of_loopExit (hi : code[start]? = some ⟨.loopStart guard, line⟩)
    (hexit : loopExit code start = .ok exit) (hlt : start < index) (hend : index < exit) :
    start ∈ openAt code index := by
  unfold loopExit at hexit
  split at hexit
  · next n hn =>
    cases hexit
    have hrest : SegmentAt code (start + 1) (code.drop (start + 1)) := List.prefix_rfl
    have hsuffix := suffix_openAt_of_loopSpan? (k := index - (start + 1)) hrest hn (by omega)
    rw [openAt_of_loopStart hi rfl, List.drop_zero, Nat.add_sub_cancel' hlt] at hsuffix
    exact hsuffix.subset List.mem_cons_self
  · cases hexit

lemma not_mem_openAt_of_loopExit (hi : code[start]? = some ⟨.loopStart guard, line⟩)
    (hexit : loopExit code start = .ok exit) (hend : exit ≤ index) :
    start ∉ openAt code index := by
  intro hmem
  have hbounds := loopExit_bounds hexit
  rw [← Nat.add_sub_cancel' hend] at hmem
  rcases mem_openAt_add hmem with hmem | hle
  · -- past its end a loop is left into the loops it stands in
    rw [openAt_loopExit hi hexit] at hmem
    exact Nat.lt_irrefl _ (lt_of_mem_openAt hmem)
  · omega

/-- **The open loops of well-nested code are the enclosing ones.** -/
theorem mem_openAt_iff (hw : WellNested code) :
    start ∈ openAt code index ↔ start < index ∧ encloses code index start := by
  rw [encloses_iff]
  constructor
  · intro hmem
    obtain ⟨hlt, guard, line, hi⟩ := (openAt_ordered code index).1 start hmem
    obtain ⟨n, hn⟩ := hw.exists_loopSpan? hi
    have hexit : loopExit code start = .ok (start + 1 + n) := by simp only [loopExit, hn]
    refine ⟨hlt, ⟨guard, line, hi⟩, _, hexit, ?_⟩
    by_contra hge
    exact not_mem_openAt_of_loopExit hi hexit (by omega) hmem
  · rintro ⟨hlt, ⟨guard, line, hi⟩, exit, hexit, hend⟩
    exact mem_openAt_of_loopExit hi hexit hlt hend

theorem reverse_openAt (hw : WellNested code) (index : Nat) :
    (openAt code index).reverse = enclosing code index := by
  have hopen : (openAt code index).reverse.Pairwise (· < ·) :=
    List.pairwise_reverse.2 (openAt_ordered code index).2
  have henclosing : (enclosing code index).Pairwise (· < ·) :=
    List.pairwise_lt_range.filter _
  have hperm : (openAt code index).reverse.Perm (enclosing code index) := by
    refine (List.perm_ext_iff_of_nodup (hopen.imp Nat.ne_of_lt) (henclosing.imp Nat.ne_of_lt)).2
      fun start => ?_
    rw [List.mem_reverse, mem_openAt_iff hw, enclosing, List.mem_filter, List.mem_range]
  refine List.Perm.eq_of_pairwise ?_ hopen henclosing hperm
  intro a b _ _ hab hba
  exact absurd (Nat.lt_trans hab hba) (Nat.lt_irrefl a)

/-! ### The end of a loop -/

/-- The number of open loops is the depth. -/
lemma length_openAt {left : Nat} (hpart : SegmentAt code index part)
    (h : depthAfter? (openAt code index).length part = some left) :
    (openAt code (index + part.length)).length = left := by
  induction part generalizing index with
  | nil =>
    cases h
    rfl
  | cons i part ih =>
    have hlength : index + (i :: part).length = index + 1 + part.length := by
      rw [List.length_cons]
      omega
    rw [hlength]
    apply ih hpart.tail
    obtain ⟨⟨guard, hop⟩, h⟩ | ⟨d, hd, hop, h⟩ | ⟨hstart, hend, h⟩ := depthAfter?_cases h
    · rwa [openAt_of_loopStart hpart.head hop, List.length_cons]
    · rwa [openAt_of_loopEnd hpart.head hop, List.length_tail, hd, Nat.add_sub_cancel]
    · rwa [openAt_of_other hpart.head hstart hend]

/-- A `кц` of well-nested code has an open loop before it. -/
lemma openAt_ne_nil_of_loopEnd (hw : WellNested code)
    (hi : code[index]? = some ⟨.loopEnd, line⟩) : openAt code index ≠ [] := by
  obtain ⟨depth, hbefore, hrest⟩ := hw.exists_depth hi
  have hlt := (List.getElem?_eq_some_iff.1 hi).1
  have hpart : SegmentAt code 0 (code.take index) := List.take_prefix _ _
  have hlength := length_openAt hpart hbefore
  rw [List.length_take_of_le (Nat.le_of_lt hlt), Nat.zero_add] at hlength
  intro hnone
  rw [hnone] at hlength
  cases hlength
  -- a `кц` that closes no loop leaves no depth
  cases hrest

/-- **A `кц` is the end of the innermost loop that is open before it.** -/
theorem loopExit_of_openAt {outer : List Nat} (hw : WellNested code)
    (hi : code[index]? = some ⟨.loopEnd, line⟩) (hopen : openAt code index = start :: outer) :
    loopExit code start = .ok (index + 1) := by
  have hmem : start ∈ openAt code index := by
    rw [hopen]
    exact List.mem_cons_self
  have hlt := lt_of_mem_openAt hmem
  obtain ⟨-, henclosed⟩ := (mem_openAt_iff hw).1 hmem
  obtain ⟨⟨guard, line, hstart⟩, exit, hexit, hend⟩ := encloses_iff.1 henclosed
  have hclosed : start ∉ openAt code (index + 1) := by
    have hordered := (openAt_ordered code index).2
    rw [hopen, List.pairwise_cons] at hordered
    rw [openAt_of_loopEnd hi rfl, hopen, List.tail_cons]
    exact fun hmem => Nat.lt_irrefl _ (hordered.1 start hmem)
  have hle : ¬index + 1 < exit := fun hlater =>
    hclosed (mem_openAt_of_loopExit hstart hexit (by omega) hlater)
  obtain rfl : exit = index + 1 := by omega
  exact hexit

/-- A loop that starts inside another does not end with it. -/
lemma not_lt_of_loopExit {other otherLine : Nat} {otherGuard : String}
    (hi : code[start]? = some ⟨.loopStart guard, line⟩)
    (hother : code[other]? = some ⟨.loopStart otherGuard, otherLine⟩)
    (hexit : loopExit code start = .ok exit) (hexit' : loopExit code other = .ok exit) :
    ¬start < other := by
  intro hlt
  have hbounds := loopExit_bounds hexit'
  have hmem : start ∈ openAt code other := mem_openAt_of_loopExit hi hexit hlt (by omega)
  rw [← openAt_loopExit hother hexit', openAt_loopExit hi hexit] at hmem
  exact Nat.lt_irrefl _ (lt_of_mem_openAt hmem)

end Enclosing

end Blocks

/-! ### The loops of a machine -/

open Blocks

section Machines

variable {e : Engine} {p : Program} {code : List Instruction} {m : Machine} {line : Nat}

lemma Machine.Nested.giveUp (hm : m.Nested code) (failure : Failure) :
    (m.giveUp failure).Nested code := by
  cases failure with
  | unterminatedLoop => exact ⟨hm.inside, Or.inl hm.leaveLoop_loops⟩
  | unterminatedConditional | blockedMove | unknownCommand | invalidCondition | unmatchedLoopEnd
  | stepLimitExceeded | alreadyRunning => exact hm

/-- **Dispatches of well-nested code keep the machine in the open loops**, also those that fail. -/
theorem Machine.Reached.nested (hw : WellNested p.instructions) (h : m.Reached e p) :
    m.Nested p.instructions :=
  h.induction ⟨Nat.zero_le _, Or.inl rfl⟩ (fun _ hm => ⟨hm.inside, hm.loops⟩)
    (fun _ _ hm => hm.jump hw) (fun _ failure hm => hm.giveUp failure)

/-- At the end of a loop the machine is in the loop that ends there. -/
lemma Machine.Nested.loops_of_loopEnd (hw : WellNested code) (hm : m.Nested code)
    (hi : code[m.pc]? = some ⟨.loopEnd, line⟩) :
    ∃ start outer, m.loops = start :: outer ∧
      (∃ guard line, code[start]? = some ⟨.loopStart guard, line⟩) ∧
      loopExit code start = .ok (m.pc + 1) := by
  obtain ⟨start, outer, hopen⟩ := List.exists_cons_of_ne_nil (openAt_ne_nil_of_loopEnd hw hi)
  exact ⟨start, outer, (hm.loops_of_ne hi (by simp)).trans hopen, (openAt_eq_cons hopen).2.1,
    loopExit_of_openAt hw hi hopen⟩

end Machines

/-- **In a well-nested program the end of a loop leads back to the start of the same loop.** Of
every machine that dispatches lead to, also after failures and with the field changed between them:
its list of loops, without one on top that it has come back to, is the list of the loops that start
before its index and end behind it. A `кц` leads back to the one loop whose exit is right behind it,
none is without an open loop, and at the end of the program the machine is in no loop. -/
theorem loops_enclosing {e : Engine} {p : Program} {m : Machine}
    (hw : WellNested p.instructions) (h : m.Reached e p) :
    (Machine.leaveLoop m.loops m.pc).reverse = enclosing p.instructions m.pc ∧
    (∀ line, p.instructions[m.pc]? = some ⟨.loopEnd, line⟩ → ∃ start,
      (∃ guard line, p.instructions[start]? = some ⟨.loopStart guard, line⟩) ∧
      loopExit p.instructions start = .ok (m.pc + 1) ∧
      (∀ other guard line, p.instructions[other]? = some ⟨.loopStart guard, line⟩ →
        loopExit p.instructions other = .ok (m.pc + 1) → other = start) ∧
      ∀ f, m.dispatched < e.settings.maxSteps →
        m.step e p f = ⟨.ok .silent, { m.counted with pc := start }, f⟩) ∧
    (∀ f line, (m.step e p f).result ≠ .error (.unmatchedLoopEnd line)) ∧
    (m.isHalted p → m.loops = []) := by
  have hm := h.nested hw
  refine ⟨by rw [hm.leaveLoop_loops, reverse_openAt hw], fun line hi => ?_,
    fun f line hresult => ?_, fun hend => (hm.eq_of_isHalted hw hend).2⟩
  · obtain ⟨start, outer, hloops, ⟨guard, line, hstart⟩, hexit⟩ := hm.loops_of_loopEnd hw hi
    refine ⟨start, ⟨guard, line, hstart⟩, hexit, fun other guard line hother hexit' => ?_,
      fun f hlt => ?_⟩
    · exact Nat.le_antisymm (Nat.not_lt.1 (not_lt_of_loopExit hstart hother hexit hexit'))
        (Nat.not_lt.1 (not_lt_of_loopExit hother hstart hexit' hexit))
    · rw [Machine.step_of_loopEnd hi hlt, hloops]
  · rcases Machine.step_error_cases hresult with ⟨hlimit, -⟩ | ⟨-, hfault⟩
    · cases hlimit
    · cases hfault with
      | strayEnd at_pc outside =>
        obtain ⟨start, outer, hloops, -⟩ := hm.loops_of_loopEnd hw at_pc
        rw [outside] at hloops
        cases hloops

/-- A loop inside a conditional inside a loop. The machine at the inner `кц` is in both loops and
goes back to the inner one, which is then on its list but not around it. -/
theorem loops_enclosing_of_inner :
    let e : Engine := {}
    let p : Program := ⟨[⟨.loopStart "", 1⟩, ⟨.ifStart "справа свободно", 2⟩,
      ⟨.loopStart "снизу свободно", 3⟩, ⟨.command "вниз", 4⟩, ⟨.loopEnd, 5⟩, ⟨.ifEnd, 6⟩,
      ⟨.loopEnd, 7⟩], []⟩
    let m : Machine := ⟨4, [2, 0], 4⟩
    let back : Machine := ⟨2, [2, 0], 5⟩
    WellNested p.instructions ∧ (m.Reached e p ∧ back.Reached e p) ∧
      (Machine.leaveLoop m.loops m.pc).reverse = enclosing p.instructions m.pc ∧
      enclosing p.instructions m.pc = [0, 2] ∧
      (∃ start, loopExit p.instructions start = .ok 5 ∧ ∀ f,
        m.step e p f = ⟨.ok .silent, { m.counted with pc := start }, f⟩) ∧
      (Machine.leaveLoop back.loops back.pc).reverse = enclosing p.instructions back.pc ∧
      enclosing p.instructions back.pc = [0] := by
  intro e p m back
  let f : Field := default
  have hw : WellNested p.instructions := by decide +kernel
  have hm : m.Reached e p := by
    have hsteps : ((((({} : Machine).step e p f).machine.step e p f).machine.step e p
        f).machine.step e p f).machine = m := by decide +kernel
    exact hsteps ▸ .step (.step (.step (.step .start f) f) f) f
  have hback : back.Reached e p := by
    have hstep : (m.step e p f).machine = back := by decide +kernel
    exact hstep ▸ hm.step f
  obtain ⟨henclosing, hend, -, -⟩ := loops_enclosing hw hm
  obtain ⟨start, -, hexit, -, hstep⟩ := hend 5 rfl
  exact ⟨hw, ⟨hm, hback⟩, henclosing, by decide +kernel,
    ⟨start, hexit, fun f => hstep f (by decide)⟩, (loops_enclosing hw hback).1, by decide +kernel⟩

end RobotScript
