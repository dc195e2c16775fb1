import RobotScript.Proofs.Run.Control
import RobotScript.Proofs.Structured.Block

/-!
Well-nested code, and the loops a machine is in while it runs it.

`Blocks.WellNested` asks that the loops of the code are balanced and that no conditional cuts through
a loop. `Blocks.openAt` is the list of the loops around an instruction, read off the code alone. A
machine that runs well-nested code keeps exactly these on its list of loops (`Machine.Nested.jump`),
so it has left them all when it comes to the end (`Machine.Nested.eq_of_isHalted`).
-/

namespace RobotScript

/-- Whether an operation opens a conditional. -/
def Op.isIfStart : Op → Bool
  | ifStart _ => true
  | _ => false

namespace Blocks

/-! ### Balanced loops -/

/-- How many loops are open after an operation if `depth` are before it. A `кц` that closes none
leaves no answer. -/
def depthPast? (depth : Nat) : Op → Option Nat
  | .loopStart _ => some (depth + 1)
  | .loopEnd => if depth = 0 then none else some (depth - 1)
  | _ => some depth

/-- How many loops are open after some code if `depth` are before it. -/
def depthAfter? (depth : Nat) (code : List Instruction) : Option Nat :=
  code.foldlM (fun d i => depthPast? d i.op) depth

/-- Every `нц` of the code has its `кц` there, and every `кц` its `нц`. -/
def Balanced (code : List Instruction) : Prop := depthAfter? 0 code = some 0

instance (code : List Instruction) : Decidable (Balanced code) :=
  inferInstanceAs (Decidable (depthAfter? 0 code = some 0))

/-- A `все` follows, and the code up to the first one is balanced. -/
def Closes (rest : List Instruction) : Prop :=
  (∃ i ∈ rest, i.op = .ifEnd) ∧ Balanced (rest.takeWhile (·.op ≠ .ifEnd))

instance (rest : List Instruction) : Decidable (Closes rest) :=
  inferInstanceAs (Decidable (_ ∧ _))

/-- **Well-nested code**: its loops are balanced, and so is the body of every conditional. A
conditional may stand in another; the first `все` closes both. -/
structure WellNested (code : List Instruction) : Prop where
  balanced : Balanced code
  conditionals : ∀ start, ∀ h : start < code.length,
    code[start].op.isIfStart → Closes (code.drop (start + 1))

instance (code : List Instruction) : Decidable (WellNested code) :=
  decidable_of_iff
    (Balanced code ∧ ∀ start, ∀ h : start < code.length,
      code[start].op.isIfStart → Closes (code.drop (start + 1)))
    ⟨fun h => ⟨h.1, h.2⟩, fun h => ⟨h.1, h.2⟩⟩

section Depth

variable {depth left : Nat} {i : Instruction} {code rest : List Instruction}

/-- The three ways in which an instruction changes the number of open loops. -/
lemma depthAfter?_cases (h : depthAfter? depth (i :: rest) = some left) :
    (∃ guard, i.op = .loopStart guard) ∧ depthAfter? (depth + 1) rest = some left ∨
    (∃ d, depth = d + 1 ∧ i.op = .loopEnd ∧ depthAfter? d rest = some left) ∨
    (∀ guard, i.op ≠ .loopStart guard) ∧ i.op ≠ .loopEnd ∧ depthAfter? depth rest = some left := by
  obtain ⟨op, line⟩ := i
  cases op with
  | loopStart guard => exact Or.inl ⟨⟨guard, rfl⟩, h⟩
  | loopEnd =>
    cases depth with
    | zero => cases h
    | succ d => exact Or.inr (Or.inl ⟨d, rfl, rfl, h⟩)
  | command _ | ifStart _ | ifEnd => exact Or.inr (Or.inr ⟨by simp, by simp, h⟩)

lemma loopSpan?_of_other (hstart : ∀ guard, i.op ≠ .loopStart guard) (hend : i.op ≠ .loopEnd) :
    loopSpan? depth (i :: rest) = (loopSpan? depth rest).map (· + 1) := by
  obtain ⟨op, line⟩ := i
  cases op with
  | loopStart guard => exact absurd rfl (hstart guard)
  | loopEnd => exact absurd rfl hend
  | command _ | ifStart _ | ifEnd => rfl

/-- If more loops are closed than `depth`, the one with `depth` inside it is. -/
lemma loopSpan?_of_depthAfter? {inside : Nat} (h : depthAfter? depth code = some left)
    (hlt : left + inside < depth) : ∃ n, loopSpan? inside code = some n := by
  induction code generalizing depth inside with
  | nil =>
    cases h
    omega
  | cons i rest ih =>
    obtain ⟨⟨guard, hop⟩, h⟩ | ⟨d, rfl, hop, h⟩ | ⟨hstart, hend, h⟩ := depthAfter?_cases h
    · have hlt' : left + (inside + 1) < depth + 1 := by omega
      obtain ⟨n, hn⟩ := ih h hlt'
      exact ⟨n + 1, by simp only [loopSpan?, hop, hn, Option.map_some]⟩
    · cases inside with
      | zero => exact ⟨1, by simp only [loopSpan?, hop]⟩
      | succ inside =>
        have hlt' : left + inside < d := by omega
        obtain ⟨n, hn⟩ := ih h hlt'
        exact ⟨n + 1, by simp only [loopSpan?, hop, hn, Option.map_some]⟩
    · obtain ⟨n, hn⟩ := ih h hlt
      exact ⟨n + 1, by rw [loopSpan?_of_other hstart hend, hn, Option.map_some]⟩

lemma loopSpan?_cases {n : Nat} (h : loopSpan? depth (i :: rest) = some n) :
    (∃ guard k, i.op = .loopStart guard ∧ n = k + 1 ∧ loopSpan? (depth + 1) rest = some k) ∨
    (i.op = .loopEnd ∧ depth = 0 ∧ n = 1) ∨
    (∃ d k, i.op = .loopEnd ∧ depth = d + 1 ∧ n = k + 1 ∧ loopSpan? d rest = some k) ∨
    ∃ k, (∀ guard, i.op ≠ .loopStart guard) ∧ i.op ≠ .loopEnd ∧ n = k + 1 ∧
      loopSpan? depth rest = some k := by
  obtain ⟨op, line⟩ := i
  cases op with
  | loopStart guard =>
    obtain ⟨k, hk, rfl⟩ := Option.map_eq_some_iff.1 h
    exact Or.inl ⟨guard, k, rfl, rfl, hk⟩
  | loopEnd =>
    cases depth with
    | zero =>
      cases h
      exact Or.inr (Or.inl ⟨rfl, rfl, rfl⟩)
    | succ d =>
      obtain ⟨k, hk, rfl⟩ := Option.map_eq_some_iff.1 h
      exact Or.inr (Or.inr (Or.inl ⟨d, k, rfl, rfl, rfl, hk⟩))
  | command _ | ifStart _ | ifEnd =>
    obtain ⟨k, hk, rfl⟩ := Option.map_eq_some_iff.1 h
    exact Or.inr (Or.inr (Or.inr ⟨k, by simp, by simp, rfl, hk⟩))

lemma loopSpan?_append {n : Nat} (h : loopSpan? depth code = some n) :
    loopSpan? depth (code ++ rest) = some n := by
  induction code generalizing depth n with
  | nil => cases h
  | cons i code ih =>
    rw [List.cons_append]
    obtain ⟨guard, k, hop, rfl, hk⟩ | ⟨hop, rfl, rfl⟩ | ⟨d, k, hop, rfl, rfl, hk⟩ |
      ⟨k, hstart, hend, rfl, hk⟩ := loopSpan?_cases h
    · simp only [loopSpan?, hop, ih hk, Option.map_some]
    · simp only [loopSpan?, hop]
    · simp only [loopSpan?, hop, ih hk, Option.map_some]
    · rw [loopSpan?_of_other hstart hend, ih hk, Option.map_some]

end Depth

/-! ### The body of a conditional -/

section Conditionals

variable {rest others : List Instruction}

/-- The span up to a `все` is the code before the first one, and the `все`. -/
lemma ifSpan?_of_exists (h : ∃ i ∈ rest, i.op = .ifEnd) :
    ifSpan? rest = some ((rest.takeWhile (·.op ≠ .ifEnd)).length + 1) := by
  induction rest with
  | nil => simp at h
  | cons i rest ih =>
    by_cases hi : i.op = .ifEnd
    · simp [ifSpan?, List.findIdx?_cons, hi]
    · have hrest : ∃ j ∈ rest, j.op = .ifEnd := by simpa [hi] using h
      obtain ⟨n, hn, hlength⟩ := Option.map_eq_some_iff.1 (ih hrest)
      simp only [ifSpan?, List.findIdx?_cons, hi, hn]
      simpa [hi] using hlength

lemma getElem?_of_ifSpan? {n : Nat} (h : ifSpan? rest = some (n + 1)) :
    ∃ line, rest[n]? = some ⟨.ifEnd, line⟩ := by
  obtain ⟨k, hk, hn⟩ := Option.map_eq_some_iff.1 h
  obtain rfl : k = n := by omega
  obtain ⟨hlt, hop, -⟩ := List.findIdx?_eq_some_iff_getElem.1 hk
  refine ⟨rest[k].line, ?_⟩
  rw [List.getElem?_eq_getElem hlt, ← of_decide_eq_true hop]

lemma ifSpan?_append {n : Nat} (h : ifSpan? rest = some n) : ifSpan? (rest ++ others) = some n := by
  obtain ⟨k, hk, rfl⟩ := Option.map_eq_some_iff.1 h
  simp [ifSpan?, List.findIdx?_append, hk]

end Conditionals

/-! ### The loops around an instruction -/

/-- **The loops that are open before the instruction at an index**, the innermost first. -/
def openAt (code : List Instruction) : Nat → List Nat
  | 0 => []
  | index + 1 =>
    match code[index]?.map Instruction.op with
    | some (.loopStart _) => index :: openAt code index
    | some .loopEnd => (openAt code index).tail
    | _ => openAt code index

section Open

variable {code part : List Instruction} {i : Instruction} {index : Nat}

lemma openAt_of_loopStart {guard : String} (hi : code[index]? = some i)
    (hop : i.op = .loopStart guard) :
    openAt code (index + 1) = index :: openAt code index := by
  simp [openAt, hi, hop]

lemma openAt_of_loopEnd (hi : code[index]? = some i) (hop : i.op = .loopEnd) :
    openAt code (index + 1) = (openAt code index).tail := by
  simp [openAt, hi, hop]

lemma openAt_of_other (hi : code[index]? = some i) (hstart : ∀ guard, i.op ≠ .loopStart guard)
    (hend : i.op ≠ .loopEnd) : openAt code (index + 1) = openAt code index := by
  obtain ⟨op, line⟩ := i
  cases op with
  | loopStart guard => exact absurd rfl (hstart guard)
  | loopEnd => exact absurd rfl hend
  | command _ | ifStart _ | ifEnd => simp [openAt, hi]

/-- Code that leaves `left` of `depth` loops open takes no more from the open ones. -/
lemma drop_openAt_of_depthAfter? {depth left : Nat} (hpart : SegmentAt code index part)
    (h : depthAfter? depth part = some left) :
    (openAt code (index + part.length)).drop left = (openAt code index).drop depth := by
  induction part generalizing index depth with
  | nil =>
    cases h
    rfl
  | cons i part ih =>
    have hlength : index + (i :: part).length = index + 1 + part.length := by
      rw [List.length_cons]
      omega
    rw [hlength]
    obtain ⟨⟨guard, hop⟩, h⟩ | ⟨d, rfl, hop, h⟩ | ⟨hstart, hend, h⟩ := depthAfter?_cases h
    · rw [ih hpart.tail h, openAt_of_loopStart hpart.head hop, List.drop_succ_cons]
    · rw [ih hpart.tail h, openAt_of_loopEnd hpart.head hop, List.drop_tail]
    · rw [ih hpart.tail h, openAt_of_other hpart.head hstart hend]

lemma openAt_of_balanced (hpart : SegmentAt code index part) (h : Balanced part) :
    openAt code (index + part.length) = openAt code index :=
  drop_openAt_of_depthAfter? hpart h

/-- A span closes one loop more than it has inside. -/
lemma openAt_of_loopSpan? {depth n : Nat} (hpart : SegmentAt code index part)
    (h : loopSpan? depth part = some n) :
    openAt code (index + n) = (openAt code index).drop (depth + 1) := by
  induction part generalizing index depth n with
  | nil => cases h
  | cons i part ih =>
    obtain ⟨guard, k, hop, rfl, hk⟩ | ⟨hop, rfl, rfl⟩ | ⟨d, k, hop, rfl, rfl, hk⟩ |
      ⟨k, hstart, hend, rfl, hk⟩ := loopSpan?_cases h
    · rw [← Nat.add_assoc, Nat.add_right_comm, ih hpart.tail hk,
        openAt_of_loopStart hpart.head hop, List.drop_succ_cons]
    · rw [openAt_of_loopEnd hpart.head hop, List.drop_one]
    · rw [← Nat.add_assoc, Nat.add_right_comm, ih hpart.tail hk,
        openAt_of_loopEnd hpart.head hop, List.drop_tail]
    · rw [← Nat.add_assoc, Nat.add_right_comm, ih hpart.tail hk,
        openAt_of_other hpart.head hstart hend]

/-- **The innermost open loop** starts before the instruction, inside the others. -/
lemma openAt_eq_cons {start : Nat} {outer : List Nat} (h : openAt code index = start :: outer) :
    start < index ∧ (∃ guard line, code[start]? = some ⟨.loopStart guard, line⟩) ∧
      openAt code start = outer := by
  induction index using Nat.strongRecOn generalizing start outer with
  | ind index ih =>
    cases index with
    | zero => cases h
    | succ index =>
      rw [openAt] at h
      split at h
      · next guard hop =>
        obtain ⟨⟨op, line⟩, hi, rfl⟩ := Option.map_eq_some_iff.1 hop
        cases h
        exact ⟨Nat.lt_succ_self _, ⟨guard, line, hi⟩, rfl⟩
      · -- the loop that is closed here stands in the one that stays open
        rcases hopen : openAt code index with _ | ⟨closed, outer'⟩
        · rw [hopen] at h
          cases h
        · rw [hopen] at h
          obtain ⟨hlt, -, houter⟩ := ih index (Nat.lt_succ_self _) hopen
          obtain ⟨hlt', hstart⟩ := ih closed (by omega) (houter.trans h)
          exact ⟨by omega, hstart⟩
      · obtain ⟨hlt, hstart⟩ := ih index (Nat.lt_succ_self _) h
        exact ⟨by omega, hstart⟩

end Open

/-! ### The blocks of well-nested code -/

namespace WellNested

variable {code : List Instruction} {start line : Nat}

/-- The loops before an instruction of balanced code are open there, and closed in the end. -/
lemma exists_depth {i : Instruction} (hw : WellNested code) (hi : code[start]? = some i) :
    ∃ depth, depthAfter? 0 (code.take start) = some depth ∧
      depthAfter? depth (i :: code.drop (start + 1)) = some 0 := by
  obtain ⟨hlt, hget⟩ := List.getElem?_eq_some_iff.1 hi
  have hsplit : code = code.take start ++ i :: code.drop (start + 1) := by
    rw [← hget, List.getElem_cons_drop, List.take_append_drop]
  have hdepth : depthAfter? 0 code = some 0 := hw.balanced
  rw [hsplit, depthAfter?, List.foldlM_append] at hdepth
  exact Option.bind_eq_some_iff.1 hdepth

lemma exists_loopSpan? {guard : String} (hw : WellNested code)
    (hi : code[start]? = some ⟨.loopStart guard, line⟩) :
    ∃ n, loopSpan? 0 (code.drop (start + 1)) = some n := by
  obtain ⟨opened, -, hrest⟩ := hw.exists_depth hi
  have hclosed : depthAfter? (opened + 1) (code.drop (start + 1)) = some 0 := hrest
  exact loopSpan?_of_depthAfter? hclosed (by omega)

lemma closes {condition : String} (hw : WellNested code)
    (hi : code[start]? = some ⟨.ifStart condition, line⟩) : Closes (code.drop (start + 1)) := by
  obtain ⟨hlt, hget⟩ := List.getElem?_eq_some_iff.1 hi
  exact hw.conditionals start hlt (by rw [hget]; rfl)

/-- A conditional is left into the loops it stands in. -/
lemma openAt_ifExit {condition : String} {exit : Nat} (hw : WellNested code)
    (hi : code[start]? = some ⟨.ifStart condition, line⟩) (hexit : ifExit code start = .ok exit) :
    openAt code exit = openAt code start := by
  obtain ⟨hfollows, hbalanced⟩ := hw.closes hi
  have hspan := ifSpan?_of_exists hfollows
  have hbody : SegmentAt code (start + 1) ((code.drop (start + 1)).takeWhile (·.op ≠ .ifEnd)) :=
    List.takeWhile_prefix _
  generalize (code.drop (start + 1)).takeWhile (·.op ≠ .ifEnd) = body at hbalanced hspan hbody
  simp only [ifExit, hspan] at hexit
  cases hexit
  obtain ⟨line, hend⟩ := getElem?_of_ifSpan? hspan
  rw [List.getElem?_drop] at hend
  rw [← Nat.add_assoc, openAt_of_other hend (by simp) (by simp),
    openAt_of_balanced hbody hbalanced, openAt_of_other hi (by simp) (by simp)]

end WellNested

/-- A loop is left into the loops it stands in. -/
lemma openAt_loopExit {code : List Instruction} {guard : String} {start line exit : Nat}
    (hi : code[start]? = some ⟨.loopStart guard, line⟩) (hexit : loopExit code start = .ok exit) :
    openAt code exit = openAt code start := by
  unfold loopExit at hexit
  split at hexit
  · next n hn =>
    cases hexit
    have hrest : SegmentAt code (start + 1) (code.drop (start + 1)) := List.prefix_rfl
    rw [openAt_of_loopSpan? hrest hn, openAt_of_loopStart hi rfl, List.drop_one, List.tail_cons]
  · cases hexit

end Blocks

/-! ### The loops a machine is in -/

/-- **The machine is in the loops that are open at its instruction.** At the start of a loop it may
also be in that loop, when it has come back to it. -/
structure Machine.Nested (code : List Instruction) (m : Machine) : Prop where
  inside : m.pc ≤ code.length
  loops : m.loops = Blocks.openAt code m.pc ∨
    (∃ guard line, code[m.pc]? = some ⟨.loopStart guard, line⟩) ∧
      m.loops = m.pc :: Blocks.openAt code m.pc

namespace Machine.Nested

open Blocks

variable {code : List Instruction} {m m' : Machine} {i : Instruction}

/-- Away from the start of a loop there is nothing to come back to. -/
lemma loops_of_ne (hm : m.Nested code) (hi : code[m.pc]? = some i)
    (hop : ∀ guard, i.op ≠ .loopStart guard) : m.loops = openAt code m.pc := by
  rcases hm.loops with hloops | ⟨⟨guard, line, hi'⟩, -⟩
  · exact hloops
  · rw [hi] at hi'
    cases hi'
    exact absurd rfl (hop guard)

lemma head?_openAt_ne (pc : Nat) : (openAt code pc).head? ≠ some pc := by
  rcases hopen : openAt code pc with _ | ⟨start, outer⟩
  · simp
  · have := (openAt_eq_cons hopen).1
    simp only [List.head?_cons, ne_eq, Option.some.injEq]
    omega

lemma enterLoop_loops (hm : m.Nested code) :
    enterLoop m.loops m.pc = m.pc :: openAt code m.pc := by
  rcases hm.loops with hloops | ⟨-, hloops⟩
  · rw [hloops, enterLoop, if_neg (head?_openAt_ne m.pc)]
  · rw [hloops]
    exact if_pos rfl

lemma leaveLoop_loops (hm : m.Nested code) : leaveLoop m.loops m.pc = openAt code m.pc := by
  rcases hm.loops with hloops | ⟨-, hloops⟩
  · rw [hloops, leaveLoop, if_neg (head?_openAt_ne m.pc)]
  · rw [hloops]
    exact if_pos rfl

/-- **An instruction of well-nested code keeps the machine in the open loops.** -/
theorem jump (hw : WellNested code) (hm : m.Nested code) (h : m.Jump code m') : m'.Nested code := by
  cases h with
  | next at_pc not_start not_end =>
    have := (List.getElem?_eq_some_iff.1 at_pc).1
    refine ⟨this, Or.inl ?_⟩
    exact (hm.loops_of_ne at_pc not_start).trans (openAt_of_other at_pc not_start not_end).symm
  | enter at_pc =>
    have := (List.getElem?_eq_some_iff.1 at_pc).1
    refine ⟨this, Or.inl ?_⟩
    exact hm.enterLoop_loops.trans (openAt_of_loopStart at_pc rfl).symm
  | skipLoop at_pc found =>
    refine ⟨(loopExit_bounds found).2, Or.inl ?_⟩
    exact hm.leaveLoop_loops.trans (openAt_loopExit at_pc found).symm
  | back at_pc innermost =>
    have hloops := hm.loops_of_ne at_pc (by simp)
    obtain ⟨hlt, hstart, houter⟩ := openAt_eq_cons (hloops.symm.trans innermost)
    have hle := hm.inside
    -- back at its start the loop is not open yet, but it is still on the list
    refine ⟨by dsimp only; omega, Or.inr ⟨hstart, ?_⟩⟩
    exact innermost.trans (by rw [houter])
  | skipIf at_pc found =>
    refine ⟨(ifExit_bounds found).2, Or.inl ?_⟩
    exact (hm.loops_of_ne at_pc (by simp)).trans (hw.openAt_ifExit at_pc found).symm

/-- **A machine that has come to the end of well-nested code is in no loop.** -/
theorem eq_of_isHalted {p : Program} (hw : WellNested p.instructions) (hm : m.Nested p.instructions)
    (h : m.isHalted p) : m.pc = p.instructions.length ∧ m.loops = [] := by
  have hpc : m.pc = p.instructions.length :=
    Nat.le_antisymm hm.inside (by simpa [isHalted] using h)
  refine ⟨hpc, ?_⟩
  rcases hm.loops with hloops | ⟨⟨guard, line, hi⟩, -⟩
  · have hend := openAt_of_balanced (.whole p.instructions) hw.balanced
    rw [hloops, hpc, ← Nat.zero_add p.instructions.length, hend]
    rfl
  · rw [hpc] at hi
    simp at hi

end Machine.Nested

end RobotScript
