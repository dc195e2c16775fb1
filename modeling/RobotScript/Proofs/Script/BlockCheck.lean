import RobotScript.Proofs.Run.Fault
import RobotScript.Proofs.Structured.Nesting

/-!
The check of the blocks of a program is exact, and enough for its runs.

The check looks for the end of every block, one search for each start. What it finds can be said
by counting alone: `Blocks.Unclosed` says that a block has no end without searching for one, and
`Blocks.closed_iff` that no block is unclosed exactly if every suffix of the program closes as
many loops as it opens and no `если` comes after the last `все`. A dispatch misses the end of a
block only at an unclosed one (`unclosed_of_step`), so a program that passes the check never runs
into one, whatever happens to the field. The main statement is `blockFault?_exact`.
-/

namespace RobotScript

namespace Blocks

/-! ### Counting loops -/

/-- How many loops are opened in a piece of code. -/
def loopStarts (code : List Instruction) : Nat := code.countP (·.op.isLoopStart)

/-- How many loops are closed in a piece of code. -/
def loopEnds (code : List Instruction) : Nat := code.countP (·.op = .loopEnd)

section Counting

variable {depth n : Nat} {i : Instruction} {code others : List Instruction}

@[simp] lemma loopStarts_nil : loopStarts [] = 0 := rfl

@[simp] lemma loopEnds_nil : loopEnds [] = 0 := rfl

@[simp] lemma loopStarts_append :
    loopStarts (code ++ others) = loopStarts code + loopStarts others :=
  List.countP_append

@[simp] lemma loopEnds_append : loopEnds (code ++ others) = loopEnds code + loopEnds others :=
  List.countP_append

lemma counts_of_loopStart {guard : String} (hop : i.op = .loopStart guard)
    (code : List Instruction) :
    loopStarts (i :: code) = loopStarts code + 1 ∧ loopEnds (i :: code) = loopEnds code := by
  simp [loopStarts, loopEnds, hop, Op.isLoopStart]

lemma counts_of_loopEnd (hop : i.op = .loopEnd) (code : List Instruction) :
    loopStarts (i :: code) = loopStarts code ∧ loopEnds (i :: code) = loopEnds code + 1 := by
  simp [loopStarts, loopEnds, hop, Op.isLoopStart]

lemma counts_of_other (hstart : ∀ guard, i.op ≠ .loopStart guard) (hend : i.op ≠ .loopEnd)
    (code : List Instruction) :
    loopStarts (i :: code) = loopStarts code ∧ loopEnds (i :: code) = loopEnds code := by
  obtain ⟨op, line⟩ := i
  cases op with
  | loopStart guard => exact absurd rfl (hstart guard)
  | loopEnd => exact absurd rfl hend
  | command _ | ifStart _ | ifEnd => simp [loopStarts, loopEnds, Op.isLoopStart]

/-- The code of a span closes one loop more than it opens, beyond those that were open inside. -/
lemma loopEnds_of_loopSpan? (h : loopSpan? depth code = some n) :
    loopEnds (code.take n) = loopStarts (code.take n) + depth + 1 := by
  induction code generalizing depth n with
  | nil => cases h
  | cons i code ih =>
    obtain ⟨guard, k, hop, rfl, hk⟩ | ⟨hop, rfl, rfl⟩ | ⟨d, k, hop, rfl, rfl, hk⟩ |
      ⟨k, hstart, hend, rfl, hk⟩ := loopSpan?_cases h
    · have hcounts := counts_of_loopStart hop (code.take k)
      have := ih hk
      rw [List.take_succ_cons]
      omega
    · have hcounts := counts_of_loopEnd hop (code.take 0)
      simp only [List.take_zero, loopStarts_nil, loopEnds_nil] at hcounts
      rw [List.take_succ_cons, List.take_zero]
      omega
    · have hcounts := counts_of_loopEnd hop (code.take k)
      have := ih hk
      rw [List.take_succ_cons]
      omega
    · have hcounts := counts_of_other hstart hend (code.take k)
      have := ih hk
      rw [List.take_succ_cons]
      omega

/-- Code without a span never closes more loops than it opens, beyond those that were open. -/
lemma loopEnds_le_of_loopSpan? (h : loopSpan? depth code = none) (n : Nat) :
    loopEnds (code.take n) ≤ loopStarts (code.take n) + depth := by
  induction code generalizing depth n with
  | nil => simp
  | cons i code ih =>
    cases n with
    | zero => simp
    | succ n =>
      rw [List.take_succ_cons]
      by_cases hstart : ∃ guard, i.op = .loopStart guard
      · obtain ⟨guard, hop⟩ := hstart
        have hcounts := counts_of_loopStart hop (code.take n)
        simp only [loopSpan?, hop, Option.map_eq_none_iff] at h
        have := ih h n
        omega
      by_cases hend : i.op = .loopEnd
      · have hcounts := counts_of_loopEnd hend (code.take n)
        cases depth with
        | zero => simp only [loopSpan?, hend, reduceCtorEq] at h
        | succ depth =>
          simp only [loopSpan?, hend, Option.map_eq_none_iff] at h
          have := ih h n
          omega
      · have hother : ∀ guard, i.op ≠ .loopStart guard := fun guard hop => hstart ⟨guard, hop⟩
        have hcounts := counts_of_other hother hend (code.take n)
        rw [loopSpan?_of_other hother hend, Option.map_eq_none_iff] at h
        have := ih h n
        omega

/-- **A loop has no end exactly if no stretch of the code behind it closes more loops than it
opens.** -/
theorem loopSpan?_eq_none_iff :
    loopSpan? depth code = none ↔
      ∀ n, loopEnds (code.take n) ≤ loopStarts (code.take n) + depth := by
  constructor
  · exact fun h n => loopEnds_le_of_loopSpan? h n
  · intro h
    by_contra hspan
    obtain ⟨n, hn⟩ := Option.ne_none_iff_exists'.1 hspan
    have hclosed := loopEnds_of_loopSpan? hn
    have := h n
    omega

lemma ifSpan?_eq_none_iff : ifSpan? code = none ↔ ∀ i ∈ code, i.op ≠ .ifEnd := by
  rw [ifSpan?, Option.map_eq_none_iff, List.findIdx?_eq_none_iff]
  simp

end Counting

/-! ### Unclosed blocks -/

/-- **The block that starts at an index has no end**, and this is the failure that tells so: no
stretch behind a loop closes more loops than it opens, or no `все` follows a conditional. -/
inductive Unclosed (code : List Instruction) (start : Nat) : Failure → Prop
  | loop {guard : String} {line : Nat} (at_start : code[start]? = some ⟨.loopStart guard, line⟩)
      (unended : ∀ n, loopEnds ((code.drop (start + 1)).take n) ≤
        loopStarts ((code.drop (start + 1)).take n)) :
      Unclosed code start (.unterminatedLoop line)
  | conditional {condition : String} {line : Nat}
      (at_start : code[start]? = some ⟨.ifStart condition, line⟩)
      (unended : ∀ i ∈ code.drop (start + 1), i.op ≠ .ifEnd) :
      Unclosed code start (.unterminatedConditional line)

section Unclosed

variable {code : List Instruction} {start : Nat} {failure : Failure}

/-- **A block is unclosed exactly if the search for its end fails**, and for that reason. -/
theorem unclosed_iff :
    Unclosed code start failure ↔
      (∃ guard line, code[start]? = some ⟨.loopStart guard, line⟩ ∧
        loopExit code start = .error failure) ∨
      ∃ condition line, code[start]? = some ⟨.ifStart condition, line⟩ ∧
        ifExit code start = .error failure := by
  constructor
  · intro h
    cases h with
    | @loop guard line at_start unended =>
      have hspan : loopSpan? 0 (code.drop (start + 1)) = none :=
        loopSpan?_eq_none_iff.2 fun n => unended n
      have hline := lineAt_of_getElem? at_start
      exact Or.inl ⟨guard, line, at_start, loopExit_eq_error_iff.2 ⟨hspan, by rw [hline]⟩⟩
    | @conditional condition line at_start unended =>
      have hspan := ifSpan?_eq_none_iff.2 unended
      have hline := lineAt_of_getElem? at_start
      exact Or.inr ⟨condition, line, at_start, ifExit_eq_error_iff.2 ⟨hspan, by rw [hline]⟩⟩
  · rintro (⟨guard, line, hi, hexit⟩ | ⟨condition, line, hi, hexit⟩)
    · obtain ⟨hspan, rfl⟩ := loopExit_eq_error_iff.1 hexit
      rw [lineAt_of_getElem? hi]
      exact .loop hi fun n => loopSpan?_eq_none_iff.1 hspan n
    · obtain ⟨hspan, rfl⟩ := ifExit_eq_error_iff.1 hexit
      rw [lineAt_of_getElem? hi]
      exact .conditional hi (ifSpan?_eq_none_iff.1 hspan)

lemma fault?_eq_some_iff {exit : Except Failure Nat} :
    fault? exit = some failure ↔ exit = .error failure := by
  cases exit <;> simp [fault?]

lemma blockFault?_eq_some_iff :
    blockFault? code start = some failure ↔ Unclosed code start failure := by
  rw [unclosed_iff]
  unfold blockFault?
  split
  · next guard line hi => simp [hi, fault?_eq_some_iff]
  · next condition line hi => simp [hi, fault?_eq_some_iff]
  · next hloop hif =>
    constructor
    · intro h
      cases h
    · rintro (⟨guard, line, hi, -⟩ | ⟨condition, line, hi, -⟩)
      · exact absurd hi (hloop guard line)
      · exact absurd hi (hif condition line)

lemma blockFault?_eq_none_iff :
    blockFault? code start = none ↔ ∀ failure, ¬ Unclosed code start failure := by
  rw [Option.eq_none_iff_forall_ne_some]
  exact forall_congr' fun failure => not_congr blockFault?_eq_some_iff

lemma Unclosed.lt_length (h : Unclosed code start failure) : start < code.length := by
  cases h with
  | loop at_start => exact (List.getElem?_eq_some_iff.1 at_start).1
  | conditional at_start => exact (List.getElem?_eq_some_iff.1 at_start).1

end Unclosed

/-! ### Counting from the end -/

/-- **Every loop of the code is closed**: each suffix closes as many loops as it opens. -/
def LoopsClosed (code : List Instruction) : Prop :=
  ∀ k, loopStarts (code.drop k) ≤ loopEnds (code.drop k)

/-- **Every conditional of the code is closed**: none comes after the last `все`, so a suffix
without a `все` has none. -/
def ConditionalsClosed (code : List Instruction) : Prop :=
  ∀ k, (∀ i ∈ code.drop k, i.op ≠ .ifEnd) → ∀ i ∈ code.drop k, i.op.isIfStart = false

section Suffixes

variable {code : List Instruction}

/-- Past the end of a loop that starts a suffix the suffix is shorter, and up to there it is even. -/
lemma loopsClosed_of_ended
    (h : ∀ start failure, ¬ Unclosed code start failure) : LoopsClosed code := by
  intro k
  induction hlen : code.length - k using Nat.strongRecOn generalizing k with
  | ind len ih =>
    rcases Nat.lt_or_ge k code.length with hk | hk
    · have hdrop : code.drop k = code[k] :: code.drop (k + 1) := List.drop_eq_getElem_cons hk
      by_cases hstart : ∃ guard, code[k].op = .loopStart guard
      · obtain ⟨guard, hop⟩ := hstart
        have hi : code[k]? = some ⟨.loopStart guard, code[k].line⟩ := by
          rw [List.getElem?_eq_getElem hk, ← hop]
        have hspan : loopSpan? 0 (code.drop (k + 1)) ≠ none := by
          intro hnone
          exact h k _ (.loop hi fun n => loopSpan?_eq_none_iff.1 hnone n)
        obtain ⟨n, hn⟩ := Option.ne_none_iff_exists'.1 hspan
        have hpos := (loopSpan?_bounds hn).1
        have heven := loopEnds_of_loopSpan? hn
        have hrest := ih (code.length - (k + 1 + n)) (by omega) (k + 1 + n) rfl
        have hsplit : code.drop (k + 1) =
            (code.drop (k + 1)).take n ++ code.drop (k + 1 + n) := by
          have h := (List.take_append_drop n (code.drop (k + 1))).symm
          rwa [List.drop_drop] at h
        have hcounts := counts_of_loopStart hop (code.drop (k + 1))
        rw [hsplit, loopStarts_append, loopEnds_append] at hcounts
        rw [hdrop, hsplit]
        omega
      · have hrest := ih (code.length - (k + 1)) (by omega) (k + 1) rfl
        have hother : ∀ guard, code[k].op ≠ .loopStart guard := fun guard hop =>
          hstart ⟨guard, hop⟩
        rw [hdrop]
        by_cases hend : code[k].op = .loopEnd
        · have hcounts := counts_of_loopEnd hend (code.drop (k + 1))
          omega
        · have hcounts := counts_of_other hother hend (code.drop (k + 1))
          omega
    · rw [List.drop_eq_nil_of_le hk]
      simp

lemma conditionalsClosed_of_ended
    (h : ∀ start failure, ¬ Unclosed code start failure) : ConditionalsClosed code := by
  intro k hnone i hi
  obtain ⟨j, hj⟩ := List.mem_iff_getElem?.1 hi
  rw [List.getElem?_drop] at hj
  obtain ⟨op, line⟩ := i
  cases op with
  | ifStart condition =>
    have hlater : ∀ i ∈ code.drop (k + j + 1), i.op ≠ .ifEnd := by
      intro i hi
      apply hnone i
      have hsuffix : code.drop (k + (j + 1)) <:+ code.drop k := by
        rw [← List.drop_drop]
        exact List.drop_suffix _ _
      exact hsuffix.subset hi
    exact absurd (.conditional hj hlater) (h (k + j) _)
  | command _ | loopStart _ | loopEnd | ifEnd => rfl

/-- **No block is unclosed exactly if the counts of every suffix say so.** -/
theorem closed_iff :
    (∀ start failure, ¬ Unclosed code start failure) ↔
      LoopsClosed code ∧ ConditionalsClosed code := by
  constructor
  · exact fun h => ⟨loopsClosed_of_ended h, conditionalsClosed_of_ended h⟩
  · rintro ⟨hloops, hconditionals⟩ start failure hopen
    have hlt := hopen.lt_length
    have hdrop : code.drop start = code[start] :: code.drop (start + 1) :=
      List.drop_eq_getElem_cons hlt
    cases hopen with
    | @loop guard line at_start unended =>
      -- the whole rest behind the loop is one of the stretches that close no more than they open
      have hrest := unended (code.drop (start + 1)).length
      rw [List.take_length] at hrest
      have hop : code[start].op = .loopStart guard := by
        rw [(List.getElem?_eq_some_iff.1 at_start).2]
      have hcounts := counts_of_loopStart hop (code.drop (start + 1))
      have hsuffix := hloops start
      rw [hdrop] at hsuffix
      omega
    | conditional at_start unended =>
      have hget := (List.getElem?_eq_some_iff.1 at_start).2
      rw [hget] at hdrop
      have hnone : ∀ i ∈ code.drop start, i.op ≠ .ifEnd := by
        rw [hdrop]
        exact List.forall_mem_cons.2 ⟨by simp, unended⟩
      have hstart := hconditionals start hnone _ (hdrop ▸ List.mem_cons_self)
      simp [Op.isIfStart] at hstart

end Suffixes

end Blocks

/-! ### The check of a program -/

open Blocks

section Check

variable {p : Program} {failure : Failure}

/-- The first index at which a search along the indices finds something. -/
lemma findSome?_range_eq_some_iff {β : Type} {find : Nat → Option β} {n : Nat} {b : β} :
    (List.range n).findSome? find = some b ↔
      ∃ k < n, find k = some b ∧ ∀ j < k, find j = none := by
  induction n with
  | zero => simp
  | succ n ih =>
    rw [List.range_succ, List.findSome?_append, Option.or_eq_some_iff, ih,
      List.findSome?_eq_none_iff]
    constructor
    · rintro (⟨k, hk, hb, hfirst⟩ | ⟨hnone, hb⟩)
      · exact ⟨k, by omega, hb, hfirst⟩
      · refine ⟨n, by omega, by simpa using hb, fun j hj => ?_⟩
        exact hnone j (List.mem_range.2 hj)
    · rintro ⟨k, hk, hb, hfirst⟩
      by_cases hkn : k < n
      · exact Or.inl ⟨k, hkn, hb, hfirst⟩
      · obtain rfl : k = n := by omega
        right
        exact ⟨fun j hj => hfirst j (List.mem_range.1 hj), by simpa using hb⟩

/-- **The check tells of the first unclosed block.** -/
theorem Program.blockFault?_eq_some_iff :
    p.blockFault? = some failure ↔
      ∃ start, Unclosed p.instructions start failure ∧
        ∀ k < start, ∀ other, ¬ Unclosed p.instructions k other := by
  rw [Program.blockFault?, findSome?_range_eq_some_iff]
  simp only [Blocks.blockFault?_eq_some_iff, Blocks.blockFault?_eq_none_iff]
  constructor
  · rintro ⟨start, -, hopen, hfirst⟩
    exact ⟨start, hopen, hfirst⟩
  · rintro ⟨start, hopen, hfirst⟩
    exact ⟨start, hopen.lt_length, hopen, hfirst⟩

lemma Program.blockFault?_eq_none_iff :
    p.blockFault? = none ↔ ∀ start failure, ¬ Unclosed p.instructions start failure := by
  rw [Program.blockFault?, List.findSome?_eq_none_iff]
  simp only [Blocks.blockFault?_eq_none_iff, List.mem_range]
  constructor
  · exact fun h start failure hopen => h start hopen.lt_length failure hopen
  · exact fun h start _ => h start

/-! ### Runs of a program that passes the check -/

/-- Whether a failure is about a block without an end. -/
def Failure.isUnterminated : Failure → Bool
  | unterminatedLoop _ => true
  | unterminatedConditional _ => true
  | _ => false

/-- **A dispatch misses the end of a block only at an unclosed one.** -/
theorem unclosed_of_step {e : Engine} {m : Machine} {f : Field}
    (h : (m.step e p f).result = .error failure) (hkind : failure.isUnterminated) :
    Unclosed p.instructions m.pc failure := by
  rcases fault_step h with ⟨rfl, -⟩ | hfault
  · cases hkind
  cases hfault with
  | openLoop at_pc leaves noEnd => exact .loop at_pc fun n => loopSpan?_eq_none_iff.1 noEnd n
  | openConditional at_pc skips noEnd => exact .conditional at_pc (ifSpan?_eq_none_iff.1 noEnd)
  | unknownWord | wall | guard | strayEnd | condition => cases hkind

end Check

/-- **The check of the blocks is exact, and enough for every run.** A program passes it exactly if
each suffix closes as many loops as it opens and no `если` comes after the last `все`. A block is
unclosed exactly if the search for its end fails, and a program that does not pass gets the failure
of its first unclosed block, which tells the kind and the line of that block. If a program passes,
no dispatch of it misses the end of a block, whatever the engine, the machine and the field are, so
no sequence of dispatches does, with the field changed in any way between them; and if a dispatch
does, it stands at an unclosed block and the program does not pass. -/
theorem blockFault?_exact (p : Program) :
    (p.blockFault? = none ↔ LoopsClosed p.instructions ∧ ConditionalsClosed p.instructions) ∧
    (∀ start failure, Unclosed p.instructions start failure ↔
      (∃ guard line, p.instructions[start]? = some ⟨.loopStart guard, line⟩ ∧
        loopExit p.instructions start = .error failure) ∨
      ∃ condition line, p.instructions[start]? = some ⟨.ifStart condition, line⟩ ∧
        ifExit p.instructions start = .error failure) ∧
    (∀ failure, p.blockFault? = some failure ↔
      ∃ start, Unclosed p.instructions start failure ∧
        ∀ k < start, ∀ other, ¬ Unclosed p.instructions k other) ∧
    (p.blockFault? = none → ∀ (e : Engine) (m : Machine) (f : Field) (line : Nat),
      (m.step e p f).result ≠ .error (.unterminatedLoop line) ∧
      (m.step e p f).result ≠ .error (.unterminatedConditional line)) ∧
    ∀ (e : Engine) (m : Machine) (f : Field) (failure : Failure),
      (m.step e p f).result = .error failure → failure.isUnterminated →
        Unclosed p.instructions m.pc failure ∧ p.blockFault?.isSome := by
  have hpasses : ∀ (e : Engine) (m : Machine) (f : Field) (failure : Failure),
      (m.step e p f).result = .error failure → failure.isUnterminated → p.blockFault? ≠ none := by
    intro e m f failure h hkind hnone
    exact Program.blockFault?_eq_none_iff.1 hnone m.pc failure (unclosed_of_step h hkind)
  refine ⟨Program.blockFault?_eq_none_iff.trans closed_iff, fun start failure => unclosed_iff,
    fun failure => Program.blockFault?_eq_some_iff, fun hnone e m f line => ⟨?_, ?_⟩,
    fun e m f failure h hkind => ⟨unclosed_of_step h hkind, ?_⟩⟩
  · exact fun h => hpasses e m f _ h rfl hnone
  · exact fun h => hpasses e m f _ h rfl hnone
  · exact Option.isSome_iff_ne_none.2 (hpasses e m f failure h hkind)

/-- A loop and a conditional that overlap pass the check, so no dispatch misses their ends. With a
second `если` at the end the program does not pass, and a machine that is sent there fails. -/
theorem blockFault?_exact_of_overlap :
    let code : List Instruction := [⟨.loopStart "слева свободно", 1⟩, ⟨.ifStart "сверху стена", 2⟩,
      ⟨.loopEnd, 3⟩, ⟨.ifEnd, 4⟩]
    let p : Program := ⟨code, []⟩
    let q : Program := ⟨code ++ [⟨.ifStart "слева свободно", 7⟩], []⟩
    let e : Engine := {}
    (p.blockFault? = none ∧
      ((⟨0, [], 0⟩ : Machine).step e p default).result ≠ .error (.unterminatedLoop 1)) ∧
    ((⟨4, [], 0⟩ : Machine).step e q default).result = .error (.unterminatedConditional 7) ∧
      Unclosed q.instructions 4 (.unterminatedConditional 7) ∧ q.blockFault?.isSome := by
  intro code p q e
  have hpasses : p.blockFault? = none := by decide +kernel
  have hfails : ((⟨4, [], 0⟩ : Machine).step e q default).result =
      .error (.unterminatedConditional 7) := by decide +kernel
  exact ⟨⟨hpasses, ((blockFault?_exact p).2.2.2.1 hpasses e _ default 1).1⟩, hfails,
    (blockFault?_exact q).2.2.2.2 e _ default _ hfails rfl⟩

end RobotScript
