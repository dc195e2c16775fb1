import RobotScript.Proofs.Run.Limit
import RobotScript.Proofs.Structured.Nesting

/-!
Running one program after another.

A machine keeps absolute indices of its loops and searches the whole program for the end of a block.
Well-nested code is closed against both: what stands behind it changes none of its jumps
(`unlimitedAdvance_append`), and it is left with an empty list of loops. What stands in front of a
program only shifts it (`unlimitedAdvance_relocate`). The main statement is `execute_append`: a
well-nested program and any other one behind it run like the two one after the other.
-/

namespace RobotScript

/-- The instructions of one program with those of another behind them. -/
def Program.append (p q : Program) : Program where
  instructions := p.instructions ++ q.instructions
  skipped := p.skipped ++ q.skipped

instance : Append Program := ⟨Program.append⟩

@[simp] lemma Program.instructions_append (p q : Program) :
    (p ++ q).instructions = p.instructions ++ q.instructions := rfl

/-! ### Code behind a program -/

section Behind

open Blocks

variable {e : Engine} {p q : Program} {code others : List Instruction} {m : Machine} {f : Field}
  {start line n : Nat} {i : Instruction} {u v : Underway}

lemma drop_append_of_getElem? (hi : code[start]? = some i) :
    (code ++ others).drop (start + 1) = code.drop (start + 1) ++ others := by
  have hlt := (List.getElem?_eq_some_iff.1 hi).1
  exact List.drop_append_of_le_length hlt

lemma loopExit_append {guard : String} (hw : WellNested code)
    (hi : code[start]? = some ⟨.loopStart guard, line⟩) :
    loopExit (code ++ others) start = loopExit code start := by
  obtain ⟨n, hn⟩ := hw.exists_loopSpan? hi
  simp only [loopExit, drop_append_of_getElem? hi, loopSpan?_append hn, hn]

lemma ifExit_append {condition : String} (hw : WellNested code)
    (hi : code[start]? = some ⟨.ifStart condition, line⟩) :
    ifExit (code ++ others) start = ifExit code start := by
  have hspan := ifSpan?_of_exists (hw.closes hi).1
  simp only [ifExit, drop_append_of_getElem? hi, ifSpan?_append hspan, hspan]

/-- What stands behind well-nested code does not change its instructions. -/
lemma dispatch_append (hw : WellNested code) (hi : code[m.pc]? = some i) :
    Machine.dispatch e (code ++ others) i m f = Machine.dispatch e code i m f := by
  obtain ⟨op, line⟩ := i
  cases op with
  | loopStart guard => simp only [Machine.dispatch, Machine.runLoopStart, loopExit_append hw hi]
  | ifStart condition => simp only [Machine.dispatch, Machine.runIfStart, ifExit_append hw hi]
  | command _ | loopEnd | ifEnd => rfl

/-- **A program behind well-nested code does not change its dispatches.** -/
theorem unlimitedAdvance_append (hw : WellNested p.instructions) (hend : ¬m.isHalted p) :
    unlimitedAdvance e (p ++ q) m f = unlimitedAdvance e p m f := by
  rcases hi : p.instructions[m.pc]? with _ | i
  · exact absurd (isHalted_of_getElem? hi) hend
  have hlt := (List.getElem?_eq_some_iff.1 hi).1
  have happend : (p ++ q).instructions[m.pc]? = p.instructions[m.pc]? :=
    List.getElem?_append_left hlt
  have hline : lineAt (p ++ q).instructions m.pc = lineAt p.instructions m.pc := by
    rw [lineAt, happend, lineAt]
  rw [unlimitedAdvance_of_getElem? (happend.trans hi), unlimitedAdvance_of_getElem? hi,
    Program.instructions_append, dispatch_append (m := m.counted) hw hi]
  simp only [Dispatched.advance, hline]

theorem unlimited?_append (hw : WellNested p.instructions) (h : e.unlimited? p u n = some v) :
    e.unlimited? (p ++ q) u n = some v := by
  refine Engine.unlimited?_induction (motive := fun n v => e.unlimited? (p ++ q) u n = some v) rfl
    (fun n v ih ha => ?_) h
  have hadvance := unlimitedAdvance_append (e := e) (q := q) (f := v.field) hw
    (not_isHalted_of_goesOn ha)
  rw [← hadvance] at ha ⊢
  exact Engine.unlimited?_succ ih ha

/-- A run of well-nested code stays in the open loops. -/
lemma nested_of_unlimited? (hw : WellNested p.instructions)
    (h : e.unlimited? p { field := f } n = some v) : v.machine.Nested p.instructions := by
  refine Engine.unlimited?_induction (motive := fun _ v => v.machine.Nested p.instructions)
    ⟨Nat.zero_le _, Or.inl rfl⟩ (fun n v ih ha => ?_) h
  have hcounted : v.machine.counted.Nested p.instructions := ⟨ih.inside, ih.loops⟩
  exact hcounted.jump hw (jump_of_goesOn ha)

end Behind

/-! ### Code in front of a program -/

/-- The machine of a program that stands behind `base` instructions and is reached after `count`
dispatches. -/
def Machine.relocate (base count : Nat) (m : Machine) : Machine where
  pc := base + m.pc
  loops := m.loops.map (base + ·)
  dispatched := count + m.dispatched

def Tick.relocate (base : Nat) (t : Tick) : Tick := { t with index := base + t.index }

def Progress.relocate (base : Nat) : Progress → Progress
  | .ticked tick => .ticked (tick.relocate base)
  | progress => progress

def Advance.relocate (base count : Nat) (a : Advance) : Advance where
  progress := a.progress.relocate base
  machine := a.machine.relocate base count
  field := a.field

def Dispatched.relocate (base count : Nat) (d : Dispatched) : Dispatched :=
  { d with machine := d.machine.relocate base count }

section InFront

variable {e : Engine} {p q : Program} {before code : List Instruction} {m : Machine} {f : Field}
  {base count start line : Nat} {i : Instruction} {loops : List Nat}

lemma getElem?_relocate : (before ++ code)[before.length + start]? = code[start]? := by
  rw [List.getElem?_append_right (Nat.le_add_right ..), Nat.add_sub_cancel_left]

lemma lineAt_relocate : lineAt (before ++ code) (before.length + start) = lineAt code start := by
  rw [lineAt, getElem?_relocate, lineAt]

lemma drop_relocate : (before ++ code).drop (before.length + start + 1) = code.drop (start + 1) := by
  rw [Nat.add_assoc, List.drop_length_add_append]

lemma loopExit_relocate :
    loopExit (before ++ code) (before.length + start) =
      (loopExit code start).map (before.length + ·) := by
  simp only [loopExit, drop_relocate, lineAt_relocate]
  split
  · simp only [Except.map]
    congr 1
    omega
  · rfl

lemma ifExit_relocate :
    ifExit (before ++ code) (before.length + start) =
      (ifExit code start).map (before.length + ·) := by
  simp only [ifExit, drop_relocate, lineAt_relocate]
  split
  · simp only [Except.map]
    congr 1
    omega
  · rfl

lemma head?_relocate :
    (loops.map (base + ·)).head? = some (base + start) ↔ loops.head? = some start := by
  cases loops <;> simp

lemma enterLoop_relocate :
    Machine.enterLoop (loops.map (base + ·)) (base + start) =
      (Machine.enterLoop loops start).map (base + ·) := by
  simp only [Machine.enterLoop, head?_relocate]
  split <;> rfl

lemma leaveLoop_relocate :
    Machine.leaveLoop (loops.map (base + ·)) (base + start) =
      (Machine.leaveLoop loops start).map (base + ·) := by
  simp only [Machine.leaveLoop, head?_relocate]
  split
  · rw [List.map_tail]
  · rfl

lemma runCommand_relocate {keyword : String} :
    Machine.runCommand e keyword line (m.relocate base count) f =
      (Machine.runCommand e keyword line m f).relocate base count := by
  unfold Machine.runCommand
  split
  · rfl
  · split <;> rfl

lemma runLoopStart_relocate {guard : String} :
    Machine.runLoopStart (before ++ code) guard line (m.relocate before.length count) f =
      (Machine.runLoopStart code guard line m f).relocate before.length count := by
  unfold Machine.runLoopStart
  split
  · rfl
  · simp only [Machine.relocate, Machine.next, enterLoop_relocate]
    rfl
  · simp only [Machine.relocate, leaveLoop_relocate, loopExit_relocate]
    rcases loopExit code m.pc with failure | exit <;> rfl

lemma runLoopEnd_relocate :
    Machine.runLoopEnd line (m.relocate base count) f =
      (Machine.runLoopEnd line m f).relocate base count := by
  obtain ⟨pc, loops, dispatched⟩ := m
  cases loops <;> rfl

lemma runIfStart_relocate {condition : String} :
    Machine.runIfStart (before ++ code) condition line (m.relocate before.length count) f =
      (Machine.runIfStart code condition line m f).relocate before.length count := by
  unfold Machine.runIfStart
  split
  · rfl
  · rfl
  · simp only [Machine.relocate, ifExit_relocate]
    rcases ifExit code m.pc with failure | exit <;> rfl

lemma dispatch_relocate :
    Machine.dispatch e (before ++ code) i (m.relocate before.length count) f =
      (Machine.dispatch e code i m f).relocate before.length count := by
  obtain ⟨op, line⟩ := i
  cases op with
  | command keyword => exact runCommand_relocate
  | loopStart guard => exact runLoopStart_relocate
  | loopEnd => exact runLoopEnd_relocate
  | ifStart condition => exact runIfStart_relocate
  | ifEnd => rfl

lemma isHalted_relocate :
    (m.relocate p.instructions.length count).isHalted (p ++ q) ↔ m.isHalted q := by
  simp [Machine.isHalted, Machine.relocate]

lemma advance_relocate (d : Dispatched) :
    (d.relocate p.instructions.length count).advance (p ++ q)
        (m.relocate p.instructions.length count) =
      (d.advance q m).relocate p.instructions.length count := by
  obtain ⟨failure | event | _ | _, _, _⟩ := d
  · rfl
  · have hline : lineAt (p ++ q).instructions (p.instructions.length + m.pc) =
        lineAt q.instructions m.pc := lineAt_relocate
    simp only [Dispatched.relocate, Dispatched.advance, Machine.relocate, hline]
    rfl
  · rfl
  · rfl

/-- **A program in front shifts a program behind it.** -/
theorem unlimitedAdvance_relocate :
    unlimitedAdvance e (p ++ q) (m.relocate p.instructions.length count) f =
      (unlimitedAdvance e q m f).relocate p.instructions.length count := by
  rcases hi : q.instructions[m.pc]? with _ | i
  · have hend := isHalted_of_getElem? hi
    rw [unlimitedAdvance_of_isHalted hend, unlimitedAdvance_of_isHalted (isHalted_relocate.2 hend)]
    rfl
  · have happend : (p ++ q).instructions[(m.relocate p.instructions.length count).pc]? = some i :=
      getElem?_relocate.trans hi
    rw [unlimitedAdvance_of_getElem? happend, unlimitedAdvance_of_getElem? hi, ← advance_relocate,
      ← dispatch_relocate]
    rfl

end InFront

/-! ### Two runs in a row -/

/-- The run `w` of a program that stands behind `base` instructions, after the run `v` of those. -/
def Underway.following (base : Nat) (v w : Underway) : Underway where
  machine := w.machine.relocate base v.machine.dispatched
  field := w.field
  ticks := w.ticks.map (Tick.relocate base) ++ v.ticks
  sightings := w.sightings ++ v.sightings

/-- The execution `x` of `p`, and after it the execution `y` of `q` behind `p`. -/
def Execution.following (p q : Program) (x y : Execution) : Execution where
  result := y.result.map fun s =>
    { ticks := x.last.ticks.reverse ++ s.ticks.map (Tick.relocate p.instructions.length)
      dispatched := x.last.machine.dispatched + s.dispatched
      cancelled := s.cancelled
      skipped := p.skipped ++ q.skipped }
  last := x.last.following p.instructions.length y.last

section InARow

open Blocks

variable {e : Engine} {p q : Program} {f : Field} {base k l n : Nat} {u v w : Underway}
  {x y : Execution} {a : Advance} {r s : Report} {failure : Failure}

lemma Underway.after_following :
    (v.following base w).after (a.relocate base v.machine.dispatched) =
      v.following base (w.after a) := by
  obtain ⟨progress, m, g⟩ := a
  cases progress with
  | failed failure => cases failure <;> rfl
  | halted | silent | ticked tick => rfl

lemma goesOn_relocate (progress : Progress) :
    (progress.relocate base).goesOn = progress.goesOn := by
  cases progress <;> rfl

lemma unlimitedAdvance_following :
    unlimitedAdvance e (p ++ q) (v.following p.instructions.length w).machine
        (v.following p.instructions.length w).field =
      (unlimitedAdvance e q w.machine w.field).relocate p.instructions.length
        v.machine.dispatched := unlimitedAdvance_relocate

theorem unlimited?_following (h : e.unlimited? q w n = some u) :
    e.unlimited? (p ++ q) (v.following p.instructions.length w) n =
      some (v.following p.instructions.length u) := by
  refine Engine.unlimited?_induction (motive := fun n u =>
    e.unlimited? (p ++ q) (v.following p.instructions.length w) n =
      some (v.following p.instructions.length u)) rfl (fun n u ih ha => ?_) h
  have hgoes : (unlimitedAdvance e (p ++ q) (v.following p.instructions.length u).machine
      (v.following p.instructions.length u).field).progress.goesOn := by
    rw [unlimitedAdvance_following]
    exact (goesOn_relocate _).trans ha
  have hnext := Engine.unlimited?_succ ih hgoes
  rw [unlimitedAdvance_following, Underway.after_following] at hnext
  exact hnext

/-- A run that has come to the end of well-nested code is where a run behind it starts. -/
lemma eq_following_of_isHalted (hw : WellNested p.instructions)
    (h : e.unlimited? p { field := f } k = some v) (hend : v.machine.isHalted p) :
    v = v.following p.instructions.length { field := v.field } := by
  obtain ⟨hpc, hloops⟩ := (nested_of_unlimited? hw h).eq_of_isHalted hw hend
  obtain ⟨⟨pc, loops, dispatched⟩, field, ticks, sightings⟩ := v
  dsimp only at hpc hloops
  subst hpc hloops
  rfl

lemma reverse_ticks_following :
    (v.following base w).ticks.reverse =
      v.ticks.reverse ++ w.ticks.reverse.map (Tick.relocate base) := by
  rw [Underway.following, List.reverse_append, List.map_reverse]

lemma finish_following :
    (v.following p.instructions.length w).finish (p ++ q) =
      (v.finish p).following p q (w.finish q) := by
  rw [Underway.finish, reverse_ticks_following]
  rfl

/-- A program ends behind another one as it does on its own. -/
theorem ends_following (h : e.Ends q w l y) :
    e.Ends (p ++ q) (v.following p.instructions.length w) l ((v.finish p).following p q y) := by
  cases h with
  | halt reached at_end =>
    rw [← finish_following]
    exact .halt (unlimited?_following reached) (isHalted_relocate.2 at_end)
  | @fail l u failure reached fails =>
    have hfails : (unlimitedAdvance e (p ++ q) (v.following p.instructions.length u).machine
        (v.following p.instructions.length u).field).progress = .failed failure := by
      rw [unlimitedAdvance_following, Advance.relocate, fails]
      rfl
    have hend := Engine.Ends.fail (unlimited?_following reached) hfails
    rw [unlimitedAdvance_following, Underway.after_following] at hend
    exact hend

/-- Well-nested code that fails does so whatever stands behind it. -/
theorem ends_append_of_error (hw : WellNested p.instructions) (h : e.Ends p u k x)
    (hx : x.result = .error failure) : e.Ends (p ++ q) u k x := by
  cases h with
  | halt => cases hx
  | @fail k v failure reached fails =>
    have hadvance := unlimitedAdvance_append (e := e) (q := q) (f := v.field) hw
      (not_isHalted_of_failed fails)
    rw [← hadvance] at fails ⊢
    exact .fail (unlimited?_append hw reached) fails

/-- **Well-nested code and a program behind it end as the two do in a row.** -/
theorem ends_append (hw : WellNested p.instructions) (hx : e.Ends p { field := f } k x)
    (hr : x.result = .ok r) (hy : e.Ends q { field := x.field } l y) :
    e.Ends (p ++ q) { field := f } (k + l) (x.following p q y) := by
  cases hx with
  | fail => cases hr
  | @halt k v reached at_end =>
    -- the run of `p` leaves no loop behind, so it stands where `q` starts
    have hstart : e.unlimited? (p ++ q) { field := f } k =
        some (v.following p.instructions.length { field := v.field }) := by
      rw [← eq_following_of_isHalted hw reached at_end]
      exact unlimited?_append hw reached
    exact .resumed hstart (ends_following hy)

end InARow

/-- **Well-nested programs compose.** Let a well-nested program run and, if it finishes, another one
on the field it leaves, and let neither run into its limit. With a limit of at least the dispatches
of both, the one program with the other behind it fails as the first one fails, and otherwise it ends
as the second one does, with the ticks, the dispatches and the events of both. -/
theorem execute_append (e : Engine) (p q : Program) (hp : Blocks.WellNested p.instructions)
    (f : Field) (a b m : Nat) :
    let first := (e.withLimit a).execute p f
    let second := (e.withLimit b).execute q first.field
    let both := (e.withLimit m).execute (p ++ q) f
    (∀ limit, first.result ≠ .error (.stepLimitExceeded limit)) →
    (∀ failure, first.result = .error failure → first.last.machine.dispatched ≤ m →
      both.result = .error failure ∧ both.last.ticks = first.last.ticks ∧
        both.sightings = first.sightings ∧ both.field = first.field) ∧
    ∀ r, first.result = .ok r → (∀ limit, second.result ≠ .error (.stepLimitExceeded limit)) →
      r.dispatched + second.last.machine.dispatched ≤ m →
      (∀ failure, second.result = .error failure → both.result = .error failure) ∧
      (∀ s, second.result = .ok s → both.result = .ok
        { ticks := r.ticks ++
            s.ticks.map fun t => { t with index := p.instructions.length + t.index }
          dispatched := r.dispatched + s.dispatched
          cancelled := false
          skipped := p.skipped ++ q.skipped }) ∧
      both.last.ticks.reverse = first.last.ticks.reverse ++
        (second.last.ticks.reverse.map fun t =>
          { t with index := p.instructions.length + t.index }) ∧
      both.last.machine.dispatched =
        first.last.machine.dispatched + second.last.machine.dispatched ∧
      both.sightings = first.sightings ++ second.sightings ∧
      both.field = second.field := by
  intro first second both hfirst
  obtain ⟨k, -, hx⟩ := Engine.ends_of_ne_limit (hfirst a)
  have hx : e.Ends p { field := f } k first := Engine.ends_withLimit_iff.1 hx
  have hk : first.last.machine.dispatched = k := by simpa using hx.dispatched
  refine ⟨fun failure hfailure hle => ?_, fun r hr hsecond hle => ?_⟩
  · have hboth : both = first := Engine.execute_of_ends (e := e.withLimit m)
      (Engine.ends_withLimit_iff.2 (ends_append_of_error hp hx hfailure)) (hk ▸ hle)
    rw [hboth]
    exact ⟨hfailure, rfl, rfl, rfl⟩
  · obtain ⟨l, -, hy⟩ := Engine.ends_of_ne_limit (hsecond b)
    have hy : e.Ends q { field := first.field } l second := Engine.ends_withLimit_iff.1 hy
    have hl : second.last.machine.dispatched = l := by simpa using hy.dispatched
    have hrk : r.dispatched = k := by simpa using hx.report hr
    have hkl : k + l ≤ m := by omega
    have hboth : both = first.following p q second := Engine.execute_of_ends (e := e.withLimit m)
      (Engine.ends_withLimit_iff.2 (ends_append hp hx hr hy)) hkl
    have hticks : r.ticks = first.last.ticks.reverse := Engine.ticks_of_ok hr
    rw [hboth]
    refine ⟨fun failure hfailure => ?_, fun s hs => ?_, ?_, rfl, ?_, rfl⟩
    · rw [Execution.following, hfailure]
      rfl
    · have hcancelled : s.cancelled = false := Engine.cancelled_runFor hs
      rw [Execution.following, hs, hticks, hrk, hk, ← hcancelled]
      rfl
    · exact reverse_ticks_following
    · exact List.reverse_append

/-- A walk to the end of the row, and behind it a step down and a `кц` without a loop. -/
theorem execute_append_of_stray :
    let e : Engine := {}
    let f : Field := (default : Field).moveRobotTo ⟨8, 0⟩
    let p : Program := ⟨[⟨.loopStart "справа свободно", 1⟩, ⟨.ifStart "сверху стена", 2⟩,
      ⟨.command "закрасить", 3⟩, ⟨.ifEnd, 4⟩, ⟨.command "вправо", 5⟩, ⟨.loopEnd, 6⟩], []⟩
    let q : Program := ⟨[⟨.command "вниз", 7⟩, ⟨.loopEnd, 8⟩], []⟩
    let first := (e.withLimit 7).execute p f
    let second := (e.withLimit 2).execute q first.field
    let both := (e.withLimit 9).execute (p ++ q) f
    Blocks.WellNested p.instructions ∧ both.result = .error (.unmatchedLoopEnd 8) ∧
      both.last.machine.dispatched = 9 ∧ both.sightings = first.sightings ++ second.sightings := by
  intro e f p q
  have hp : Blocks.WellNested p.instructions := by decide
  have happly := execute_append e p q hp f 7 2 9
  have hruns :
      let first := (e.withLimit 7).execute p f
      let second := (e.withLimit 2).execute q first.field
      first.result.map Report.dispatched = .ok 7 ∧ first.last.machine.dispatched = 7 ∧
        second.result = .error (.unmatchedLoopEnd 8) ∧ second.last.machine.dispatched = 2 := by
    decide +kernel
  dsimp only at happly hruns ⊢
  -- the three executions are not to be evaluated again
  generalize (e.withLimit 9).execute (p ++ q) f = both at *
  generalize (e.withLimit 7).execute p f = first at *
  generalize (e.withLimit 2).execute q first.field = second at *
  obtain ⟨hok, hfirst, hfails, hsecond⟩ := hruns
  rcases hr : first.result with failure | r
  · rw [hr] at hok
    cases hok
  rw [hr] at hok
  have hdispatched : r.dispatched = 7 := Except.ok.inj hok
  obtain ⟨hresult, -, -, htotal, hsightings, -⟩ :=
    (happly (by simp [hr])).2 r hr (by simp [hfails]) (by omega)
  exact ⟨hp, hresult _ hfails, by omega, hsightings⟩

end RobotScript
