import RobotScript.Proofs.Json.RoundTrip
import RobotScript.Proofs.Run.Collision
import RobotScript.Proofs.Run.Limit

/-!
Runs on numbers of fixed width.

Coordinates are integers without bounds, and the search for the end of a loop counts with natural
numbers. `Arithmetic` leaves open how they are calculated: a calculation may fail, or its result may
be another than the exact one. The functions that lead from a calculation to a whole run are written
once more over any arithmetic, in the order in which a run makes its calculations; over that of all
integers they are the functions of a run (`Arithmetic.execute_unbounded`).

A dispatch calculates with the cell of the robot and its neighbours only, so it is the same in every
arithmetic that is exact there (`Arithmetic.step_eq`). The robot stays on the field, so that is so
all along a run if the size of the field has 32 bits (`Arithmetic.Fits.execute_eq`). The main
statement is `execute_fixedWidth`.
-/

namespace RobotScript

/-- How coordinates are added and subtracted, and how a count of open loops is lowered. -/
structure Arithmetic (M : Type → Type) where
  add : Int → Int → M Int
  sub : Int → Int → M Int
  lower : Nat → M Nat

namespace Arithmetic

/-- Calculates with all integers. -/
def unbounded : Arithmetic Id where
  add x y := x + y
  sub x y := x - y
  lower n := n - 1

/-- Gives up where an exact result does not have 32 bits, or a count would be lowered below zero. -/
def checked : Arithmetic Option where
  add x y := if IsInt32 (x + y) then some (x + y) else none
  sub x y := if IsInt32 (x - y) then some (x - y) else none
  lower n := if n = 0 then none else some (n - 1)

/-- Calculates with words of 32 bits, and of 64 bits for counts, and drops what they do not hold. -/
def wrapping : Arithmetic Id where
  add x y := (Int32.ofInt x + Int32.ofInt y).toInt
  sub x y := (Int32.ofInt x - Int32.ofInt y).toInt
  lower n := if n = 0 then maxWord else n - 1

/-- **The arithmetic is exact wherever 32 bits hold the result.** -/
structure Fits {M : Type → Type} [Monad M] (ar : Arithmetic M) : Prop where
  add {x y : Int} : IsInt32 x → IsInt32 y → IsInt32 (x + y) → ar.add x y = pure (x + y)
  sub {x y : Int} : IsInt32 x → IsInt32 y → IsInt32 (x - y) → ar.sub x y = pure (x - y)
  lower (n : Nat) : ar.lower (n + 1) = pure n

/-! ### Runs over an arithmetic -/

section Run

variable {M : Type → Type} [Monad M] (ar : Arithmetic M)

def addCells (a b : Cell) : M Cell := do
  let x ← ar.add a.x b.x
  let y ← ar.add a.y b.y
  pure ⟨x, y⟩

def subCells (a b : Cell) : M Cell := do
  let x ← ar.sub a.x b.x
  let y ← ar.sub a.y b.y
  pure ⟨x, y⟩

def neighbour (r : Robot) (side : Direction) : M Cell := ar.addCells r.position side.delta

def between? (a b : Cell) : M (Option Wall) := do
  let displacement ← ar.subCells b a
  match Direction.ofDelta? displacement with
  | some .east => pure (some (.leftOf b))
  | some .west => pure (some (.leftOf a))
  | some .south => pure (some (.above b))
  | some .north => pure (some (.above a))
  | none => pure none

/-- No wall is looked for beyond the border. -/
def isFree (f : Field) (goal start : Cell) : M Bool :=
  if f.inBounds goal then do
    let wall ← ar.between? start goal
    pure (!wall.any f.hasWall)
  else pure false

def holds (c : Condition) (f : Field) : M Bool := do
  let goal ← ar.neighbour f.robot c.side
  let free ← ar.isFree f goal f.robot.position
  match c.expect with
  | .free => pure free
  | .wall => pure (!free)

def evaluate (text : String) (f : Field) : M (Except Condition.Error Bool) :=
  match Condition.read text with
  | .error reason => pure (.error reason)
  | .ok c => do
    let b ← ar.holds c f
    pure (.ok b)

def checkCondition (text : String) (f : Field) (line : Nat) : M (Except Failure Bool) := do
  match ← ar.evaluate text f with
  | .error reason => pure (.error (.invalidCondition text line reason))
  | .ok b => pure (.ok b)

def checkGuard (text : String) (f : Field) (line : Nat) : M (Except Failure Bool) :=
  if text = "" then pure (.ok true) else ar.checkCondition text f line

/-- Only a step calculates anything. -/
def perform (c : Command) (motion : Motion) (line : Nat) (f : Field) :
    M (Except Failure Dispatch × Field) :=
  match c, motion with
  | .move d, .step => do
    let turned := f.setDirection d
    let start := turned.robot.position
    let goal ← ar.addCells start d.delta
    let free ← ar.isFree turned goal start
    if free then pure (.ok (.tick (.moved start goal d)), turned.moveRobotTo goal)
    else pure (.error (.blockedMove start goal line), turned)
  | .move d, .orient => pure ((Command.move d).perform .orient line f)
  | .paint, motion => pure (Command.paint.perform motion line f)

/-- The count is of all open loops, with the one whose end is searched for. It is lowered before it
is compared with zero. -/
def loopSpan? : Nat → List Instruction → M (Option Nat)
  | _, [] => pure none
  | depth, i :: rest => do
    match i.op with
    | .loopStart _ =>
      let span ← loopSpan? (depth + 1) rest
      pure (span.map (· + 1))
    | .loopEnd =>
      let depth ← ar.lower depth
      if depth = 0 then pure (some 1)
      else
        let span ← loopSpan? depth rest
        pure (span.map (· + 1))
    | _ =>
      let span ← loopSpan? depth rest
      pure (span.map (· + 1))

def loopExit (code : List Instruction) (start : Nat) : M (Except Failure Nat) := do
  match ← ar.loopSpan? 1 (code.drop (start + 1)) with
  | some span => pure (.ok (start + 1 + span))
  | none => pure (.error (.unterminatedLoop (lineAt code start)))

def runCommand (e : Engine) (keyword : String) (line : Nat) (m : Machine) (f : Field) :
    M Dispatched :=
  match e.vocabulary.find? keyword with
  | none => pure ⟨.error (.unknownCommand keyword line), m, f⟩
  | some command => do
    match ← ar.perform command e.settings.motion line f with
    | (.ok d, f') => pure ⟨.ok d, m.next, f'⟩
    | (.error failure, f') => pure ⟨.error failure, m, f'⟩

def runLoopStart (code : List Instruction) (guard : String) (line : Nat) (m : Machine)
    (f : Field) : M Dispatched := do
  match ← ar.checkGuard guard f line with
  | .error failure => pure ⟨.error failure, m, f⟩
  | .ok true => pure ⟨.ok .silent, { m.next with loops := Machine.enterLoop m.loops m.pc }, f⟩
  | .ok false =>
    let left := { m with loops := Machine.leaveLoop m.loops m.pc }
    match ← ar.loopExit code m.pc with
    | .error failure => pure ⟨.error failure, left, f⟩
    | .ok exit => pure ⟨.ok .silent, { left with pc := exit }, f⟩

def runIfStart (code : List Instruction) (condition : String) (line : Nat) (m : Machine)
    (f : Field) : M Dispatched := do
  match ← ar.checkCondition condition f line with
  | .error failure => pure ⟨.error failure, m, f⟩
  | .ok true => pure ⟨.ok .silent, m.next, f⟩
  | .ok false =>
    match ifExit code m.pc with
    | .error failure => pure ⟨.error failure, m, f⟩
    | .ok exit => pure ⟨.ok .silent, { m with pc := exit }, f⟩

def dispatch (e : Engine) (code : List Instruction) (i : Instruction) (m : Machine) (f : Field) :
    M Dispatched :=
  match i.op with
  | .command keyword => ar.runCommand e keyword i.line m f
  | .loopStart guard => ar.runLoopStart code guard i.line m f
  | .loopEnd => pure (Machine.runLoopEnd i.line m f)
  | .ifStart condition => ar.runIfStart code condition i.line m f
  | .ifEnd => pure ⟨.ok .silent, m.next, f⟩

def step (e : Engine) (p : Program) (m : Machine) (f : Field) : M Dispatched :=
  match p.instructions[m.pc]? with
  | none => pure ⟨.ok .halted, m, f⟩
  | some i =>
    if e.settings.maxSteps ≤ m.dispatched then
      pure ⟨.error (.stepLimitExceeded e.settings.maxSteps), m, f⟩
    else ar.dispatch e p.instructions i m.counted f

def runFor (e : Engine) (p : Program) : Nat → Underway → M Execution
  | 0, u => pure (u.fail (.stepLimitExceeded e.settings.maxSteps))
  | fuel + 1, u => do
    let d ← ar.step e p u.machine u.field
    let a := d.advance p u.machine
    match a.progress with
    | .halted => pure ((u.after a).finish p)
    | .failed failure => pure ((u.after a).fail failure)
    | _ => runFor e p fuel (u.after a)

def execute (e : Engine) (p : Program) (f : Field) : M Execution :=
  ar.runFor e p (e.settings.maxSteps + 1) { field := f }

end Run

/-! ### Where the results are exact -/

section Exact

variable {M : Type → Type} [Monad M] [LawfulMonad M] {ar : Arithmetic M} {e : Engine}
  {p : Program} {m : Machine} {f : Field}

/-- **The arithmetic is exact around a cell.** -/
structure ExactAt (ar : Arithmetic M) (c : Cell) : Prop where
  add (d : Direction) : ar.addCells c d.delta = pure (c + d.delta)
  sub (d : Direction) : ar.subCells (c + d.delta) c = pure (c + d.delta - c)
  lower (n : Nat) : ar.lower (n + 1) = pure n

lemma isFree_eq {c : Cell} (h : ar.ExactAt c) (f : Field) (d : Direction) :
    ar.isFree f (c + d.delta) c = pure (f.isFree (c + d.delta) c) := by
  unfold isFree Field.isFree
  rcases hbounds : f.inBounds (c + d.delta) with _ | _
  · rfl
  · unfold between? Field.hasWallBetween Wall.between?
    rw [if_pos rfl, h.sub d, pure_bind, Cell.add_sub_cancel_left, Direction.ofDelta?_delta]
    cases d <;> rw [pure_bind, Bool.true_and]

lemma holds_eq (h : ar.ExactAt f.robot.position) (c : Condition) :
    ar.holds c f = pure (c.holds f) := by
  unfold holds Condition.holds neighbour Robot.neighbour
  rw [h.add, pure_bind, isFree_eq h, pure_bind]
  rcases c.expect with _ | _ <;> rfl

lemma checkCondition_eq (h : ar.ExactAt f.robot.position) (text : String) (line : Nat) :
    ar.checkCondition text f line = pure (RobotScript.checkCondition text f line) := by
  unfold checkCondition RobotScript.checkCondition evaluate Condition.evaluate
  rcases Condition.read text with reason | c
  · exact pure_bind _ _
  · simp only [holds_eq h, pure_bind]

lemma checkGuard_eq (h : ar.ExactAt f.robot.position) (text : String) (line : Nat) :
    ar.checkGuard text f line = pure (RobotScript.checkGuard text f line) := by
  unfold checkGuard RobotScript.checkGuard
  rw [checkCondition_eq h]
  split <;> rfl

lemma perform_eq (h : ar.ExactAt f.robot.position) (c : Command) (motion : Motion) (line : Nat) :
    ar.perform c motion line f = pure (c.perform motion line f) := by
  rcases c with d | _
  · rcases motion with _ | _
    · have hturned : ar.ExactAt (f.setDirection d).robot.position := h
      unfold perform Command.perform
      simp only [hturned.add, isFree_eq hturned, pure_bind]
      split <;> rfl
    · rfl
  · rfl

/-- **The count of a search is never lowered below zero**: it is that of the open loops inside, and
one more. -/
lemma loopSpan?_eq (h : ∀ n, ar.lower (n + 1) = pure n) (depth : Nat) (code : List Instruction) :
    ar.loopSpan? (depth + 1) code = pure (Blocks.loopSpan? depth code) := by
  induction code generalizing depth with
  | nil => rfl
  | cons i code ih =>
    obtain ⟨op, line⟩ := i
    unfold loopSpan?
    cases op with
    | loopEnd =>
      simp only [h, pure_bind]
      cases depth with
      | zero => rfl
      | succ depth => simp only [Nat.succ_ne_zero, if_false, ih, pure_bind]; rfl
    | loopStart guard =>
      simp only [ih, pure_bind]
      rfl
    | command | ifStart | ifEnd =>
      simp only [ih, pure_bind]
      rfl

lemma loopExit_eq (h : ∀ n, ar.lower (n + 1) = pure n) (code : List Instruction) (start : Nat) :
    ar.loopExit code start = pure (RobotScript.loopExit code start) := by
  unfold loopExit RobotScript.loopExit
  rw [loopSpan?_eq h, pure_bind]
  rcases Blocks.loopSpan? 0 (code.drop (start + 1)) with _ | span <;> rfl

lemma runCommand_eq (h : ar.ExactAt f.robot.position) (keyword : String) (line : Nat) :
    ar.runCommand e keyword line m f = pure (Machine.runCommand e keyword line m f) := by
  unfold runCommand Machine.runCommand
  rcases e.vocabulary.find? keyword with _ | command
  · rfl
  · simp only [perform_eq h, pure_bind]
    rcases command.perform e.settings.motion line f with ⟨_ | _, f'⟩ <;> rfl

lemma runLoopStart_eq (h : ar.ExactAt f.robot.position) (code : List Instruction) (guard : String)
    (line : Nat) :
    ar.runLoopStart code guard line m f = pure (Machine.runLoopStart code guard line m f) := by
  unfold runLoopStart Machine.runLoopStart
  rw [checkGuard_eq h, pure_bind]
  rcases RobotScript.checkGuard guard f line with failure | _ | _
  · rfl
  · simp only [loopExit_eq h.lower, pure_bind]
    rcases RobotScript.loopExit code m.pc with failure | exit <;> rfl
  · rfl

lemma runIfStart_eq (h : ar.ExactAt f.robot.position) (code : List Instruction)
    (condition : String) (line : Nat) :
    ar.runIfStart code condition line m f = pure (Machine.runIfStart code condition line m f) := by
  unfold runIfStart Machine.runIfStart
  rw [checkCondition_eq h, pure_bind]
  rcases RobotScript.checkCondition condition f line with failure | _ | _
  · rfl
  · rcases ifExit code m.pc with failure | exit <;> rfl
  · rfl

lemma dispatch_eq (h : ar.ExactAt f.robot.position) (code : List Instruction) (i : Instruction) :
    ar.dispatch e code i m f = pure (Machine.dispatch e code i m f) := by
  obtain ⟨op, line⟩ := i
  cases op with
  | command keyword => exact runCommand_eq h keyword line
  | loopStart guard => exact runLoopStart_eq h code guard line
  | ifStart condition => exact runIfStart_eq h code condition line
  | loopEnd | ifEnd => rfl

/-- **A dispatch is the same in every arithmetic that is exact around the robot.** -/
theorem step_eq (h : ar.ExactAt f.robot.position) (e : Engine) (p : Program) (m : Machine) :
    ar.step e p m f = pure (m.step e p f) := by
  unfold step Machine.step
  rcases p.instructions[m.pc]? with _ | i
  · rfl
  · simp only [dispatch_eq h]
    split <;> rfl

/-- **So is a run**, if something that its dispatches keep makes the arithmetic exact around the
robot. -/
theorem runFor_eq {motive : Field → Prop} (hexact : ∀ g, motive g → ar.ExactAt g.robot.position)
    (hkeep : ∀ m g, motive g → motive (advance e p m g).field) (fuel : Nat) {u : Underway}
    (hu : motive u.field) : ar.runFor e p fuel u = pure (e.runFor p fuel u) := by
  induction fuel generalizing u with
  | zero => rfl
  | succ fuel ih =>
    have hadvance : (u.machine.step e p u.field).advance p u.machine =
      advance e p u.machine u.field := rfl
    have hnext : motive (u.after (advance e p u.machine u.field)).field :=
      hkeep u.machine u.field hu
    rw [runFor, Engine.runFor, step_eq (hexact _ hu), pure_bind, hadvance]
    rcases hprogress : (advance e p u.machine u.field).progress with _ | _ | tick | failure
    · simp only [hprogress]
    · simp only [hprogress, ih hnext]
    · simp only [hprogress, ih hnext]
    · simp only [hprogress]

end Exact

lemma exactAt_unbounded (c : Cell) : unbounded.ExactAt c where
  add _ := rfl
  sub _ := rfl
  lower _ := rfl

/-- **With all integers a run over an arithmetic is the run**, on every field. -/
theorem execute_unbounded (e : Engine) (p : Program) (f : Field) :
    unbounded.execute e p f = e.execute p f :=
  runFor_eq (motive := fun _ => True) (fun g _ => exactAt_unbounded g.robot.position)
    (fun _ _ _ => trivial) _ trivial

/-! ### Numbers of fixed width -/

lemma fits_checked : checked.Fits where
  add _ _ h := if_pos h
  sub _ _ h := if_pos h
  lower _ := rfl

/-- A word of 32 bits holds the numbers of 32 bits. -/
lemma bmod_of_isInt32 {x : Int} (h : IsInt32 x) : x.bmod Int32.size = x := by
  obtain ⟨hlow, hhigh⟩ := h
  have hsize : Int32.size = 4294967296 := rfl
  exact Int.bmod_eq_of_le (by omega) (by omega)

lemma toInt_ofInt_of_isInt32 {x : Int} (h : IsInt32 x) : (Int32.ofInt x).toInt = x := by
  rw [Int32.toInt_ofInt, bmod_of_isInt32 h]

lemma fits_wrapping : wrapping.Fits where
  add {x y} hx hy h := by
    have hword := Int32.toInt_add (Int32.ofInt x) (Int32.ofInt y)
    rw [toInt_ofInt_of_isInt32 hx, toInt_ofInt_of_isInt32 hy] at hword
    exact hword.trans (bmod_of_isInt32 h)
  sub {x y} hx hy h := by
    have hword := Int32.toInt_sub (Int32.ofInt x) (Int32.ofInt y)
    rw [toInt_ofInt_of_isInt32 hx, toInt_ofInt_of_isInt32 hy] at hword
    exact hword.trans (bmod_of_isInt32 h)
  lower _ := rfl

section Field

variable {M : Type → Type} [Monad M] [LawfulMonad M] {ar : Arithmetic M} {f : Field} {c : Cell}

/-- A cell of a field whose size has 32 bits has 32 bits, and so do its neighbours, also those beyond
the border. -/
lemma is32_around (hc : f.inBounds c) (hsize : f.size ≤ 2147483647) :
    c.Is32 ∧ ∀ d : Direction, d.delta.Is32 ∧ (c + d.delta).Is32 := by
  have hbounds := Field.covers_iff.1 hc
  simp only [Cell.Is32, IsInt32, Cell.add_x, Cell.add_y]
  refine ⟨by omega, fun d => ?_⟩
  cases d <;> simp only [Direction.delta] <;> omega

/-- **So an arithmetic that is exact with 32 bits is exact around the cells of such a field.** -/
theorem Fits.exactAt (h : ar.Fits) (hc : f.inBounds c) (hsize : f.size ≤ 2147483647) :
    ar.ExactAt c := by
  obtain ⟨hcell, hnear⟩ := is32_around hc hsize
  refine ⟨fun d => ?_, fun d => ?_, h.lower⟩
  · obtain ⟨hdelta, hgoal⟩ := hnear d
    simp only [addCells, h.add hcell.1 hdelta.1 hgoal.1, h.add hcell.2 hdelta.2 hgoal.2, pure_bind]
    rfl
  · obtain ⟨hdelta, hgoal⟩ := hnear d
    have hback : (c + d.delta - c).Is32 := by rwa [Cell.add_sub_cancel_left]
    simp only [subCells, h.sub hgoal.1 hcell.1 hback.1, h.sub hgoal.2 hcell.2 hback.2, pure_bind]
    rfl

/-- A dispatch leaves the size and keeps the robot on the field. -/
lemma inBounds_advance (e : Engine) (p : Program) (m : Machine)
    (hf : f.inBounds f.robot.position) :
    (advance e p m f).field.size = f.size ∧
      (advance e p m f).field.inBounds (advance e p m f).field.robot.position := by
  have heffect := effect_advance e p m f
  refine ⟨heffect.size_eq, ?_⟩
  generalize (advance e p m f).progress = progress at heffect
  generalize (advance e p m f).field = g at heffect ⊢
  cases heffect with
  | moved _ _ _ free => exact (Field.isFree_iff.1 free).1
  | quiet | painted | turned | refused => exact hf

/-- **A run is the same in every arithmetic that is exact with 32 bits.** -/
theorem Fits.execute_eq (h : ar.Fits) (e : Engine) (p : Program)
    (hf : f.inBounds f.robot.position) (hsize : f.size ≤ 2147483647) :
    ar.execute e p f = pure (e.execute p f) := by
  refine runFor_eq (motive := fun g => g.size = f.size ∧ g.inBounds g.robot.position) ?_ ?_ _
    ⟨rfl, hf⟩
  · rintro g ⟨hsame, hg⟩
    exact h.exactAt hg (by omega)
  · rintro m g ⟨hsame, hg⟩
    obtain ⟨hkept, hnext⟩ := inBounds_advance e p m hg
    exact ⟨hkept.trans hsame, hnext⟩

end Field

end Arithmetic

/-- **A run makes the same of a field with numbers of 32 bits as with all integers.** Let the robot
stand on a field whose size has 32 bits with sign. Before every dispatch the neighbours of the
robot's cell, and their displacements from it, have 32 bits: these are the results of all the sums
and differences that a dispatch can calculate. So no calculation of a run is out of range, in any of
its dispatches, and the run is the same if what is out of range is dropped, and in every arithmetic
that is exact in the range. The count of a search for the end of a loop is not lowered below zero,
on any code. -/
theorem execute_fixedWidth (e : Engine) (p : Program) (f : Field)
    (hf : f.inBounds f.robot.position) (hsize : f.size ≤ 2147483647) :
    (∀ n u, e.underway? p f n = some u →
      (∀ d, (u.field.robot.neighbour d).Is32 ∧
        (u.field.robot.neighbour d - u.field.robot.position).Is32) ∧
      Arithmetic.checked.step e p u.machine u.field = some (u.machine.step e p u.field)) ∧
    Arithmetic.checked.execute e p f = some (e.execute p f) ∧
    Arithmetic.wrapping.execute e p f = e.execute p f ∧
    (∀ (M : Type → Type) [Monad M] [LawfulMonad M] (ar : Arithmetic M), ar.Fits →
      ar.execute e p f = pure (e.execute p f)) ∧
    (∀ g, Arithmetic.unbounded.execute e p g = e.execute p g) ∧
    ∀ code start, Arithmetic.checked.loopExit code start = some (loopExit code start) := by
  refine ⟨fun n u hu => ?_, Arithmetic.fits_checked.execute_eq e p hf hsize,
    Arithmetic.fits_wrapping.execute_eq e p hf hsize,
    fun M _ _ ar har => har.execute_eq e p hf hsize, Arithmetic.execute_unbounded e p,
    Arithmetic.loopExit_eq Arithmetic.fits_checked.lower⟩
  have hsafe := Engine.safe_course (e := e) (p := p) hf n
  rw [Engine.course_of_underway? hu] at hsafe
  have hin : u.field.inBounds u.field.robot.position := by
    rw [Field.inBounds, hsafe.size]
    exact hsafe.inBounds
  have hwidth : u.field.size ≤ 2147483647 := by
    rw [hsafe.size]
    exact hsize
  obtain ⟨-, hnear⟩ := Arithmetic.is32_around hin hwidth
  refine ⟨fun d => ⟨(hnear d).2, ?_⟩, ?_⟩
  · rw [Robot.neighbour, Cell.add_sub_cancel_left]
    exact (hnear d).1
  · exact Arithmetic.step_eq (Arithmetic.fits_checked.exactAt hin hwidth) e p u.machine

/-- On the largest field, in the last cell of its first row, a robot looks for a wall above and
then steps against the border on the right. -/
theorem execute_fixedWidth_of_corner :
    let e : Engine := { vocabulary := Vocabulary.empty.assign "шаг" (.move .east) }
    let p : Program := ⟨[⟨.ifStart "сверху стена", 1⟩, ⟨.command "шаг", 2⟩, ⟨.ifEnd, 3⟩], []⟩
    let f : Field := ⟨2147483647, ⟨⟨2147483646, 0⟩, .east⟩, ∅, ∅⟩
    f.inBounds f.robot.position ∧ f.size ≤ 2147483647 ∧
      (e.execute p f).result = .error (.blockedMove ⟨2147483646, 0⟩ ⟨2147483647, 0⟩ 2) ∧
      Arithmetic.checked.execute e p f = some (e.execute p f) ∧
      Arithmetic.wrapping.execute e p f = e.execute p f := by
  intro e p f
  have hf : f.inBounds f.robot.position := by decide
  obtain ⟨-, hchecked, hwrapping, -⟩ := execute_fixedWidth e p f hf (by decide)
  exact ⟨hf, by decide, by decide +kernel, hchecked, hwrapping⟩

/-- Off the field the next cell may not have 32 bits. -/
example : Arithmetic.checked.neighbour ⟨⟨2147483647, 0⟩, .east⟩ .east = none := by decide

end RobotScript
