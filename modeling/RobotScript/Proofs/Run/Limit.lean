import RobotScript.Proofs.Run.Control
import RobotScript.Proofs.Run.Course

/-!
The step limit is exact.

`Engine.unlimited?` is a run that nobody counts: it goes on until its program is at its end or a
dispatch fails, and `Engine.Ends` says after how many dispatches that is and what is left then. With
a limit of `m` an execution is the unlimited run if that ends within `m` dispatches, and otherwise
the limit ends it after exactly `m`; the main statement is `execute_within_limit`. Behind it are the
order in which a machine looks at the end of its program, at its limit and at its instruction
(`advance_of_isHalted`, `advance_of_limit`, `advance_of_lt`), and that no instruction fails for the
limit (`line?_unlimitedAdvance`).
-/

namespace RobotScript

/-! ### Runs without a limit -/

/-- What a dispatch of the machine `m` means to its run. -/
def Dispatched.advance (d : Dispatched) (p : Program) (m : Machine) : Advance where
  progress :=
    match d.result with
    | .ok .halted => .halted
    | .ok .silent => .silent
    | .ok (.tick event) =>
      .ticked ⟨m.pc, lineAt p.instructions m.pc, event, d.field.robot.position⟩
    | .error failure => .failed failure
  machine := d.machine
  field := d.field

/-- The machine with one more dispatch counted. -/
def Machine.counted (m : Machine) : Machine := { m with dispatched := m.dispatched + 1 }

/-- Dispatches the next instruction, however many have been dispatched. -/
def Machine.unlimitedStep (e : Engine) (p : Program) (m : Machine) (f : Field) : Dispatched :=
  match p.instructions[m.pc]? with
  | none => ⟨.ok .halted, m, f⟩
  | some i => dispatch e p.instructions i m.counted f

def unlimitedAdvance (e : Engine) (p : Program) (m : Machine) (f : Field) : Advance :=
  (m.unlimitedStep e p f).advance p m

namespace Engine

def withLimit (e : Engine) (limit : Nat) : Engine :=
  { e with settings := { e.settings with maxSteps := limit } }

/-- The run that goes on from `u` without a limit, after a number of dispatches, if it has not ended
by then. -/
def unlimited? (e : Engine) (p : Program) (u : Underway) : Nat → Option Underway
  | 0 => some u
  | n + 1 =>
    (e.unlimited? p u n).bind fun v =>
      let a := unlimitedAdvance e p v.machine v.field
      if a.progress.goesOn then some (v.after a) else none

/-- **The run that goes on from `u` without a limit ends** with its `k`-th dispatch: after it the
program is at its end, or it fails. -/
inductive Ends (e : Engine) (p : Program) (u : Underway) : Nat → Execution → Prop
  | halt {k : Nat} {v : Underway} (reached : e.unlimited? p u k = some v)
      (at_end : v.machine.isHalted p) : Ends e p u k (v.finish p)
  | fail {k : Nat} {v : Underway} {failure : Failure} (reached : e.unlimited? p u k = some v)
      (fails : (unlimitedAdvance e p v.machine v.field).progress = .failed failure) :
      Ends e p u (k + 1) ((v.after (unlimitedAdvance e p v.machine v.field)).fail failure)

end Engine

section Dispatches

variable {e : Engine} {p : Program} {m : Machine} {f : Field} {i : Instruction} {d : Dispatched}
  {failure : Failure}

lemma getElem?_of_isHalted (h : m.isHalted p) : p.instructions[m.pc]? = none :=
  List.getElem?_eq_none (by simpa [Machine.isHalted] using h)

lemma isHalted_of_getElem? (h : p.instructions[m.pc]? = none) : m.isHalted p := by
  simpa [Machine.isHalted] using h

lemma result_of_failed (h : (d.advance p m).progress = .failed failure) :
    d.result = .error failure := by
  obtain ⟨_ | _ | _ | _, _, _⟩ := d
  · cases h
    rfl
  · cases h
  · cases h
  · cases h

lemma result_of_halted (h : (d.advance p m).progress = .halted) : d.result = .ok .halted := by
  obtain ⟨_ | _ | _ | _, _, _⟩ := d
  · cases h
  · cases h
  · cases h
  · rfl

lemma result_of_goesOn (h : (d.advance p m).progress.goesOn) : ∃ x, d.result = .ok x := by
  obtain ⟨failure | x, _, _⟩ := d
  · cases h
  · exact ⟨x, rfl⟩

lemma unlimitedAdvance_of_isHalted (h : m.isHalted p) :
    unlimitedAdvance e p m f = ⟨.halted, m, f⟩ := by
  rw [unlimitedAdvance, Machine.unlimitedStep, getElem?_of_isHalted h]
  rfl

lemma unlimitedAdvance_of_getElem? (hi : p.instructions[m.pc]? = some i) :
    unlimitedAdvance e p m f =
      (Machine.dispatch e p.instructions i m.counted f).advance p m := by
  rw [unlimitedAdvance, Machine.unlimitedStep, hi]

lemma line?_unlimitedAdvance (h : (unlimitedAdvance e p m f).progress = .failed failure) :
    failure.line?.isSome := by
  rcases hi : p.instructions[m.pc]? with _ | i
  · rw [unlimitedAdvance_of_isHalted (isHalted_of_getElem? hi)] at h
    cases h
  · rw [unlimitedAdvance_of_getElem? hi] at h
    rw [line?_dispatch (m := m.counted) hi (result_of_failed h)]
    rfl

/-- Only the end of the program halts a run. -/
lemma isHalted_of_halted (h : (unlimitedAdvance e p m f).progress = .halted) : m.isHalted p := by
  rcases hi : p.instructions[m.pc]? with _ | i
  · exact isHalted_of_getElem? hi
  · rw [unlimitedAdvance_of_getElem? hi] at h
    exact absurd rfl (jump_dispatch (m := m.counted) hi (result_of_halted h)).1

lemma jump_of_goesOn (h : (unlimitedAdvance e p m f).progress.goesOn) :
    m.counted.Jump p.instructions (unlimitedAdvance e p m f).machine := by
  rcases hi : p.instructions[m.pc]? with _ | i
  · rw [unlimitedAdvance_of_isHalted (isHalted_of_getElem? hi)] at h
    cases h
  · rw [unlimitedAdvance_of_getElem? hi] at h ⊢
    obtain ⟨x, hx⟩ := result_of_goesOn h
    exact (jump_dispatch (m := m.counted) hi hx).2

lemma dispatched_unlimitedAdvance (h : ¬m.isHalted p) :
    (unlimitedAdvance e p m f).machine.dispatched = m.dispatched + 1 := by
  rcases hi : p.instructions[m.pc]? with _ | i
  · exact absurd (isHalted_of_getElem? hi) h
  · rw [unlimitedAdvance_of_getElem? hi]
    exact Machine.dispatched_dispatch e p.instructions _ f i

/-- A run is at the end of its program, goes on to another dispatch, or fails. -/
lemma unlimitedAdvance_cases (e : Engine) (p : Program) (m : Machine) (f : Field) :
    m.isHalted p ∨ (unlimitedAdvance e p m f).progress.goesOn ∨
      ∃ failure, (unlimitedAdvance e p m f).progress = .failed failure := by
  rcases hp : (unlimitedAdvance e p m f).progress with _ | _ | t | failure
  · exact Or.inl (isHalted_of_halted hp)
  · exact Or.inr (Or.inl rfl)
  · exact Or.inr (Or.inl rfl)
  · exact Or.inr (Or.inr ⟨failure, rfl⟩)

lemma not_isHalted_of_goesOn (h : (unlimitedAdvance e p m f).progress.goesOn) :
    ¬m.isHalted p := by
  intro hend
  rw [unlimitedAdvance_of_isHalted hend] at h
  cases h

lemma not_isHalted_of_failed (h : (unlimitedAdvance e p m f).progress = .failed failure) :
    ¬m.isHalted p := by
  intro hend
  rw [unlimitedAdvance_of_isHalted hend] at h
  cases h

end Dispatches

namespace Engine

variable {e : Engine} {p : Program} {u v : Underway} {n k : Nat} {x : Execution}

lemma unlimited?_succ (hv : e.unlimited? p u n = some v)
    (ha : (unlimitedAdvance e p v.machine v.field).progress.goesOn) :
    e.unlimited? p u (n + 1) = some (v.after (unlimitedAdvance e p v.machine v.field)) := by
  rw [unlimited?, hv]
  exact if_pos ha

lemma unlimited?_succ_eq_some {w : Underway} (h : e.unlimited? p u (n + 1) = some w) :
    ∃ v, e.unlimited? p u n = some v ∧
      (unlimitedAdvance e p v.machine v.field).progress.goesOn ∧
      w = v.after (unlimitedAdvance e p v.machine v.field) := by
  obtain ⟨v, hv, h⟩ := Option.bind_eq_some_iff.1 h
  dsimp only at h
  split at h
  · next ha => exact ⟨v, hv, ha, (Option.some.inj h).symm⟩
  · cases h

/-- **What every dispatch keeps holds as long as an unlimited run goes on.** -/
theorem unlimited?_induction {motive : Nat → Underway → Prop} (start : motive 0 u)
    (dispatch : ∀ n v, motive n v → (unlimitedAdvance e p v.machine v.field).progress.goesOn →
      motive (n + 1) (v.after (unlimitedAdvance e p v.machine v.field)))
    (h : e.unlimited? p u n = some v) : motive n v := by
  induction n generalizing v with
  | zero =>
    cases h
    exact start
  | succ n ih =>
    obtain ⟨w, hw, ha, rfl⟩ := unlimited?_succ_eq_some h
    exact dispatch n w (ih hw) ha

/-- A run that is resumed goes on as one run. -/
lemma unlimited?_add {w : Underway} (hv : e.unlimited? p u k = some v)
    (hw : e.unlimited? p v n = some w) : e.unlimited? p u (k + n) = some w :=
  unlimited?_induction (motive := fun n w => e.unlimited? p u (k + n) = some w) hv
    (fun _ _ ih ha => unlimited?_succ ih ha) hw

lemma dispatched_of_unlimited? (h : e.unlimited? p u n = some v) :
    v.machine.dispatched = u.machine.dispatched + n := by
  refine unlimited?_induction (motive := fun n v => v.machine.dispatched = u.machine.dispatched + n)
    rfl (fun n v hv ha => ?_) h
  have := dispatched_unlimitedAdvance (e := e) (f := v.field) (not_isHalted_of_goesOn ha)
  show (unlimitedAdvance e p v.machine v.field).machine.dispatched = _
  omega

namespace Ends

/-- A run that ends with its `k`-th dispatch has counted all of them. -/
lemma dispatched (h : e.Ends p u k x) : x.last.machine.dispatched = u.machine.dispatched + k := by
  cases h with
  | halt reached => exact dispatched_of_unlimited? reached
  | @fail k v failure reached fails =>
    have hv := dispatched_of_unlimited? reached
    have := dispatched_unlimitedAdvance (e := e) (f := v.field) (not_isHalted_of_failed fails)
    show (unlimitedAdvance e p v.machine v.field).machine.dispatched = _
    omega

lemma resumed (hv : e.unlimited? p u n = some v) (h : e.Ends p v k x) : e.Ends p u (n + k) x := by
  cases h with
  | halt reached at_end => exact .halt (unlimited?_add hv reached) at_end
  | fail reached fails => exact .fail (unlimited?_add hv reached) fails

lemma result_ne (h : e.Ends p u k x) (limit : Nat) :
    x.result ≠ .error (.stepLimitExceeded limit) := by
  intro hx
  cases h with
  | halt => cases hx
  | fail _ fails =>
    cases hx
    have := line?_unlimitedAdvance fails
    cases this

lemma report (h : e.Ends p u k x) {r : Report} (hr : x.result = .ok r) :
    r.dispatched = u.machine.dispatched + k := by
  cases h with
  | halt reached =>
    cases hr
    exact dispatched_of_unlimited? reached
  | fail => cases hr

end Ends

/-- Within any number of dispatches an unlimited run ends, or it goes on for all of them and finds
another instruction there. -/
lemma ends_or_unlimited? (e : Engine) (p : Program) (u : Underway) (n : Nat) :
    (∃ k ≤ n, ∃ x, e.Ends p u k x) ∨
      ∃ v, e.unlimited? p u n = some v ∧ ¬v.machine.isHalted p := by
  induction n with
  | zero =>
    by_cases hend : u.machine.isHalted p
    · exact Or.inl ⟨0, Nat.le_refl 0, _, .halt rfl hend⟩
    · exact Or.inr ⟨u, rfl, hend⟩
  | succ n ih =>
    obtain ⟨k, hk, hx⟩ | ⟨v, hv, hgoing⟩ := ih
    · exact Or.inl ⟨k, by omega, hx⟩
    obtain hend | ha | ⟨failure, hp⟩ := unlimitedAdvance_cases e p v.machine v.field
    · exact absurd hend hgoing
    · have hnext := unlimited?_succ hv ha
      by_cases hend : (v.after (unlimitedAdvance e p v.machine v.field)).machine.isHalted p
      · exact Or.inl ⟨n + 1, Nat.le_refl _, _, .halt hnext hend⟩
      · exact Or.inr ⟨_, hnext, hend⟩
    · exact Or.inl ⟨n + 1, Nat.le_refl _, _, .fail hv hp⟩

/-! ### Runs with a limit -/

section Limited

variable {m : Machine} {f : Field} {i : Instruction} {limit : Nat}

/-- At the end of the program the limit is not looked at. -/
lemma advance_of_isHalted (h : m.isHalted p) : advance e p m f = ⟨.halted, m, f⟩ :=
  advance_of_halted (Machine.step_of_isHalted h)

/-- With a step left a run makes the dispatch of the unlimited one. -/
lemma advance_of_lt (h : m.dispatched < e.settings.maxSteps) :
    advance e p m f = unlimitedAdvance e p m f := by
  rcases hi : p.instructions[m.pc]? with _ | i
  · have hend := isHalted_of_getElem? hi
    rw [advance_of_isHalted hend, unlimitedAdvance_of_isHalted hend]
  · have hadvance : advance e p m f = (m.step e p f).advance p m := rfl
    rw [hadvance, Machine.step_of_lt hi h, unlimitedAdvance_of_getElem? hi, Machine.counted]

/-- An instruction without a step left for it is not dispatched. -/
lemma advance_of_limit (hend : ¬m.isHalted p) (h : e.settings.maxSteps ≤ m.dispatched) :
    advance e p m f = ⟨.failed (.stepLimitExceeded e.settings.maxSteps), m, f⟩ := by
  rcases hi : p.instructions[m.pc]? with _ | i
  · exact absurd (isHalted_of_getElem? hi) hend
  · exact advance_of_error (Machine.step_of_limit hi h)

/-- **Up to its limit a run is the unlimited one.** -/
theorem underway?_eq_unlimited? (h : n ≤ e.settings.maxSteps) :
    e.underway? p f n = e.unlimited? p { field := f } n := by
  induction n with
  | zero => rfl
  | succ n ih =>
    rw [underway?, unlimited?, ← ih (by omega)]
    rcases hu : e.underway? p f n with _ | u
    · rfl
    · have := (dispatched_of_underway? hu).1
      simp only [Option.bind_some]
      rw [advance_of_lt (by omega)]

/-- **An end of the unlimited run within the limit is the end of the execution.** -/
theorem execute_of_ends (h : e.Ends p { field := f } k x) (hk : k ≤ e.settings.maxSteps) :
    e.execute p f = x := by
  cases h with
  | @halt k v reached at_end =>
    -- the end of the program is found before the limit is looked at, so `k` may be the limit itself
    rw [← underway?_eq_unlimited? hk] at reached
    have hd := (dispatched_of_underway? reached).1
    have ha := advance_of_isHalted (e := e) (f := v.field) at_end
    rw [execute_eq_of_underway? reached, resume_of_halted (by omega) (by rw [ha]), ha]
    rfl
  | fail reached fails =>
    -- the dispatch that fails is counted too, so there is a step left before it
    rw [← underway?_eq_unlimited? (by omega)] at reached
    have hd := (dispatched_of_underway? reached).1
    rw [← advance_of_lt (by omega)] at fails ⊢
    rw [execute_eq_of_underway? reached, resume_of_failed (by omega) fails]

/-- **A run that goes on beyond the limit ends there.** -/
theorem execute_of_limit (hv : e.unlimited? p { field := f } e.settings.maxSteps = some v)
    (hend : ¬v.machine.isHalted p) :
    e.execute p f = v.fail (.stepLimitExceeded e.settings.maxSteps) := by
  rw [← underway?_eq_unlimited? (Nat.le_refl _)] at hv
  have hd := (dispatched_of_underway? hv).1
  have ha := advance_of_limit (e := e) (f := v.field) hend (by omega)
  rw [execute_eq_of_underway? hv, resume_of_failed (by omega) (by rw [ha]), ha]
  rfl

/-- An execution that does not end for the limit is the unlimited run. -/
theorem ends_of_ne_limit
    (h : (e.execute p f).result ≠ .error (.stepLimitExceeded e.settings.maxSteps)) :
    ∃ k ≤ e.settings.maxSteps, e.Ends p { field := f } k (e.execute p f) := by
  obtain ⟨k, hk, x, hx⟩ | ⟨v, hv, hend⟩ :=
    ends_or_unlimited? e p { field := f } e.settings.maxSteps
  · rw [execute_of_ends hx hk]
    exact ⟨k, hk, hx⟩
  · rw [execute_of_limit hv hend] at h
    exact absurd rfl h

lemma unlimited?_withLimit : (e.withLimit limit).unlimited? p u n = e.unlimited? p u n := by
  induction n with
  | zero => rfl
  | succ n ih =>
    rw [unlimited?, unlimited?, ih]
    rfl

/-- The unlimited run is the same whatever limit an engine has. -/
theorem ends_withLimit_iff : (e.withLimit limit).Ends p u k x ↔ e.Ends p u k x := by
  constructor
  · rintro (⟨reached, at_end⟩ | ⟨reached, fails⟩)
    · exact .halt (unlimited?_withLimit ▸ reached) at_end
    · exact .fail (unlimited?_withLimit ▸ reached) fails
  · rintro (⟨reached, at_end⟩ | ⟨reached, fails⟩)
    · exact .halt (unlimited?_withLimit.trans reached) at_end
    · exact .fail (e := e.withLimit limit) (unlimited?_withLimit.trans reached) fails

lemma dispatched_course_le (n : Nat) :
    (e.course p f n).machine.dispatched ≤ e.settings.maxSteps := by
  refine course_induction (motive := fun _ u => u.machine.dispatched ≤ e.settings.maxSteps)
    (Nat.zero_le _) (fun n u hu hle => ?_) (fun _ _ h => h) n
  show (advance e p u.machine u.field).machine.dispatched ≤ _
  by_cases hend : u.machine.isHalted p
  · rw [advance_of_isHalted hend]
    exact hle
  rcases Nat.lt_or_ge u.machine.dispatched e.settings.maxSteps with hlt | hge
  · rw [advance_of_lt hlt, dispatched_unlimitedAdvance hend]
    omega
  · rw [advance_of_limit hend hge]
    exact hle

end Limited

end Engine

/-- **The step limit is exact.** An end that the run without a limit comes to within `m` dispatches
is the end of the execution with the limit `m`: its report or failure, its events and its field, with
all dispatches counted, also a failing one. If there is none, the execution fails for the limit after
exactly `m` dispatches of the run. Every execution comes to its last dispatch within the limit, its
count never passes `m` and so fits a word when `m` does, and a larger limit changes no outcome but
that of running into the limit. -/
theorem execute_within_limit (e : Engine) (p : Program) (f : Field) (m : Nat) :
    (∀ k x, e.Ends p { field := f } k x → k ≤ m →
      (e.withLimit m).execute p f = x ∧ x.last.machine.dispatched = k ∧
        (∀ r, x.result = .ok r → r.dispatched = k) ∧
        ∀ limit, x.result ≠ .error (.stepLimitExceeded limit)) ∧
    ((∀ k x, e.Ends p { field := f } k x → m < k) →
      ∃ u, e.unlimited? p { field := f } m = some u ∧
        (e.withLimit m).execute p f = u.fail (.stepLimitExceeded m)) ∧
    (∃ n u, n ≤ m ∧ (e.withLimit m).underway? p f n = some u ∧
      (advance (e.withLimit m) p u.machine u.field).progress.goesOn = false) ∧
    (∀ n, ((e.withLimit m).course p f n).machine.dispatched ≤ m ∧
      (m ≤ maxWord → ((e.withLimit m).course p f n).machine.dispatched.toUInt64.toNat =
        ((e.withLimit m).course p f n).machine.dispatched)) ∧
    ∀ m', m ≤ m' →
      (∀ limit, ((e.withLimit m).execute p f).result ≠ .error (.stepLimitExceeded limit)) →
      (e.withLimit m').execute p f = (e.withLimit m).execute p f := by
  refine ⟨fun k x hx hk => ?_, fun hnone => ?_, ?_, fun n => ?_, fun m' hm' hne => ?_⟩
  · refine ⟨Engine.execute_of_ends (Engine.ends_withLimit_iff.2 hx) hk, ?_, fun r hr => ?_,
      hx.result_ne⟩
    · simpa using hx.dispatched
    · simpa using hx.report hr
  · obtain ⟨k, hk, x, hx⟩ | ⟨v, hv, hend⟩ := Engine.ends_or_unlimited? e p { field := f } m
    · exact absurd (hnone k x hx) (by omega)
    · exact ⟨v, hv, Engine.execute_of_limit (e := e.withLimit m)
        (Engine.unlimited?_withLimit.trans hv) hend⟩
  · exact Engine.exists_last (e := e.withLimit m)
  · have hle : ((e.withLimit m).course p f n).machine.dispatched ≤ m :=
      Engine.dispatched_course_le n
    refine ⟨hle, fun hm => ?_⟩
    unfold maxWord at hm
    have hfits : ((e.withLimit m).course p f n).machine.dispatched < 2 ^ 64 := by omega
    exact UInt64.toNat_ofNat_of_lt hfits
  · obtain ⟨k, hk, hx⟩ := Engine.ends_of_ne_limit (hne m)
    exact Engine.execute_of_ends (Engine.ends_withLimit_iff.2 (Engine.ends_withLimit_iff.1 hx))
      (Nat.le_trans hk hm')

/-- A walk along a row of ten cells takes 28 dispatches, and a limit of 28 is enough for it. -/
theorem execute_within_limit_of_row :
    let e : Engine := {}
    let p : Program :=
      ⟨[⟨.loopStart "справа свободно", 1⟩, ⟨.command "вправо", 2⟩, ⟨.loopEnd, 3⟩], []⟩
    (∃ x, e.Ends p { field := default } 28 x ∧ (e.withLimit 28).execute p default = x) ∧
      (∀ k x, e.Ends p { field := default } k x → 27 < k) ∧
      (∃ u, e.unlimited? p { field := default } 27 = some u ∧
        (e.withLimit 27).execute p default = u.fail (.stepLimitExceeded 27)) ∧
      (e.withLimit 100).execute p default = (e.withLimit 28).execute p default := by
  intro e p
  have hany : (e.unlimited? p { field := default } 28).any (·.machine.isHalted p) := by
    decide +kernel
  obtain ⟨v, hv, hend⟩ := Option.any_eq_true _ _ |>.1 hany
  have hends : e.Ends p { field := default } 28 (v.finish p) := .halt hv hend
  have hlong : ∀ k x, e.Ends p { field := default } k x → 27 < k := by
    intro k x hx
    by_contra hk
    obtain ⟨hexecute, -, -, hne⟩ := (execute_within_limit e p default 27).1 k x hx (by omega)
    exact hne 27 (hexecute ▸ by decide +kernel)
  obtain ⟨hexecute, -, -, hne⟩ := (execute_within_limit e p default 28).1 28 _ hends (Nat.le_refl _)
  refine ⟨⟨_, hends, hexecute⟩, hlong, (execute_within_limit e p default 27).2.1 hlong, ?_⟩
  exact (execute_within_limit e p default 28).2.2.2.2 100 (by decide) (hexecute ▸ hne)

end RobotScript
