import RobotScript.Proofs.Structured.Block
import RobotScript.Run.Report

/-!
The meaning of a block-structured script, by recursion on its blocks.

A walk evaluates the guard of a loop, walks through the body and comes back to the guard; there is
no index of an instruction and no stack of loops. One dispatch is counted for every command, every
guard and condition, every `кц` and every `все` that is reached. `Block.walk_loop` is the equation of
a loop: the number of turns that the definition carries bounds nothing that the step limit does not.
-/

namespace RobotScript

/-- What a walk leaves behind. -/
structure Trail where
  dispatched : Nat := 0
  field : Field
  /-- The events of the ticks, each with the place of the robot after it; the newest first. -/
  ticks : List (Event × Cell) := []

/-- The trail after a command that was carried out. -/
def Trail.record (t : Trail) (d : Dispatch) (f : Field) : Trail where
  dispatched := t.dispatched
  field := f
  ticks :=
    match d with
    | .tick event => (event, f.robot.position) :: t.ticks
    | _ => t.ticks

/-- A part of a walk: it may fail, and the trail it leaves is kept when it does. -/
abbrev Walk := EStateM Failure Trail

namespace Walk

variable (e : Engine)

/-- Counts a dispatch, unless the steps are used up. -/
def count : Walk Unit := fun t =>
  if e.settings.maxSteps ≤ t.dispatched then
    .error (.stepLimitExceeded e.settings.maxSteps) t
  else .ok () { t with dispatched := t.dispatched + 1 }

/-- Carries out a command word that has been counted. -/
def perform (keyword : String) (line : Nat) : Walk Unit := fun t =>
  match e.vocabulary.find? keyword with
  | none => .error (.unknownCommand keyword line) t
  | some command =>
    match command.perform e.settings.motion line t.field with
    | (.ok d, f) => .ok () (t.record d f)
    | (.error failure, f) => .error failure { t with field := f }

/-- Asks something about the field. -/
def ask (question : Field → Except Failure Bool) : Walk Bool := fun t =>
  match question t.field with
  | .ok b => .ok b t
  | .error failure => .error failure t

/-- Counts a dispatch and asks something about the field. -/
def check (question : Field → Except Failure Bool) : Walk Bool := do
  count e
  ask question

/-- Goes through a body if the answer is yes. -/
def once (question : Field → Except Failure Bool) (body : Walk Unit) : Walk Unit := do
  if ← check e question then body

/-- Goes through a body as long as the answer is yes, asking at most `turns` times. -/
def turns (question : Field → Except Failure Bool) (body : Walk Unit) : Nat → Walk Unit
  | 0 => throw (.stepLimitExceeded e.settings.maxSteps)
  | n + 1 => do
    if ← check e question then
      body
      turns question body n

end Walk

/-- **The walk through a block.** -/
def Block.walk (e : Engine) : Block → Walk Unit
  | done => pure ()
  | command keyword line rest => do
    Walk.count e
    Walk.perform e keyword line
    rest.walk e
  | loop guard line body _ rest => do
    Walk.turns e (checkGuard guard · line) (do body.walk e; Walk.count e) e.settings.maxSteps
    rest.walk e
  | conditional condition line body _ rest => do
    Walk.once e (checkCondition condition · line) (do body.walk e; Walk.count e)
    rest.walk e

/-- The walk through a block on a field: how it ends and the trail it leaves. -/
def Block.run (e : Engine) (b : Block) (f : Field) : Except Failure Unit × Trail :=
  match b.walk e { field := f } with
  | .ok _ t => (.ok (), t)
  | .error failure t => (.error failure, t)

/-- Whether a failure is about a block that does not match. -/
def Failure.isBlockFault : Failure → Bool
  | unterminatedLoop _ => true
  | unterminatedConditional _ => true
  | unmatchedLoopEnd _ => true
  | _ => false

namespace Walk

/-! ### Parts of a walk one after another -/

section Bind

variable {α β : Type} {x : Walk α} {k : α → Walk β} {t t' : Trail}

theorem bind_of_ok {a : α} (h : x t = .ok a t') : (x >>= k) t = k a t' := by
  show EStateM.bind x k t = _
  rw [EStateM.bind, h]

theorem bind_of_error {failure : Failure} (h : x t = .error failure t') :
    (x >>= k) t = .error failure t' := by
  show EStateM.bind x k t = _
  rw [EStateM.bind, h]

/-- What follows sees only the result of a part. -/
theorem bind_congr {y : Walk α} (h : x t = y t) : (x >>= k) t = (y >>= k) t := by
  show EStateM.bind x k t = EStateM.bind y k t
  rw [EStateM.bind, EStateM.bind, h]

/-- What is known of a part of a walk wherever it starts: it takes no dispatch back, and blocks that
do not match are none of its failures. -/
structure Sound (x : Walk α) : Prop where
  le {t t' : Trail} {a : α} : x t = .ok a t' → t.dispatched ≤ t'.dispatched
  fault {t t' : Trail} {failure : Failure} :
    x t = .error failure t' → failure.isBlockFault = false

theorem Sound.pure (a : α) : Sound (Pure.pure a : Walk α) where
  le h := by
    cases h
    exact Nat.le_refl _
  fault h := nomatch h

theorem Sound.bind (hx : Sound x) (hk : ∀ a, Sound (k a)) : Sound (x >>= k) where
  le {t t' b} h := by
    rcases hxt : x t with ⟨a, s⟩ | ⟨failure, s⟩
    · rw [bind_of_ok hxt] at h
      exact Nat.le_trans (hx.le hxt) ((hk a).le h)
    · rw [bind_of_error hxt] at h
      cases h
  fault {t t' failure} h := by
    rcases hxt : x t with ⟨a, s⟩ | ⟨failure', s⟩
    · rw [bind_of_ok hxt] at h
      exact (hk a).fault h
    · rw [bind_of_error hxt] at h
      cases h
      exact hx.fault hxt

end Bind

/-! ### Single dispatches -/

section Dispatches

variable {e : Engine} {question : Field → Except Failure Bool} {t : Trail}

theorem count_of_limit (h : e.settings.maxSteps ≤ t.dispatched) :
    count e t = .error (.stepLimitExceeded e.settings.maxSteps) t := if_pos h

theorem count_of_lt (h : t.dispatched < e.settings.maxSteps) :
    count e t = .ok () { t with dispatched := t.dispatched + 1 } := if_neg (by omega)

theorem sound_count (e : Engine) : Sound (count e) where
  le {t t' a} h := by
    unfold count at h
    split at h
    · cases h
    · cases h
      exact Nat.le_succ _
  fault {t t' failure} h := by
    unfold count at h
    split at h
    · cases h
      rfl
    · cases h

/-- A command fails at a wall only. -/
lemma isBlockFault_perform {c : Command} {motion : Motion} {line : Nat} {f : Field}
    {failure : Failure} (h : (c.perform motion line f).1 = .error failure) :
    failure.isBlockFault = false := by
  unfold Command.perform at h
  split at h
  · cases h
  · split at h
    · cases h
    · dsimp only at h
      split at h
      · cases h
      · cases h
        rfl

theorem sound_perform (e : Engine) (keyword : String) (line : Nat) :
    Sound (perform e keyword line) where
  le {t t' a} h := by
    unfold perform at h
    split at h
    · cases h
    · split at h
      · cases h
        exact Nat.le_refl _
      · cases h
  fault {t t' failure} h := by
    unfold perform at h
    split at h
    · cases h
      rfl
    · split at h
      · cases h
      · next hp =>
        cases h
        exact isBlockFault_perform (congrArg Prod.fst hp)

theorem ask_of_ok {b : Bool} (h : question t.field = .ok b) : ask question t = .ok b t := by
  rw [ask, h]

theorem ask_of_error {failure : Failure} (h : question t.field = .error failure) :
    ask question t = .error failure t := by
  rw [ask, h]

/-- A question leaves the trail as it is. -/
theorem eq_of_ask {t' : Trail} {b : Bool} (h : ask question t = .ok b t') : t' = t := by
  rcases hf : question t.field with failure | b'
  · rw [ask_of_error hf] at h
    cases h
  · rw [ask_of_ok hf] at h
    cases h
    rfl

/-- A question whose failures have nothing to do with blocks. -/
def Harmless (question : Field → Except Failure Bool) : Prop :=
  ∀ f failure, question f = .error failure → failure.isBlockFault = false

theorem harmless_checkCondition (text : String) (line : Nat) :
    Harmless (checkCondition text · line) := by
  intro f failure h
  dsimp only at h
  unfold checkCondition at h
  split at h
  · cases h
    rfl
  · cases h

theorem harmless_checkGuard (text : String) (line : Nat) : Harmless (checkGuard text · line) := by
  intro f failure h
  dsimp only at h
  unfold checkGuard at h
  split at h
  · cases h
  · exact harmless_checkCondition text line f failure h

theorem sound_check (e : Engine) (hq : Harmless question) : Sound (check e question) := by
  refine (sound_count e).bind fun _ => ⟨fun {t t' a} h => ?_, fun {t t' failure} h => ?_⟩
  · obtain rfl := eq_of_ask h
    exact Nat.le_refl _
  · rcases hf : question t.field with failure' | b
    · rw [ask_of_error hf] at h
      cases h
      exact hq _ _ hf
    · rw [ask_of_ok hf] at h
      cases h

end Dispatches

/-! ### Loops -/

section Turns

variable {e : Engine} {question : Field → Except Failure Bool} {body : Walk Unit}

theorem sound_once (hq : Harmless question) (hb : Sound body) : Sound (once e question body) := by
  refine (sound_check e hq).bind fun b => ?_
  cases b with
  | false => exact Sound.pure ()
  | true => exact hb

theorem sound_turns (hq : Harmless question) (hb : Sound body) (n : Nat) :
    Sound (turns e question body n) := by
  induction n with
  | zero =>
    refine ⟨?_, ?_⟩
    · intro t t' a h
      cases h
    · intro t t' failure h
      cases h
      rfl
  | succ n ih =>
    refine (sound_check e hq).bind fun b => ?_
    cases b with
    | false => exact Sound.pure ()
    | true => exact hb.bind fun _ => ih

/-- An answer has been counted. -/
lemma dispatched_of_check {t t' : Trail} {b : Bool} (h : check e question t = .ok b t') :
    t.dispatched < e.settings.maxSteps ∧ t'.dispatched = t.dispatched + 1 := by
  rcases Nat.lt_or_ge t.dispatched e.settings.maxSteps with hlt | hge
  · refine ⟨hlt, ?_⟩
    rw [check, bind_of_ok (count_of_lt hlt)] at h
    rw [eq_of_ask h]
  · rw [check, bind_of_error (count_of_limit hge)] at h
    cases h

/-- One turn of a loop. -/
theorem turns_succ (n : Nat) (t : Trail) :
    turns e question body (n + 1) t =
      (check e question >>= fun b =>
        if b then (body >>= fun _ => turns e question body n) else pure ()) t := rfl

/-- A loop with no step left fails, whatever its number of turns. -/
lemma turns_of_limit {t : Trail} (h : e.settings.maxSteps ≤ t.dispatched) (n : Nat) :
    turns e question body n t = .error (.stepLimitExceeded e.settings.maxSteps) t := by
  cases n with
  | zero => rfl
  | succ n =>
    have hc : check e question t = .error (.stepLimitExceeded e.settings.maxSteps) t :=
      bind_of_error (count_of_limit h)
    rw [turns_succ, bind_of_error hc]

/-- **The number of turns does not matter** once there are as many as steps left. -/
theorem turns_congr (hb : Sound body) {n k : Nat} {t : Trail}
    (hn : e.settings.maxSteps ≤ n + t.dispatched) (hk : e.settings.maxSteps ≤ k + t.dispatched) :
    turns e question body n t = turns e question body k t := by
  induction n generalizing k t with
  | zero =>
    have hlimit : e.settings.maxSteps ≤ t.dispatched := by omega
    rw [turns_of_limit hlimit, turns_of_limit hlimit]
  | succ n ih =>
    rcases Nat.lt_or_ge t.dispatched e.settings.maxSteps with hlt | hge
    · obtain ⟨k, rfl⟩ : ∃ k', k = k' + 1 := ⟨k - 1, by omega⟩
      rw [turns_succ, turns_succ]
      rcases hc : check e question t with ⟨b, t₁⟩ | ⟨failure, t₁⟩
      · have h₁ := (dispatched_of_check hc).2
        rw [bind_of_ok hc, bind_of_ok hc]
        cases b with
        | false => rfl
        | true =>
          -- the answer has used up a step, and the body takes none back
          show (body >>= _) t₁ = (body >>= _) t₁
          rcases hbt : body t₁ with ⟨_, t₂⟩ | ⟨failure, t₂⟩
          · have h₂ := hb.le hbt
            rw [bind_of_ok hbt, bind_of_ok hbt]
            exact ih (by omega) (by omega)
          · rw [bind_of_error hbt, bind_of_error hbt]
      · rw [bind_of_error hc, bind_of_error hc]
    · rw [turns_of_limit hge, turns_of_limit hge]

end Turns

end Walk

/-! ### Whole blocks -/

namespace Block

variable (e : Engine)

/-- A walk takes no dispatch back, and never fails because blocks do not match. -/
theorem sound_walk (b : Block) : Walk.Sound (b.walk e) := by
  induction b with
  | done => exact Walk.Sound.pure ()
  | command keyword line rest ih =>
    exact (Walk.sound_count e).bind fun _ => (Walk.sound_perform e keyword line).bind fun _ => ih
  | loop guard line body endLine rest ihb ihr =>
    have hbody := ihb.bind fun _ => Walk.sound_count e
    exact (Walk.sound_turns (Walk.harmless_checkGuard guard line) hbody _).bind fun _ => ihr
  | conditional condition line body endLine rest ihb ihr =>
    have hbody := ihb.bind fun _ => Walk.sound_count e
    exact (Walk.sound_once (Walk.harmless_checkCondition condition line) hbody).bind fun _ => ihr

/-- **The equation of a loop**: ask the guard, walk through the body, count its end and start
again, or go on after the loop. -/
theorem walk_loop (guard : String) (line : Nat) (body : Block) (endLine : Nat) (rest : Block)
    (t : Trail) :
    (loop guard line body endLine rest).walk e t =
      (Walk.check e (checkGuard guard · line) >>= fun holds =>
        if holds then
          (body.walk e >>= fun _ => Walk.count e >>= fun _ =>
            (loop guard line body endLine rest).walk e)
        else rest.walk e) t := by
  have hbody : Walk.Sound (body.walk e >>= fun _ => Walk.count e) :=
    (sound_walk e body).bind fun _ => Walk.sound_count e
  -- one more turn than the definition carries, so that the first turn can be taken off
  have hturn : Walk.turns e (checkGuard guard · line) (body.walk e >>= fun _ => Walk.count e)
      e.settings.maxSteps t = Walk.turns e (checkGuard guard · line)
        (body.walk e >>= fun _ => Walk.count e) (e.settings.maxSteps + 1) t :=
    Walk.turns_congr hbody (by omega) (by omega)
  calc (loop guard line body endLine rest).walk e t
      = (Walk.turns e (checkGuard guard · line) (body.walk e >>= fun _ => Walk.count e)
          (e.settings.maxSteps + 1) >>= fun _ => rest.walk e) t := Walk.bind_congr hturn
    _ = _ := by
      rw [Walk.turns, bind_assoc]
      refine congrFun (congrArg _ (funext fun holds => ?_)) t
      cases holds with
      | false => simp
      | true => simp [walk, bind_assoc]

end Block

end RobotScript
