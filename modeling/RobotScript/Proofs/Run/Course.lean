import RobotScript.Proofs.Run.Resume

/-!
The course of a run from its start to its end.

`Engine.course` is the run after at most `n` dispatches, the failing or halting one counted, so its
values are the prefixes of the run. What holds at the start and is kept by every dispatch holds all
along the course (`Engine.course_induction`), and `Engine.execute_cases` says how an execution comes
to its end.
-/

namespace RobotScript.Engine

variable (e : Engine) (p : Program) (f : Field)

/-- The run of a program on a field after at most `n` dispatches. A run that has ended stays as it
is. -/
def course : Nat → Underway
  | 0 => { field := f }
  | n + 1 =>
    match e.underway? p f n with
    | some u => u.after (advance e p u.machine u.field)
    | none => course n

variable {e p f} {n : Nat} {u : Underway}

lemma course_succ (h : e.underway? p f n = some u) :
    e.course p f (n + 1) = u.after (advance e p u.machine u.field) := by
  rw [course, h]

lemma course_succ_of_none (h : e.underway? p f n = none) :
    e.course p f (n + 1) = e.course p f n := by
  rw [course, h]

/-- A run that goes on is where its course is. -/
theorem course_of_underway? (h : e.underway? p f n = some u) : e.course p f n = u := by
  cases n with
  | zero =>
    cases h
    rfl
  | succ n =>
    obtain ⟨v, hv, -, rfl⟩ := underway?_succ_eq_some h
    exact course_succ hv

/-- **What every dispatch keeps holds all along the course.** -/
theorem course_induction {motive : Nat → Underway → Prop} (start : motive 0 { field := f })
    (dispatch : ∀ n u, e.underway? p f n = some u → motive n u →
      motive (n + 1) (u.after (advance e p u.machine u.field)))
    (rest : ∀ n u, motive n u → motive (n + 1) u) (n : Nat) : motive n (e.course p f n) := by
  induction n with
  | zero => exact start
  | succ n ih =>
    rcases h : e.underway? p f n with _ | u
    · rw [course_succ_of_none h]
      exact rest n _ ih
    · rw [course_succ h]
      rw [course_of_underway? h] at ih
      exact dispatch n u h ih

/-! ### The end of a run -/

lemma underway?_of_lt (h : e.underway? p f n = none) {k : Nat} (hk : n ≤ k) :
    e.underway? p f k = none := by
  induction hk with
  | refl => exact h
  | step _ ih => rw [underway?, ih, Option.bind_none]

/-- A run that has ended stays at its end. -/
lemma course_of_none (h : e.underway? p f n = none) {k : Nat} (hk : n ≤ k) :
    e.course p f k = e.course p f n := by
  induction hk with
  | refl => rfl
  | @step k hk ih => rw [course_succ_of_none (underway?_of_lt h hk), ih]

/-- Every run has a last dispatch. -/
lemma exists_last : ∃ n u, n ≤ e.settings.maxSteps ∧ e.underway? p f n = some u ∧
    (advance e p u.machine u.field).progress.goesOn = false := by
  -- otherwise the run would go on for more dispatches than there are steps
  by_contra hno
  have hgoes : ∀ n ≤ e.settings.maxSteps + 1, ∃ u, e.underway? p f n = some u := by
    intro n
    induction n with
    | zero => exact fun _ => ⟨_, rfl⟩
    | succ n ih =>
      intro hn
      obtain ⟨u, hu⟩ := ih (by omega)
      have ha : (advance e p u.machine u.field).progress.goesOn := by
        by_contra ha
        exact hno ⟨n, u, by omega, hu, Bool.eq_false_iff.2 ha⟩
      exact ⟨_, underway?_succ hu ha⟩
  obtain ⟨u, hu⟩ := hgoes (e.settings.maxSteps + 1) (Nat.le_refl _)
  have := (dispatched_of_underway? hu).2
  omega

/-- **How an execution ends**: some dispatch of the run finds the end of the program or fails, and
the execution is the run right after it, which is also where the course of the run stays. -/
theorem execute_cases (e : Engine) (p : Program) (f : Field) :
    ∃ n u, e.underway? p f n = some u ∧
      (∀ k, n < k → e.course p f k = u.after (advance e p u.machine u.field)) ∧
      ((advance e p u.machine u.field).progress = .halted ∧
          e.execute p f = (u.after (advance e p u.machine u.field)).finish p ∨
        ∃ failure, (advance e p u.machine u.field).progress = .failed failure ∧
          e.execute p f = (u.after (advance e p u.machine u.field)).fail failure) := by
  obtain ⟨n, u, hn, hu, hgoes⟩ := exists_last (e := e) (p := p) (f := f)
  have hle : u.machine.dispatched ≤ e.settings.maxSteps := by
    have := (dispatched_of_underway? hu).1
    omega
  have hnone : e.underway? p f (n + 1) = none := by
    rw [underway?, hu]
    exact if_neg (by rw [hgoes]; exact Bool.false_ne_true)
  refine ⟨n, u, hu, fun k hk => ?_, ?_⟩
  · rw [course_of_none hnone hk, course_succ hu]
  · rw [execute_eq_of_underway? hu]
    rcases hp : (advance e p u.machine u.field).progress with _ | _ | t | failure
    · exact Or.inl ⟨rfl, resume_of_halted hle hp⟩
    · rw [hp] at hgoes
      cases hgoes
    · rw [hp] at hgoes
      cases hgoes
    · exact Or.inr ⟨failure, rfl, resume_of_failed hle hp⟩

/-- **The execution ends where the course of the run ends.** -/
theorem last_execute (e : Engine) (p : Program) (f : Field) :
    (e.execute p f).last = e.course p f (e.settings.maxSteps + 1) := by
  obtain ⟨n, u, hu, hcourse, ⟨-, hx⟩ | ⟨failure, -, hx⟩⟩ := execute_cases e p f
  · have := (dispatched_of_underway? hu).2
    rw [hx, hcourse _ (by omega)]
    rfl
  · have := (dispatched_of_underway? hu).2
    rw [hx, hcourse _ (by omega)]
    rfl

/-- A report has the ticks of its run. -/
lemma ticks_of_ok {r : Report} (h : (e.execute p f).result = .ok r) :
    r.ticks = (e.execute p f).last.ticks.reverse := by
  obtain ⟨n, u, -, -, ⟨-, hx⟩ | ⟨failure, -, hx⟩⟩ := execute_cases e p f
  · rw [hx] at h ⊢
    cases h
    rfl
  · rw [hx] at h
    cases h

end RobotScript.Engine
