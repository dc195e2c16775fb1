import RobotScript.Proofs.Run.Resume
import RobotScript.Proofs.Structured.Walk

/-!
The machine implements structured control flow.

`Follows` relates a run of the machine to a part of a walk: both fail alike, or the machine comes to
a given place with the trail of the walk. The main statement, `execute_flatten`, compares a whole
execution of a flattened block with the walk through the block. Its core is `follows_walk`, by
induction on the block; a loop is `follows_loop`, by induction on the steps that are left.
-/

namespace RobotScript

open Walk

/-- What a walk keeps of a tick. -/
def Tick.view (k : Tick) : Event × Cell := (k.event, k.position)

/-- Where a machine stands: its index and its loops. -/
def Machine.place (m : Machine) : Nat × List Nat := (m.pc, m.loops)

/-- A run has done what a trail records, within the step limit. -/
structure Underway.Matches (u : Underway) (e : Engine) (t : Trail) : Prop where
  dispatched : u.machine.dispatched = t.dispatched
  field : u.field = t.field
  ticks : u.ticks.map Tick.view = t.ticks
  within : t.dispatched ≤ e.settings.maxSteps

/-- **The run `u` does what a part of a walk did**: it fails like it, or comes to the place that goes
with its answer. -/
def Follows {α : Type} (e : Engine) (p : Program) (u : Underway) (place : α → Nat × List Nat) :
    EStateM.Result Failure Trail α → Prop
  | .ok a t => ∃ u' : Underway,
      u'.Matches e t ∧ u'.machine.place = place a ∧ e.resume p u = e.resume p u'
  | .error failure t => ∃ u' : Underway, u'.Matches e t ∧ e.resume p u = u'.fail failure

section Steps

variable {e : Engine} {p : Program} {u : Underway} {m : Machine} {f : Field}

/-! ### One dispatch of a run -/

lemma resume_of_silent (h : u.machine.step e p u.field = ⟨.ok .silent, m, f⟩) :
    e.resume p u = e.resume p { u with machine := m, field := f } := by
  have ha := advance_of_silent h
  rw [Engine.resume_of_goesOn (by rw [ha]; rfl), ha]
  rfl

lemma resume_of_tick {event : Event} (h : u.machine.step e p u.field = ⟨.ok (.tick event), m, f⟩) :
    ∃ k : Tick, k.view = (event, f.robot.position) ∧
      e.resume p u = e.resume p ⟨m, f, k :: u.ticks, ⟨event, f⟩ :: u.sightings⟩ := by
  have ha := advance_of_tick h
  refine ⟨⟨u.machine.pc, lineAt p.instructions u.machine.pc, event, f.robot.position⟩, rfl, ?_⟩
  rw [Engine.resume_of_goesOn (by rw [ha]; rfl), ha]
  rfl

lemma resume_of_error {failure : Failure} (hd : u.machine.dispatched ≤ e.settings.maxSteps)
    (h : u.machine.step e p u.field = ⟨.error failure, m, f⟩) :
    ∃ u' : Underway, u'.machine = m ∧ u'.field = f ∧ u'.ticks = u.ticks ∧
      e.resume p u = u'.fail failure := by
  have ha := advance_of_error h
  refine ⟨u.after (advance e p u.machine u.field), ?_, ?_, ?_,
    Engine.resume_of_failed hd (by rw [ha])⟩
  · rw [ha]; rfl
  · rw [ha]; rfl
  · rw [ha]; rfl

end Steps

namespace Follows

variable {α β : Type} {e : Engine} {p : Program} {u : Underway} {t : Trail}
  {place : α → Nat × List Nat} {place' : β → Nat × List Nat}

/-- A part of a walk that does nothing. -/
theorem here {a : α} (hm : u.Matches e t) (hp : u.machine.place = place a) :
    Follows e p u place (.ok a t) := ⟨u, hm, hp, rfl⟩

/-- Two parts of a walk one after another. -/
theorem bind {x : Walk α} {k : α → Walk β} (hx : Follows e p u place (x t))
    (hk : ∀ a t' (u' : Underway), x t = .ok a t' → u'.Matches e t' → u'.machine.place = place a →
      Follows e p u' place' (k a t')) :
    Follows e p u place' ((x >>= k) t) := by
  rcases hxt : x t with ⟨a, t'⟩ | ⟨failure, t'⟩
  · rw [hxt] at hx
    obtain ⟨u', hm, hp, hr⟩ := hx
    rw [bind_of_ok hxt]
    have := hk a t' u' hxt hm hp
    -- the rest is followed by `u'`, and the run reaches `u'`
    rcases hkt : k a t' with ⟨b, t''⟩ | ⟨failure, t''⟩
    · rw [hkt] at this
      obtain ⟨u'', hm', hp', hr'⟩ := this
      exact ⟨u'', hm', hp', hr.trans hr'⟩
    · rw [hkt] at this
      obtain ⟨u'', hm', hr'⟩ := this
      exact ⟨u'', hm', hr.trans hr'⟩
  · rw [hxt] at hx
    rw [bind_of_error hxt]
    exact hx

/-- The trail with one dispatch more. -/
def counted (t : Trail) : Trail := { t with dispatched := t.dispatched + 1 }

/-- **A dispatch**: with no step left both sides fail, and else the instruction decides. -/
theorem count_bind {i : Instruction} {k : Walk α} (hi : p.instructions[u.machine.pc]? = some i)
    (hm : u.Matches e t)
    (hk : u.machine.step e p u.field = Machine.dispatch e p.instructions i
        { u.machine with dispatched := u.machine.dispatched + 1 } u.field →
      t.dispatched < e.settings.maxSteps → Follows e p u place (k (counted t))) :
    Follows e p u place ((count e >>= fun _ => k) t) := by
  rcases Nat.lt_or_ge t.dispatched e.settings.maxSteps with hlt | hge
  · rw [bind_of_ok (count_of_lt hlt)]
    exact hk (Machine.step_of_lt hi (by rw [hm.dispatched]; exact hlt)) hlt
  · rw [bind_of_error (count_of_limit hge)]
    have hstep := Machine.step_of_limit (f := u.field) hi (by rw [hm.dispatched]; exact hge)
    obtain ⟨u', hm', hf', ht', hr⟩ := resume_of_error (by rw [hm.dispatched]; exact hm.within) hstep
    refine ⟨u', ⟨?_, ?_, ?_, hm.within⟩, hr⟩
    · rw [hm', hm.dispatched]
    · rw [hf', hm.field]
    · rw [ht', hm.ticks]

/-- A dispatch that only moves the machine. -/
theorem silent {a : α} {m : Machine} (hm : u.Matches e t) (hlt : t.dispatched < e.settings.maxSteps)
    (hstep : u.machine.step e p u.field = ⟨.ok .silent, m, u.field⟩)
    (hd : m.dispatched = u.machine.dispatched + 1) (hp : m.place = place a) :
    Follows e p u place (.ok a (counted t)) := by
  refine ⟨{ u with machine := m }, ⟨?_, hm.field, hm.ticks, hlt⟩, hp, resume_of_silent hstep⟩
  show m.dispatched = t.dispatched + 1
  rw [hd, hm.dispatched]

/-- A dispatch that fails and leaves the field `f`. -/
theorem failed {failure : Failure} {m : Machine} {f : Field} (hm : u.Matches e t)
    (hlt : t.dispatched < e.settings.maxSteps)
    (hstep : u.machine.step e p u.field = ⟨.error failure, m, f⟩)
    (hd : m.dispatched = u.machine.dispatched + 1) :
    Follows e p u place (.error failure { counted t with field := f }) := by
  obtain ⟨u', hm', hf', ht', hr⟩ := resume_of_error (by rw [hm.dispatched]; exact hm.within) hstep
  refine ⟨u', ⟨?_, hf', ?_, hlt⟩, hr⟩
  · show _ = t.dispatched + 1
    rw [hm', hd, hm.dispatched]
  · rw [ht', hm.ticks]
    rfl

/-- A dispatch that fails and does nothing else. -/
theorem refused {failure : Failure} {m : Machine} (hm : u.Matches e t)
    (hlt : t.dispatched < e.settings.maxSteps)
    (hstep : u.machine.step e p u.field = ⟨.error failure, m, u.field⟩)
    (hd : m.dispatched = u.machine.dispatched + 1) :
    Follows e p u place (.error failure (counted t)) := by
  have h : Follows e p u place (.error failure { counted t with field := u.field }) :=
    failed hm hlt hstep hd
  rwa [hm.field] at h

/-! ### One dispatch for each kind of instruction -/

section Instructions

variable {line : Nat}

/-- A command that is carried out ticks or is silent. -/
lemma ok_perform {c : Command} {motion : Motion} {f f' : Field} {d : Dispatch}
    (h : c.perform motion line f = (.ok d, f')) : d = .silent ∨ ∃ event, d = .tick event := by
  unfold Command.perform at h
  split at h
  · cases h
    exact Or.inr ⟨_, rfl⟩
  · split at h
    · cases h
      exact Or.inl rfl
    · dsimp only at h
      split at h
      · cases h
        exact Or.inr ⟨_, rfl⟩
      · cases h

theorem command {keyword : String} (hm : u.Matches e t)
    (hi : p.instructions[u.machine.pc]? = some ⟨.command keyword, line⟩) :
    Follows e p u (fun _ => (u.machine.pc + 1, u.machine.loops))
      ((count e >>= fun _ => perform e keyword line) t) := by
  refine count_bind hi hm fun hstep hlt => ?_
  have hf : (counted t).field = u.field := hm.field.symm
  simp only [Machine.dispatch, Machine.runCommand] at hstep
  unfold perform
  rw [hf]
  rcases hv : e.vocabulary.find? keyword with _ | c
  · rw [hv] at hstep
    exact refused hm hlt hstep rfl
  · rw [hv] at hstep
    dsimp only at hstep ⊢
    rcases hc : c.perform e.settings.motion line u.field with ⟨failure | d, f⟩
    · rw [hc] at hstep
      exact failed hm hlt hstep rfl
    · rw [hc] at hstep
      rcases ok_perform hc with rfl | ⟨event, rfl⟩
      · refine ⟨{ u with machine := _, field := f }, ⟨?_, rfl, hm.ticks, hlt⟩, rfl,
          resume_of_silent hstep⟩
        show u.machine.dispatched + 1 = t.dispatched + 1
        rw [hm.dispatched]
      · obtain ⟨k, hk, hr⟩ := resume_of_tick hstep
        refine ⟨_, ⟨?_, rfl, ?_, hlt⟩, rfl, hr⟩
        · show u.machine.dispatched + 1 = t.dispatched + 1
          rw [hm.dispatched]
        · show k.view :: u.ticks.map Tick.view = (event, f.robot.position) :: t.ticks
          rw [hk, hm.ticks]

/-- The start of a loop: into the body with the loop on the stack, or past the end without it. -/
theorem loopStart {guard : String} {exit : Nat} {inner outer : List Nat} (hm : u.Matches e t)
    (hi : p.instructions[u.machine.pc]? = some ⟨.loopStart guard, line⟩)
    (hexit : loopExit p.instructions u.machine.pc = .ok exit)
    (hinner : Machine.enterLoop u.machine.loops u.machine.pc = inner)
    (houter : Machine.leaveLoop u.machine.loops u.machine.pc = outer) :
    Follows e p u (fun holds => if holds then (u.machine.pc + 1, inner) else (exit, outer))
      (check e (checkGuard guard · line) t) := by
  refine count_bind hi hm fun hstep hlt => ?_
  have hf : (counted t).field = u.field := hm.field.symm
  simp only [Machine.dispatch, Machine.runLoopStart] at hstep
  rcases hg : checkGuard guard u.field line with failure | holds
  · rw [hg] at hstep
    rw [ask_of_error (by rw [hf, hg])]
    exact refused hm hlt hstep rfl
  · rw [hg] at hstep
    rw [ask_of_ok (by rw [hf, hg])]
    subst hinner houter
    cases holds with
    | true => exact silent hm hlt hstep rfl rfl
    | false =>
      simp only [hexit] at hstep
      exact silent hm hlt hstep rfl rfl

/-- The end of a loop: back to the start of the loop on top of the stack. -/
theorem loopEnd {start : Nat} {outer : List Nat} (hm : u.Matches e t)
    (hi : p.instructions[u.machine.pc]? = some ⟨.loopEnd, line⟩)
    (hl : u.machine.loops = start :: outer) :
    Follows e p u (fun _ => (start, start :: outer)) (count e t) := by
  rw [← bind_pure_unit (x := count e)]
  refine count_bind hi hm fun hstep hlt => ?_
  simp only [Machine.dispatch, Machine.runLoopEnd, hl] at hstep
  exact silent hm hlt hstep rfl rfl

/-- The start of a conditional: into the body, or past the end. -/
theorem ifStart {condition : String} {exit : Nat} (hm : u.Matches e t)
    (hi : p.instructions[u.machine.pc]? = some ⟨.ifStart condition, line⟩)
    (hexit : ifExit p.instructions u.machine.pc = .ok exit) :
    Follows e p u (fun holds => (if holds then u.machine.pc + 1 else exit, u.machine.loops))
      (check e (checkCondition condition · line) t) := by
  refine count_bind hi hm fun hstep hlt => ?_
  have hf : (counted t).field = u.field := hm.field.symm
  simp only [Machine.dispatch, Machine.runIfStart] at hstep
  rcases hg : checkCondition condition u.field line with failure | holds
  · rw [hg] at hstep
    rw [ask_of_error (by rw [hf, hg])]
    exact refused hm hlt hstep rfl
  · rw [hg] at hstep
    rw [ask_of_ok (by rw [hf, hg])]
    cases holds with
    | true => exact silent hm hlt hstep rfl rfl
    | false =>
      simp only [hexit] at hstep
      exact silent hm hlt hstep rfl rfl

/-- The end of a conditional: straight on. -/
theorem ifEnd (hm : u.Matches e t) (hi : p.instructions[u.machine.pc]? = some ⟨.ifEnd, line⟩) :
    Follows e p u (fun _ => (u.machine.pc + 1, u.machine.loops)) (count e t) := by
  rw [← bind_pure_unit (x := count e)]
  exact count_bind hi hm fun hstep hlt => silent hm hlt hstep rfl rfl

end Instructions

end Follows

/-! ### Whole blocks -/

section Blocks

variable {e : Engine} {p : Program}

/-- The run of a block from its start, under loops that all started before it, follows the walk
through it and comes out just behind it, under the same loops. -/
def Follows.Block (e : Engine) (p : Program) (b : Block) : Prop :=
  ∀ {start : Nat} {loops : List Nat} {u : Underway} {t : Trail},
    SegmentAt p.instructions start b.flatten → (∀ i ∈ loops, i < start) → u.Matches e t →
    u.machine.place = (start, loops) →
    Follows e p u (fun _ => (start + b.flatten.length, loops)) (b.walk e t)

lemma enterLoop_of_lt {loops : List Nat} {start : Nat} (h : ∀ i ∈ loops, i < start) :
    Machine.enterLoop loops start = start :: loops := by
  refine if_neg fun hs => ?_
  have := h start (List.mem_of_head? hs)
  omega

lemma leaveLoop_of_lt {loops : List Nat} {start : Nat} (h : ∀ i ∈ loops, i < start) :
    Machine.leaveLoop loops start = loops := by
  refine if_neg fun hs => ?_
  have := h start (List.mem_of_head? hs)
  omega

/-- **A loop is followed**, at its first turn and at every later one. The stack is that of the loops
around it, with the loop itself on top from the second turn on; the induction is on the steps left. -/
theorem follows_loop {guard : String} {line endLine start : Nat} {body rest : Block}
    {loops : List Nat} (hbody : Follows.Block e p body) (hrest : Follows.Block e p rest)
    (hseg : SegmentAt p.instructions start (Block.loop guard line body endLine rest).flatten)
    (hloops : ∀ i ∈ loops, i < start) {u : Underway} {t : Trail} (hm : u.Matches e t)
    (hpc : u.machine.pc = start) (hstack : u.machine.loops = loops ∨ u.machine.loops = start :: loops) :
    Follows e p u (fun _ => (start + (Block.loop guard line body endLine rest).flatten.length, loops))
      ((Block.loop guard line body endLine rest).walk e t) := by
  have hlater : SegmentAt p.instructions (start + 1 + body.flatten.length)
      (⟨.loopEnd, endLine⟩ :: rest.flatten) := hseg.tail.right
  have henter : Machine.enterLoop u.machine.loops u.machine.pc = start :: loops := by
    rcases hstack with h | h
    · rw [h, hpc, enterLoop_of_lt hloops]
    · rw [h, hpc]
      exact if_pos rfl
  have hleave : Machine.leaveLoop u.machine.loops u.machine.pc = loops := by
    rcases hstack with h | h
    · rw [h, hpc, leaveLoop_of_lt hloops]
    · rw [h, hpc]
      exact if_pos rfl
  have hexit : loopExit p.instructions u.machine.pc = .ok (start + 1 + body.flatten.length + 1) := by
    rw [hpc, loopExit_of_segmentAt hseg]
  rw [Block.walk_loop]
  refine (Follows.loopStart hm (by rw [hpc, hseg.head]) hexit henter hleave).bind ?_
  intro holds t₁ u₁ hcheck hm₁ hp₁
  have ht₁ := (Walk.dispatched_of_check hcheck).2
  cases holds with
  | false =>
    have hlen : (Block.loop guard line body endLine rest).flatten.length =
        1 + body.flatten.length + 1 + rest.flatten.length := by
      simp only [Block.flatten, List.length_cons, List.length_append]
      omega
    have := hrest hlater.tail (fun i hi => by have := hloops i hi; omega) hm₁ hp₁
    rwa [show start + 1 + body.flatten.length + 1 + rest.flatten.length =
      start + (Block.loop guard line body endLine rest).flatten.length by omega] at this
  | true =>
    have hinner : ∀ i ∈ start :: loops, i < start + 1 := by
      intro i hi
      rcases List.mem_cons.1 hi with rfl | hi
      · omega
      · have := hloops i hi
        omega
    rw [hpc] at hp₁
    refine (hbody hseg.tail.left hinner hm₁ hp₁).bind ?_
    intro _ t₂ u₂ hwalk hm₂ hp₂
    have ht₂ := (Block.sound_walk e body).le hwalk
    have hpc₂ : u₂.machine.pc = start + 1 + body.flatten.length := congrArg Prod.fst hp₂
    refine (Follows.loopEnd hm₂ (by rw [hpc₂, hlater.head]) (congrArg Prod.snd hp₂)).bind ?_
    intro _ t₃ u₃ hcount hm₃ hp₃
    have ht₃ := (Walk.sound_count e).le hcount
    have := hm₃.within
    exact follows_loop hbody hrest hseg hloops hm₃ (congrArg Prod.fst hp₃)
      (Or.inr (congrArg Prod.snd hp₃))
termination_by e.settings.maxSteps - t.dispatched

/-- **A block is followed.** -/
theorem follows_walk {b : Block} (hb : b.proper) : Follows.Block e p b := by
  induction b with
  | done =>
    intro start loops u t _ _ hm hp
    exact Follows.here hm hp
  | command keyword line rest ih =>
    intro start loops u t hseg hloops hm hp
    have hpc : u.machine.pc = start := congrArg Prod.fst hp
    have hl : u.machine.loops = loops := congrArg Prod.snd hp
    show Follows e p u _ ((count e >>= fun _ => perform e keyword line >>= fun _ => rest.walk e) t)
    rw [← bind_assoc]
    refine (Follows.command hm (by rw [hpc, hseg.head])).bind ?_
    intro _ t₁ u₁ _ hm₁ hp₁
    rw [hpc, hl] at hp₁
    have := ih hb hseg.tail (fun i hi => by have := hloops i hi; omega) hm₁ hp₁
    rwa [show start + 1 + rest.flatten.length =
      start + (Block.command keyword line rest).flatten.length by
        simp only [Block.flatten, List.length_cons]; omega] at this
  | loop guard line body endLine rest ihb ihr =>
    obtain ⟨hbody, hrest⟩ := Bool.and_eq_true_iff.1 hb
    intro start loops u t hseg hloops hm hp
    exact follows_loop (ihb hbody) (ihr hrest) hseg hloops hm (congrArg Prod.fst hp)
      (Or.inl (congrArg Prod.snd hp))
  | conditional condition line body endLine rest ihb ihr =>
    obtain ⟨hbody, hrest⟩ := Bool.and_eq_true_iff.1 hb
    intro start loops u t hseg hloops hm hp
    have hpc : u.machine.pc = start := congrArg Prod.fst hp
    have hl : u.machine.loops = loops := congrArg Prod.snd hp
    have hlater : SegmentAt p.instructions (start + 1 + body.flatten.length)
        (⟨.ifEnd, endLine⟩ :: rest.flatten) := hseg.tail.right
    have hexit : ifExit p.instructions u.machine.pc =
        .ok (start + 1 + body.flatten.length + 1) := by
      rw [hpc, ifExit_of_segmentAt hbody hseg]
    have hlen : start + (Block.conditional condition line body endLine rest).flatten.length =
        start + 1 + body.flatten.length + 1 + rest.flatten.length := by
      simp only [Block.flatten, List.length_cons, List.length_append]
      omega
    rw [hlen]
    have hrun : Follows e p u (fun _ => (start + 1 + body.flatten.length + 1, loops))
        (once e (checkCondition condition · line) (body.walk e >>= fun _ => count e) t) := by
      refine (Follows.ifStart hm (by rw [hpc, hseg.head]) hexit).bind ?_
      intro holds t₁ u₁ _ hm₁ hp₁
      rw [hpc, hl] at hp₁
      cases holds with
      | false => exact Follows.here hm₁ hp₁
      | true =>
        refine (ihb (Block.proper_of_unconditional hbody) hseg.tail.left
          (fun i hi => by have := hloops i hi; omega) hm₁ hp₁).bind ?_
        intro _ t₂ u₂ _ hm₂ hp₂
        have hpc₂ : u₂.machine.pc = start + 1 + body.flatten.length := congrArg Prod.fst hp₂
        have hl₂ : u₂.machine.loops = loops := congrArg Prod.snd hp₂
        have := Follows.ifEnd hm₂ (by rw [hpc₂, hlater.head])
        rwa [hpc₂, hl₂] at this
    refine hrun.bind ?_
    intro _ t₁ u₁ _ hm₁ hp₁
    exact ihr hrest hlater.tail (fun i hi => by have := hloops i hi; omega) hm₁ hp₁

end Blocks

/-! ### Whole executions -/

/-- **An execution does what a walk did**: the same end, the same ticks, the same count and the same
field, whether it succeeds or fails; a report says so too. -/
structure Execution.Agrees (x : Execution) (walked : Except Failure Unit × Trail)
    (skipped : List Nat) : Prop where
  result : x.result.map (fun _ => ()) = walked.1
  ticks : x.last.ticks.reverse.map Tick.view = walked.2.ticks.reverse
  dispatched : x.last.machine.dispatched = walked.2.dispatched
  field : x.field = walked.2.field
  report {r : Report} : x.result = .ok r → r.ticks.map Tick.view = walked.2.ticks.reverse ∧
    r.dispatched = walked.2.dispatched ∧ r.cancelled = false ∧ r.skipped = skipped

section Executions

variable {e : Engine} {b : Block} {f : Field} {skipped : List Nat} {u : Underway} {t : Trail}

/-- A run that has come to the end of its program has a report of its trail. -/
lemma agrees_of_end {p : Program} (hm : u.Matches e t) (hpc : u.machine.pc = p.instructions.length)
    (hs : p.skipped = skipped) : (e.resume p u).Agrees (.ok (), t) skipped := by
  have hhalted : u.machine.isHalted p := by simp [Machine.isHalted, hpc]
  have ha := advance_of_halted (Machine.step_of_isHalted (e := e) (f := u.field) hhalted)
  rw [Engine.resume_of_halted (by rw [hm.dispatched]; exact hm.within) (by rw [ha]), ha]
  have hticks : u.ticks.reverse.map Tick.view = t.ticks.reverse := by
    rw [List.map_reverse, hm.ticks]
  refine ⟨rfl, hticks, hm.dispatched, hm.field, fun {r} hr => ?_⟩
  cases hr
  exact ⟨hticks, hm.dispatched, rfl, hs⟩

lemma agrees_of_fail {failure : Failure} (hm : u.Matches e t) :
    (u.fail failure).Agrees (.error failure, t) skipped := by
  refine ⟨rfl, ?_, hm.dispatched, hm.field, fun hr => nomatch hr⟩
  show u.ticks.reverse.map Tick.view = t.ticks.reverse
  rw [List.map_reverse, hm.ticks]

lemma agrees_run (hb : b.proper) :
    (e.execute ⟨b.flatten, skipped⟩ f).Agrees (b.run e f) skipped := by
  have hm : ({ field := f } : Underway).Matches e { field := f } := ⟨rfl, rfl, rfl, Nat.zero_le _⟩
  have hfollows := follows_walk (e := e) (p := ⟨b.flatten, skipped⟩) hb
    (SegmentAt.whole b.flatten) (by simp) hm rfl
  rw [Engine.execute_eq_resume]
  unfold Block.run
  rcases hw : b.walk e { field := f } with ⟨_, t⟩ | ⟨failure, t⟩
  · rw [hw] at hfollows
    obtain ⟨u, hm', hp, hr⟩ := hfollows
    rw [hr]
    refine agrees_of_end hm' ?_ rfl
    have : u.machine.pc = 0 + b.flatten.length := congrArg Prod.fst hp
    rw [this, Nat.zero_add]
  · rw [hw] at hfollows
    obtain ⟨u, hm', hr⟩ := hfollows
    rw [hr]
    exact agrees_of_fail hm'

/-- A walk never fails because its blocks do not match. -/
lemma isBlockFault_run {failure : Failure} (h : (b.run e f).1 = .error failure) :
    failure.isBlockFault = false := by
  unfold Block.run at h
  rcases hw : b.walk e { field := f } with ⟨_, t⟩ | ⟨failure', t⟩
  · rw [hw] at h
    cases h
  · rw [hw] at h
    cases h
    exact (Block.sound_walk e b).fault hw

end Executions

/-- **The machine implements structured control flow.** For every block without a conditional inside
a conditional, every engine and every field, the execution of the flattened block agrees with the
walk through the block, and never fails because blocks do not match. -/
theorem execute_flatten (e : Engine) (b : Block) (hb : b.proper) (skipped : List Nat) (f : Field) :
    (e.execute ⟨b.flatten, skipped⟩ f).Agrees (b.run e f) skipped ∧
      ∀ line, (e.execute ⟨b.flatten, skipped⟩ f).result ≠ .error (.unterminatedLoop line) ∧
        (e.execute ⟨b.flatten, skipped⟩ f).result ≠ .error (.unterminatedConditional line) ∧
        (e.execute ⟨b.flatten, skipped⟩ f).result ≠ .error (.unmatchedLoopEnd line) := by
  have hagrees : (e.execute ⟨b.flatten, skipped⟩ f).Agrees (b.run e f) skipped := agrees_run hb
  have hfault : ∀ failure, (e.execute ⟨b.flatten, skipped⟩ f).result = .error failure →
      failure.isBlockFault = false := by
    intro failure h
    refine isBlockFault_run (e := e) (b := b) (f := f) ?_
    rw [← hagrees.result, h]
    rfl
  refine ⟨hagrees, fun line => ⟨fun h => ?_, fun h => ?_, fun h => ?_⟩⟩
  · exact absurd (hfault _ h) (by simp [Failure.isBlockFault])
  · exact absurd (hfault _ h) (by simp [Failure.isBlockFault])
  · exact absurd (hfault _ h) (by simp [Failure.isBlockFault])

/-- A loop in a loop, a conditional beside it and a loop in the conditional. -/
def Block.snake : Block :=
  .loop "справа свободно" 1
    (.loop "снизу свободно" 2 (.command "вниз" 3 .done) 4
      (.conditional "слева стена" 5
        (.loop "сверху свободно" 6 (.command "вверх" 7 .done) 8 .done) 9
        (.command "вправо" 10 .done))) 11
    (.command "закрасить" 12 .done)

theorem execute_flatten_snake :
    Block.snake.proper ∧
      (({} : Engine).execute ⟨Block.snake.flatten, [13]⟩ default).Agrees
        (Block.snake.run {} default) [13] :=
  ⟨by decide, (execute_flatten {} Block.snake (by decide) [13] default).1⟩

end RobotScript
