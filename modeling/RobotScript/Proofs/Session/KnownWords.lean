import RobotScript.Proofs.Run.Fault
import RobotScript.Proofs.Script.Registration
import RobotScript.Proofs.Session.Interleaving

/-!
No run meets a word that it does not know.

Reading keeps only words of the vocabulary (`speaksOnly_ofSource`), and a dispatch that does not
know its word has found it in the program (`unknown_of_step`). So a run of a script fails for an
unknown word only if it was read with another vocabulary. In a session this is an invariant of the
run, `Run.KnowsWords`, that every action keeps (`KnowsWords.step`), whoever else moves. The main
statement is `reading_agrees_with_running`.
-/

namespace RobotScript

/-! ### Words of a program -/

/-- **Every command word of a program is a word of the vocabulary.** -/
def Program.SpeaksOnly (p : Program) (v : Vocabulary) : Prop :=
  ∀ k line, ⟨.command k, line⟩ ∈ p.instructions → (v.find? k).isSome

lemma Program.SpeaksOnly.find?_ne_none {p : Program} {v : Vocabulary} (hp : p.SpeaksOnly v)
    {k : String} {line : Nat} (hmem : ⟨.command k, line⟩ ∈ p.instructions) : v.find? k ≠ none := by
  intro hnone
  have hknown := hp k line hmem
  rw [hnone] at hknown
  cases hknown

lemma speaksOnly_ofSource (v : Vocabulary) (source : String) :
    (Program.ofSource v source).SpeaksOnly v := by
  intro k line hmem
  obtain ⟨n, text, -, -, hyields⟩ := Source.mem_readLines.1 (Source.mem_instructions.1 hmem)
  cases hyields with
  | command ws noBlock word => exact word.known

section Runs

variable {e : Engine} {p : Program} {m : Machine} {f : Field} {k : String} {line : Nat}

lemma unknown_of_fault (h : m.Fault e p.instructions f (.unknownCommand k line)) :
    ⟨.command k, line⟩ ∈ p.instructions ∧ e.vocabulary.find? k = none := by
  cases h with
  | unknownWord at_pc unknown => exact ⟨List.mem_of_getElem? at_pc, unknown⟩

/-- **A dispatch that does not know its word has it from the program.** -/
theorem unknown_of_step (h : (m.step e p f).result = .error (.unknownCommand k line)) :
    ⟨.command k, line⟩ ∈ p.instructions ∧ e.vocabulary.find? k = none := by
  rcases fault_step h with ⟨hlimit, -⟩ | hfault
  · cases hlimit
  · exact unknown_of_fault hfault

/-- **An execution that does not know a word has it from the program.** -/
theorem unknown_of_execute (h : (e.execute p f).result = .error (.unknownCommand k line)) :
    ⟨.command k, line⟩ ∈ p.instructions ∧ e.vocabulary.find? k = none := by
  rcases fault_execute h with hlimit | ⟨n, u, -, hfault⟩
  · cases hlimit
  · exact unknown_of_fault hfault

/-- An engine that has all the words of a program makes no dispatch that does not know its word. -/
lemma advance_ne_unknown (hp : p.SpeaksOnly e.vocabulary) :
    (advance e p m f).progress ≠ .failed (.unknownCommand k line) := by
  intro h
  obtain ⟨hmem, hnone⟩ := unknown_of_step (result_step_of_failed h)
  exact hp.find?_ne_none hmem hnone

end Runs

namespace Session

/-! ### Runs of a session -/

/-- The result of a run that is over or on its way out. -/
def Phase.outcome? : Phase → Option (Except Failure Report)
  | leaving result => some result
  | left result => some result
  | _ => none

/-- **A run knows its words**: its program has words of the vocabulary only, and it has not failed
for another one. -/
structure Run.KnowsWords (v : Vocabulary) (r : Run) : Prop where
  words : r.program.SpeaksOnly v
  outcome : ∀ k line, r.phase.outcome? ≠ some (.error (.unknownCommand k line))

section Run

variable {v : Vocabulary} {r : Run} {σ : Type} {w : Watched σ}

lemma outcome?_of_isCheck (h : r.isCheck) : r.phase.outcome? = none := by
  rcases Run.phase_of_isCheck h with hp | hp
  · rw [hp]
    rfl
  · rw [hp]
    rfl

lemma Run.KnowsWords.after (h : r.KnowsWords v) (delayMs : Nat) {a : Advance}
    (ha : ∀ k line, a.progress ≠ .failed (.unknownCommand k line)) :
    (r.after delayMs a).KnowsWords v := by
  refine ⟨?_, fun k line hout => ?_⟩
  · rw [Run.program_after]
    exact h.words
  · rcases hp : a.progress with _ | _ | tick | failure
    · rw [Run.phase_after_halted hp] at hout
      cases hout
    · rw [outcome?_of_isCheck (Run.isCheck_after (by rw [hp]; rfl))] at hout
      cases hout
    · rw [outcome?_of_isCheck (Run.isCheck_after (by rw [hp]; rfl))] at hout
      cases hout
    · rw [Run.phase_after_failed hp] at hout
      cases hout
      exact ha k line hp

/-- **An action keeps a run knowing its words.** -/
theorem Run.KnowsWords.step (h : w.run.KnowsWords w.session.engine.vocabulary)
    (watcher : Watcher σ) : (w.step watcher).run.KnowsWords w.session.engine.vocabulary := by
  have hword : ∀ k line, w.dispatch.progress ≠ .failed (.unknownCommand k line) := fun k line =>
    advance_ne_unknown h.words
  unfold Watched.step
  split
  · split
    · exact ⟨h.words, nofun⟩
    · exact ⟨h.words, nofun⟩
  · rw [Watched.run_advance]
    exact h.after _ hword
  · split
    · exact ⟨h.words, nofun⟩
    · exact ⟨h.words, nofun⟩
  · next result hp =>
    refine ⟨h.words, fun k line hout => h.outcome k line ?_⟩
    rw [hp]
    exact hout
  · exact h

/-- A run that starts knows its words. -/
lemma knowsWords_read (e : Engine) (source : String) :
    ({ program := e.read source } : Run).KnowsWords e.vocabulary :=
  ⟨speaksOnly_ofSource e.vocabulary source, nofun⟩

/-- A run that is over did not fail for an unknown word. -/
lemma Run.KnowsWords.result?_ne (h : r.KnowsWords v) (k : String) (line : Nat) :
    r.result? ≠ some (.error (.unknownCommand k line)) := by
  intro hresult
  apply h.outcome k line
  unfold Run.result? at hresult
  split at hresult
  · next result hp =>
    rw [hp]
    exact hresult
  · cases hresult

/-- **A run knows its words after any number of actions**, whatever others do to the flag. -/
theorem Watched.knowsWords_after (watcher : Watcher σ) (others : Nat → Bool → Bool)
    (h : w.run.KnowsWords w.session.engine.vocabulary) (n : Nat) :
    (w.after watcher others n).run.KnowsWords w.session.engine.vocabulary := by
  induction n with
  | zero => exact h
  | succ n ih =>
    have hengine : (w.after watcher others n).session.engine = w.session.engine :=
      Watched.engine_after others n
    rw [Watched.after_succ, ← hengine]
    rw [← hengine] at ih
    exact Run.KnowsWords.step
      (w := (w.after watcher others n).withStop (w.flagAt watcher others n)) ih watcher

/-- **A session never meets a word that it does not know.** -/
theorem run_ne_unknown (s : Session) (source : String) (watcher : Watcher σ) (seen : σ)
    (k : String) (line : Nat) :
    (s.run source watcher seen).1 ≠ .error (.unknownCommand k line) := by
  by_cases hs : s.status = .running
  · have hrun : (s.run source watcher seen).1 = .error .alreadyRunning := by
      simp [run, start, begin?_of_running hs]
    intro hunknown
    rw [hrun] at hunknown
    cases hunknown
  · set w : Watched σ := ⟨{ s with status := .running, stopRequested := false },
      { program := s.engine.read source }, seen⟩
    have hstart : s.start source seen = .ok w := by rw [start, begin?_of_not_running hs]
    have hknows := Watched.knowsWords_after (w := w) watcher (fun _ => id)
      (knowsWords_read s.engine source) w.budget
    have hrun : (s.run source watcher seen).1 =
        (w.after watcher (fun _ => id) w.budget).run.result?.getD
          (.error (.stepLimitExceeded s.engine.settings.maxSteps)) := by
      simp [run, hstart, Watched.finish_eq_after]
    intro hunknown
    rw [hrun] at hunknown
    rcases hresult : (w.after watcher (fun _ => id) w.budget).run.result? with _ | result
    · rw [hresult] at hunknown
      cases hunknown
    · rw [hresult] at hunknown
      apply hknows.result?_ne k line
      rw [hresult]
      exact congrArg some hunknown

end Run

/-! ### Many clients -/

/-- A client that is in a run knows its words, and no answer is that a word is unknown. -/
def Point.KnowsWords (v : Vocabulary) : Point → Prop
  | driving r _ => r.KnowsWords v
  | answering _ (.ran result) => ∀ k line, result ≠ .error (.unknownCommand k line)
  | outside (some (.ran result)) => ∀ k line, result ≠ .error (.unknownCommand k line)
  | _ => True

section Clients

variable {ι : Type} {w : World ι} {s s' : Session} {p q : Point} {e : Effect}

/-- No move changes the engine. -/
lemma Move.engine_eq (m : Move s p e q s') : s'.engine = s.engine := by
  cases m with
  | look r h => exact Watched.engine_step
  | advance r h => exact Watched.engine_step
  | leave r result h => exact Watched.engine_step
  | _ => rfl

lemma knowsWords_tryBegin (v : Vocabulary) (source : String) (seen : Status) :
    (Point.tryBegin source seen).KnowsWords v := by
  unfold Point.tryBegin
  split
  · intro k line hunknown
    cases hunknown
  · trivial

/-- **A move keeps a client knowing its words.** -/
theorem Move.knowsWords (m : Move s p e q s') (hp : p.KnowsWords s.engine.vocabulary) :
    q.KnowsWords s.engine.vocabulary := by
  cases m with
  | answer lock answer =>
    cases answer with
    | ran result => exact hp
    | edited _ | snapshot _ | cancelled _ | done => trivial
  | load source => exact knowsWords_tryBegin _ source s.status
  | retry source seen idle => exact knowsWords_tryBegin _ source s.status
  | start source => exact knowsWords_read s.engine source
  | ready r h => exact hp
  | look r h => exact Run.KnowsWords.step (w := ⟨s, r, ()⟩) hp Watcher.idle
  | pause r h hs => exact hp
  | advance r h => exact Run.KnowsWords.step (w := ⟨s, r, ()⟩) hp Watcher.idle
  | release r lock => exact hp
  | leave r result h =>
    intro k line hresult
    apply Run.KnowsWords.outcome hp k line
    rw [h, hresult]
    rfl
  | _ => trivial

/-- **No client is ever told that a word is unknown**, in whatever order the clients move. -/
theorem World.Reachable.knowsWords (hw : w.Reachable) (i : ι) :
    (w.point i).KnowsWords w.session.engine.vocabulary := by
  obtain ⟨s, log, -, h⟩ := hw
  refine h.keeps (P := fun w => ∀ i, (w.point i).KnowsWords w.session.engine.vocabulary) ?_
    (fun _ => trivial) i
  intro w i e w' hstep hknows j
  rw [hstep.move.engine_eq]
  by_cases hj : j = i
  · subst hj
    exact hstep.move.knowsWords (hknows j)
  · rw [hstep.others j hj]
    exact hknows j

end Clients

end Session

/-! ### The whole agreement -/

/-- **Reading and running agree on the words.** A script that an engine or a session reads and runs
never fails for an unknown word, and no client of a session is ever answered so, in whatever order
the clients move. A script read with another vocabulary fails so only for a word of that vocabulary
which the engine does not have. What is read depends on the words of the vocabulary alone: a text
that starts with a word starts with exactly one longest word, in bytes, and this one is found in
whatever order the words are gone through. So vocabularies with the same words give the same
program, in particular those filled by calls that name the same words in lower case. -/
theorem reading_agrees_with_running (e : Engine) (v : Vocabulary) (source : String) :
    (∀ f k line, (e.run source f).result ≠ .error (.unknownCommand k line)) ∧
    (∀ {σ : Type} (s : Session) (watcher : Session.Watcher σ) (seen : σ) k line,
      (s.run source watcher seen).1 ≠ .error (.unknownCommand k line)) ∧
    (∀ {ι : Type} (w : Session.World ι), w.Reachable → ∀ i k line,
      w.point i ≠ .outside (some (.ran (.error (.unknownCommand k line))))) ∧
    (∀ f k line, (e.execute (.ofSource v source) f).result = .error (.unknownCommand k line) →
      (v.find? k).isSome ∧ e.vocabulary.find? k = none) ∧
    (∀ text, (∀ k, v.longestMatch? text = some k ↔ v.IsLongestInBytes text k) ∧
      (∀ k, (v.find? k).isSome → k.toList <+: text → ∃! best, v.IsLongestInBytes text best) ∧
      ∀ ks, (∀ k, k ∈ ks ↔ (v.find? k).isSome) →
        Vocabulary.longestPrefix? text ks = v.longestMatch? text) ∧
    (∀ w, v.SameWords w → Program.ofSource v source = Program.ofSource w source) ∧
    ∀ calls calls' : List Registration,
      (∀ k, (∃ call ∈ calls, k ∈ call.words) ↔ ∃ call ∈ calls', k ∈ call.words) →
      Program.ofSource (v.register calls) source = Program.ofSource (v.register calls') source := by
  refine ⟨fun f k line hunknown => ?_, fun s watcher seen k line =>
    Session.run_ne_unknown s source watcher seen k line, fun w hw i k line hpoint => ?_,
    fun f k line hunknown => ?_, fun text => ⟨fun k => Vocabulary.longestMatch?_eq_some_iff_bytes,
      fun k => Vocabulary.existsUnique_isLongestInBytes,
      fun ks => Vocabulary.longestPrefix?_eq_of_mem_iff⟩, fun w hw => ofSource_congr hw source,
    fun calls calls' hwords => ofSource_congr (Vocabulary.sameWords_register hwords v) source⟩
  · obtain ⟨hmem, hnone⟩ := unknown_of_execute hunknown
    exact (speaksOnly_ofSource e.vocabulary source).find?_ne_none hmem hnone
  · have hknows := hw.knowsWords i
    rw [hpoint] at hknows
    exact hknows k line rfl
  · obtain ⟨hmem, hnone⟩ := unknown_of_execute hunknown
    exact ⟨speaksOnly_ofSource v source k line hmem, hnone⟩

/-- Two vocabularies filled in another order and another case of letters, with overlapping words and
the empty one: a script reads the same with both, and the standard engine does not know its word. -/
theorem reading_agrees_with_running_of_overlap :
    let calls : List Registration := [.assign "" .paint, .assign "Шаг" .paint, .addStandard,
      .assign "шаг вправо" (.move .east)]
    let calls' : List Registration := [.assign "ШАГ ВПРАВО" .paint, .addStandard,
      .assign "шаг" (.move .north), .assign "ШАГ" .paint, .assign "" (.move .west)]
    let v := Vocabulary.empty.register calls
    let e : Engine := {}
    (∀ k, (∃ call ∈ calls, k ∈ call.words) ↔ ∃ call ∈ calls', k ∈ call.words) ∧
      (∀ source, Program.ofSource v source =
        Program.ofSource (Vocabulary.empty.register calls') source) ∧
      (e.execute (.ofSource v "Шаг вправо!") default).result =
        .error (.unknownCommand "шаг вправо" 1) ∧
      (v.find? "шаг вправо").isSome ∧ e.vocabulary.find? "шаг вправо" = none := by
  intro calls calls' v e
  have hwords : ∀ k, (∃ call ∈ calls, k ∈ call.words) ↔ ∃ call ∈ calls', k ∈ call.words := by
    have hsubset : calls.flatMap Registration.words ⊆ calls'.flatMap Registration.words := by
      decide +kernel
    have hsuperset : calls'.flatMap Registration.words ⊆ calls.flatMap Registration.words := by
      decide +kernel
    intro k
    rw [← List.mem_flatMap, ← List.mem_flatMap]
    exact ⟨fun h => hsubset h, fun h => hsuperset h⟩
  have hunknown : (e.execute (.ofSource v "Шаг вправо!") default).result =
      .error (.unknownCommand "шаг вправо" 1) := by
    decide +kernel
  refine ⟨hwords, fun source => ?_, hunknown, ?_⟩
  · exact (reading_agrees_with_running e _ source).2.2.2.2.2.2 calls calls' hwords
  · exact (reading_agrees_with_running e v "Шаг вправо!").2.2.2.1 default _ _ hunknown

end RobotScript
