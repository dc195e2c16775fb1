import Mathlib.Data.List.Chain
import RobotScript.Console.Command
import RobotScript.Proofs.Field.Snapshot
import RobotScript.Proofs.Json.RoundTrip
import RobotScript.Proofs.Json.Text
import RobotScript.Proofs.Session.Interleaving

/-!
Chains of processes.

A process may save the field when its run is over, and the next one may load it. Nothing is lost on
the way: what is saved of a valid field is loaded as that field (`readField?_savedText`), every run
leaves a valid field (`valid_account`), and a run depends on nothing of its session but the field
and the engine (`Session.run_eq_of_field_engine`). The main statement is `processes_eq_session`.
-/

namespace RobotScript

/-! ### Saved snapshots -/

namespace Json.Codec

lemma plain_flatRobot {r : Robot} (h : r.Is32) : (flatRobot.encode r).Plain := by
  obtain ⟨⟨hx, hx'⟩, hy, hy'⟩ := h
  refine ⟨⟨?_, ?_⟩, ⟨?_, ?_⟩, trivial, trivial⟩ <;> omega

lemma plain_wall {w : Wall} (h : w.Is32) : (wall.encode w).Plain := by
  obtain ⟨⟨hx, hx'⟩, hy, hy'⟩ := h
  refine ⟨⟨?_, ?_⟩, ⟨?_, ?_⟩, trivial, trivial⟩ <;> omega

lemma plain_cell {c : Cell} (h : c.Is32) : (cell.encode c).Plain := by
  obtain ⟨⟨hx, hx'⟩, hy, hy'⟩ := h
  refine ⟨⟨?_, ?_⟩, ⟨?_, ?_⟩, trivial⟩ <;> omega

lemma plain_list {α : Type} {c : Codec α} {as : List α} (h : ∀ a ∈ as, (c.encode a).Plain) :
    ((list c).encode as).Plain :=
  plainItems_iff.2 (List.forall_mem_map.2 h)

lemma plain_snapshot {s : Field.Snapshot} (h : s.Is32) : (snapshot.encode s).Plain := by
  obtain ⟨⟨hsize, hsize'⟩, hrobot, hwalls, hpainted⟩ := h
  refine ⟨⟨?_, ?_⟩, plain_flatRobot hrobot, plain_list fun w hw => plain_wall (hwalls w hw),
    plain_list fun c hc => plain_cell (hpainted c hc), trivial⟩ <;> omega

end Json.Codec

namespace Field

variable {f : Field}

lemma is32_of_inBounds {c : Cell} (h : f.inBounds c) (hsize : IsInt32 f.size) : c.Is32 := by
  obtain ⟨hx, hx', hy, hy'⟩ := covers_iff.1 h
  obtain ⟨-, hmax⟩ := hsize
  exact ⟨⟨by omega, by omega⟩, by omega, by omega⟩

lemma is32_of_fits {w : Wall} (h : w.fits f.size) (hsize : IsInt32 f.size) : w.Is32 := by
  obtain ⟨-, hmax⟩ := hsize
  unfold Wall.fits at h
  split at h
  all_goals
    simp only [Bool.and_eq_true, decide_eq_true_eq] at h
    exact ⟨⟨by omega, by omega⟩, by omega, by omega⟩

/-- Everything on a valid field of a size of 32 bits has coordinates of 32 bits. -/
lemma Valid.is32_snapshot (h : f.Valid) (hsize : IsInt32 f.size) : f.snapshot.Is32 where
  size := hsize
  robot := is32_of_inBounds h.robot hsize
  walls _ hw := is32_of_fits (h.walls (Std.ExtTreeSet.mem_toList.1 hw)) hsize
  painted _ hc := is32_of_inBounds (h.painted (Std.ExtTreeSet.mem_toList.1 hc)) hsize

end Field

/-! ### One run after another -/

namespace Session

variable {σ : Type} {s t : Session}

namespace Watched

variable {watcher : Watcher σ} {w : Watched σ}

/-- If the run is over, no run is active. -/
def Quits (w : Watched σ) : Prop := w.run.isLeft → w.session.status ≠ .running

lemma Quits.step (h : w.Quits) : (w.step watcher).Quits := by
  intro hleft
  by_cases hlock : w.run.phase.lock?.isSome
  · exact absurd hleft (not_isLeft_step hlock)
  by_cases hover : w.run.isLeft
  · rw [step_of_isLeft hover]
    exact h hover
  · obtain ⟨result, hp⟩ := leaving_of_lock?_eq_none (by simpa using hlock) hover
    rw [step_of_leaving hp]
    exact status_ofResult_ne_running result

lemma Quits.after_id (h : w.Quits) (n : Nat) : (w.after watcher (fun _ => id) n).Quits := by
  induction n with
  | zero => exact h
  | succ n ih =>
    rw [after_id_succ]
    exact ih.step

end Watched

variable {source : String} {watcher : Watcher σ} {seen : σ}

lemma start_eq (hs : s.status ≠ .running) : s.start source seen =
    .ok ⟨{ s with status := .running, stopRequested := false },
      { program := s.engine.read source }, seen⟩ := by
  rw [start, begin?_of_not_running hs]

/-- **A run depends on nothing of the session but its field and its engine.** -/
theorem run_eq_of_field_engine (hs : s.status ≠ .running) (ht : t.status ≠ .running)
    (hfield : s.field = t.field) (hengine : s.engine = t.engine) :
    s.run source watcher seen = t.run source watcher seen := by
  rw [run, run, start_eq hs, start_eq ht, hfield, hengine]

/-- A run leaves a session without an active run. -/
lemma status_run_ne_running (hs : s.status ≠ .running) :
    (s.run source watcher seen).2.1.status ≠ .running := by
  rw [run, start_eq hs]
  set w : Watched σ := ⟨{ s with status := .running, stopRequested := false },
    { program := s.engine.read source }, seen⟩
  have hquits : w.Quits := fun hleft => absurd hleft Bool.false_ne_true
  have hover : (w.after watcher (fun _ => id) w.budget).run.isLeft :=
    Watched.isLeft_after_budget _ rfl
  show (w.finish watcher).session.status ≠ .running
  rw [Watched.finish_eq_after]
  exact hquits.after_id _ hover

lemma engine_run (hs : s.status ≠ .running) :
    (s.run source watcher seen).2.1.engine = s.engine := by
  rw [run, start_eq hs]
  show (Watched.finish watcher _).session.engine = _
  rw [Watched.finish_eq_after, Watched.engine_after]

end Session

namespace Console

variable {f : Field}

/-! ### Fields in files -/

/-- **A saved field is loaded as it was.** -/
theorem readField?_savedText (h : f.Valid) (hsize : IsInt32 f.size) :
    readField? (savedText f) = .ok f := by
  have h32 := h.is32_snapshot hsize
  have hback : Field.ofSnapshot f.snapshot = .ok f :=
    Field.ofSnapshot_snapshot h.fenced (fun c hc => h.painted hc) h.robot
  rw [readField?, savedText, Json.read?_pretty (Json.Codec.plain_snapshot h32)]
  simp only [Json.Codec.exact_snapshot.decode_encode h32, hback]

/-- Whatever is loaded is valid. -/
lemma valid_of_readField? {text : String} (h : readField? text = .ok f) :
    f.Valid ∧ IsInt32 f.size := by
  unfold readField? at h
  split at h
  · cases h
  · split at h
    · cases h
    · next snapshot hdecode =>
      split at h
      · cases h
      · next g hg =>
        cases h
        obtain ⟨-, hfield⟩ := Field.ofSnapshot_eq_ok_iff.1 hg
        refine ⟨(Field.Made.ofSnapshot hg).valid, ?_⟩
        rw [← hfield]
        exact (Json.Codec.exact_snapshot.range_of_decode hdecode).size

lemma readText_toUTF8 {read? : String → Option ByteArray} {path text : String}
    (h : read? path = some text.toUTF8) : readText read? path = .ok text := by
  have hback : String.fromUTF8? text.toUTF8 = some text := dif_pos text.isValidUTF8
  simp only [readText, h, hback]

/-! ### Runs as they are seen from outside -/

/-- What a run gives: its result, the events in order and the field it leaves. -/
structure Account where
  result : Except Failure Report
  events : List Event
  field : Field

/-- Runs a script in a session. -/
def account (s : Session) (source : String) : Account × Session :=
  let (result, s', events) := s.run source recorder []
  (⟨result, events.reverse, s'.field⟩, s')

/-- Runs scripts one after another in one session. -/
def accounts (s : Session) : List String → List Account
  | [] => []
  | source :: rest => (account s source).1 :: accounts (account s source).2 rest

/-- What a process shows and saves of a run. -/
def Account.present (a : Account) (o : RunOptions) : Performance where
  shown := if o.json then [] else a.events.map eventLine
  delayMs := o.delayMs
  save := o.save.map fun path => (path, savedText a.field)
  ending :=
    match a.result with
    | .ok report => reportEnding o a.field report
    | .error failure => failureEnding o a.field failure

/-- The session of a process that starts from a field. -/
def RunOptions.session (o : RunOptions) (f : Field) : Session :=
  { field := f, engine := { settings := o.settings } }

lemma runScript_eq (o : RunOptions) (source : String) (f : Field) :
    runScript o source f = (account (o.session f) source).1.present o := rfl

section Accounts

variable {s t : Session} {source : String}

lemma account_congr (hs : s.status ≠ .running) (ht : t.status ≠ .running)
    (hfield : s.field = t.field) (hengine : s.engine = t.engine) :
    account s source = account t source := by
  rw [account, account, Session.run_eq_of_field_engine hs ht hfield hengine]

/-- A run leaves a valid field of the same size, whatever its result. -/
lemma valid_account (h : s.field.Valid) (hsize : IsInt32 s.field.size) :
    (account s source).2.field.Valid ∧ IsInt32 (account s source).2.field.size := by
  have haltered : Relation.ReflTransGen (Field.Alters fun f c => f.inBounds c) s.field
      (account s source).2.field := s.altered_run source recorder []
  refine ⟨Field.valid_of_altered haltered h, ?_⟩
  rwa [Field.size_of_altered haltered]

lemma readField?_savedText_account (h : s.field.Valid) (hsize : IsInt32 s.field.size) :
    readField? (savedText (account s source).2.field) = .ok (account s source).2.field :=
  readField?_savedText (valid_account h hsize).1 (valid_account h hsize).2

end Accounts

/-! ### Processes -/

/-- A process of the command `run`: the files as it finds them and its options. -/
structure Process where
  files : String → Option ByteArray
  options : RunOptions

namespace Process

/-- The script that the process reads. -/
def script (p : Process) : Except Fault String := readText p.files p.options.script

/-- The field that the process starts from. -/
def field (p : Process) : Except Fault Field :=
  match p.options.field with
  | none => .ok default
  | some path => readText p.files path >>= readField?

/-- The run of the process. -/
def account (p : Process) : Except Fault Account := do
  let source ← p.script
  let f ← p.field
  return (Console.account (p.options.session f) source).1

/-- What the process does up to the file it writes. -/
def performance (p : Process) : Performance := (Request.run p.options).perform p.files

/-- **The second process loads what the first has saved**: the file is there as it was written.
Other files may have changed in between. -/
def Follows (p q : Process) : Prop :=
  ∃ path, p.options.save = some path ∧ q.options.field = some path ∧
    ∀ text, p.performance.save = some (path, text) → q.files path = some text.toUTF8

/-- A process shows and saves its run. -/
lemma performance_of_account {p : Process} {a : Account} (h : p.account = .ok a) :
    p.performance = a.present p.options := by
  obtain ⟨source, hsource, h⟩ := bind_eq_ok.1 h
  obtain ⟨f, hf, h⟩ := bind_eq_ok.1 h
  cases h
  rw [← runScript_eq]
  unfold script at hsource
  unfold field at hf
  split at hf
  · next hnone =>
    cases hf
    simp only [performance, Request.perform, hsource, hnone]
  · next path hpath =>
    obtain ⟨text, htext, hf⟩ := bind_eq_ok.1 hf
    simp only [performance, Request.perform, hsource, hpath, htext, hf]

lemma valid_field {p : Process} {f : Field} (h : p.field = .ok f) : f.Valid ∧ IsInt32 f.size := by
  unfold field at h
  split at h
  · cases h
    exact ⟨Field.Made.blank.valid, by decide⟩
  · obtain ⟨text, -, h⟩ := bind_eq_ok.1 h
    exact valid_of_readField? h

/-- A process that follows another starts from the field the other has left. -/
lemma Follows.field_eq {p q : Process} {a : Account} (h : p.Follows q) (ha : p.account = .ok a)
    (hback : readField? (savedText a.field) = .ok a.field) : q.field = .ok a.field := by
  obtain ⟨path, hsave, hload, hfile⟩ := h
  have hsaved : p.performance.save = some (path, savedText a.field) := by
    rw [performance_of_account ha]
    simp [Account.present, hsave]
  have htext := readText_toUTF8 (hfile _ hsaved)
  rw [field, hload]
  exact bind_eq_ok.2 ⟨_, htext, hback⟩

end Process

section Chains

variable {ps : List Process} {sources : List String} {s : Session}

lemma account_process {p : Process} {source : String} (hs : s.status ≠ .running)
    (hengine : s.engine = { settings := p.options.settings }) (hscript : p.script = .ok source)
    (hfield : p.field = .ok s.field) : p.account = .ok (account s source).1 := by
  have hsame : account (p.options.session s.field) source = account s source :=
    account_congr (show Status.idle ≠ .running by decide) hs rfl hengine.symm
  refine bind_eq_ok.2 ⟨source, hscript, bind_eq_ok.2 ⟨s.field, hfield, ?_⟩⟩
  rw [hsame]
  rfl

/-- **Processes in a chain have the runs of one session.** By induction on the chain: each of them
starts from the field of the session before the same script. -/
theorem accounts_processes (hs : s.status ≠ .running)
    (hengine : ∀ p ∈ ps, s.engine = { settings := p.options.settings })
    (hscripts : ps.map Process.script = sources.map .ok)
    (hfirst : ∀ p ∈ ps.head?, p.field = .ok s.field) (hchain : ps.IsChain Process.Follows) :
    ps.map Process.account = (accounts s sources).map .ok := by
  induction ps generalizing s sources with
  | nil =>
    obtain rfl : sources = [] := by simpa using hscripts.symm
    rfl
  | cons p ps ih =>
    cases sources with
    | nil => simp at hscripts
    | cons source sources =>
      obtain ⟨hscript, hscripts⟩ := List.cons.inj hscripts
      obtain ⟨hnext, hchain⟩ := List.isChain_cons.1 hchain
      obtain ⟨hp, hengine⟩ := List.forall_mem_cons.1 hengine
      have hfield : p.field = .ok s.field := hfirst p rfl
      have haccount := account_process hs hp hscript hfield
      obtain ⟨hvalid, hsize⟩ := Process.valid_field hfield
      have hrest := @ih _ (account s source).2 (Session.status_run_ne_running hs)
        (fun q hq => (Session.engine_run hs).trans (hengine q hq)) hscripts
        (fun q hq => (hnext q hq).field_eq haccount (readField?_savedText_account hvalid hsize))
        hchain
      rw [List.map_cons, haccount, hrest]
      rfl

lemma performances_of_accounts {as : List Account} (h : ps.map Process.account = as.map .ok) :
    ps.map Process.performance = List.zipWith Account.present as (ps.map Process.options) := by
  induction ps generalizing as with
  | nil => rw [List.map_nil, List.map_nil, List.zipWith_nil_right]
  | cons p ps ih =>
    cases as with
    | nil => cases h
    | cons a as =>
      obtain ⟨ha, h⟩ := List.cons.inj h
      rw [List.map_cons, List.map_cons, List.zipWith_cons_cons, Process.performance_of_account ha,
        ih h]

end Chains

/-- **Saving and loading between processes loses nothing.** The text that a process saves, whatever
the result of its run, is loaded as the field its session has left. So processes in a chain, each of
which starts from what the one before it saved, have the runs that one session has which runs their
scripts one after another, and they show and save what these runs give. -/
theorem processes_eq_session :
    (∀ (o : RunOptions) (source : String) (f : Field), f.Valid → IsInt32 f.size →
      let final := (account (o.session f) source).2.field
      (runScript o source f).save = o.save.map (fun path => (path, savedText final)) ∧
        readField? (savedText final) = .ok final) ∧
    ∀ (ps : List Process) (sources : List String) (s : Session), s.status ≠ .running →
      (∀ p ∈ ps, s.engine = { settings := p.options.settings }) →
      ps.map Process.script = sources.map .ok → (∀ p ∈ ps.head?, p.field = .ok s.field) →
      ps.IsChain Process.Follows →
        ps.map Process.account = (accounts s sources).map .ok ∧
        ps.map Process.performance =
          List.zipWith Account.present (accounts s sources) (ps.map Process.options) := by
  constructor
  · intro o source f h hsize
    exact ⟨rfl, readField?_savedText_account h hsize⟩
  · intro ps sources s hs hengine hscripts hfirst hchain
    have haccounts := accounts_processes hs hengine hscripts hfirst hchain
    exact ⟨haccounts, performances_of_accounts haccounts⟩

/-- Two processes, of which the first fails at its second line and the second goes on from the field
that it saved. -/
theorem processes_eq_session_of_failed :
    let first : Process := ⟨fun path => if path = "a" then some "вправо\nвверх".toUTF8 else none,
      { script := "a", save := some "f" }⟩
    let second : Process := ⟨fun path =>
      if path = "b" then some "вправо".toUTF8 else first.performance.save.map (·.2.toUTF8),
      { script := "b", field := some "f" }⟩
    let s : Session := { engine := { settings := { delayMs := 0 } } }
    let as := accounts s ["вправо\nвверх", "вправо"]
    [first, second].map Process.account = as.map .ok ∧
      as.map (fun a => (a.result.isOk, a.field.robot.position)) =
        [(false, ⟨1, 0⟩), (true, ⟨2, 0⟩)] ∧
      readField? (savedText (account s "вправо\nвверх").2.field) =
        .ok (account s "вправо\nвверх").2.field := by
  intro first second s as
  obtain ⟨hsave, hchain⟩ := processes_eq_session
  have hfollows : first.Follows second := by
    refine ⟨"f", rfl, rfl, fun text h => ?_⟩
    show first.performance.save.map (·.2.toUTF8) = _
    rw [h]
    rfl
  have hfirst : first.script = .ok "вправо\nвверх" := readText_toUTF8 rfl
  have hsecond : second.script = .ok "вправо" := readText_toUTF8 rfl
  have haccounts := (hchain [first, second] ["вправо\nвверх", "вправо"] s (by decide)
    (by simp [first, second, s, RunOptions.settings]) (by simp [hfirst, hsecond])
    (by simp [first, s, Process.field]) (by simp [hfollows])).1
  refine ⟨haccounts, by decide +kernel, ?_⟩
  exact (hsave { script := "a" } "вправо\nвверх" default Field.Made.blank.valid (by decide)).2

end Console

end RobotScript
