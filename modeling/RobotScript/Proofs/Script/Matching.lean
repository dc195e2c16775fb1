import Mathlib.Order.Bounds.Basic
import RobotScript.Proofs.Script.BlockCheck

/-!
The search for the end of a loop is the matching of brackets.

The search counts the loops it is in and stops when it has left all of them. `Blocks.ClosesAt` says
by counting alone, without a search, that a stretch of code closes one loop more than it opens, and
`loopExit_eq_ok_iff` that a loop ends with the shortest such stretch behind it. Up to there no more
loops are closed than opened (`loopEnds_le_of_lt_loopExit`), so a loop that starts inside another
has to be closed before it; that the loops of a program are disjoint or nested follows from this.
The main statement is `loopExit_matching`.
-/

namespace RobotScript

namespace Blocks

/-- The code behind one index and before another. -/
def stretch (code : List Instruction) (start exit : Nat) : List Instruction :=
  (code.drop (start + 1)).take (exit - (start + 1))

/-- **The code between two indices closes exactly one loop more than it opens.** -/
def ClosesAt (code : List Instruction) (start exit : Nat) : Prop :=
  loopEnds (stretch code start exit) = loopStarts (stretch code start exit) + 1

instance (code : List Instruction) (start exit : Nat) : Decidable (ClosesAt code start exit) :=
  inferInstanceAs (Decidable (_ = _))

/-- A loop starts at one index, and its end is right before another. -/
def LoopAt (code : List Instruction) (start exit : Nat) : Prop :=
  (∃ guard line, code[start]? = some ⟨.loopStart guard, line⟩) ∧ loopExit code start = .ok exit

section Span

variable {depth n k : Nat} {code : List Instruction}

/-- Before the end of a span no loop is closed but those that were open inside. -/
lemma loopEnds_le_of_lt_loopSpan? (h : loopSpan? depth code = some n) (hk : k < n) :
    loopEnds (code.take k) ≤ loopStarts (code.take k) + depth := by
  have hnone : loopSpan? depth (code.take k) = none := by
    -- a span of the first `k` instructions would be one of all of them
    by_contra hspan
    obtain ⟨m, hm⟩ := Option.ne_none_iff_exists'.1 hspan
    have hle := (loopSpan?_bounds hm).2
    have hwhole : loopSpan? depth (code.take k ++ code.drop k) = some m := loopSpan?_append hm
    rw [List.take_append_drop, h] at hwhole
    cases hwhole
    rw [List.length_take] at hle
    omega
  have hcounts := loopEnds_le_of_loopSpan? hnone k
  rwa [List.take_take, Nat.min_self] at hcounts

/-- A span ends with the end of a loop. -/
lemma getElem?_of_loopSpan? (h : loopSpan? depth code = some (n + 1)) :
    ∃ line, code[n]? = some ⟨.loopEnd, line⟩ := by
  induction code generalizing depth n with
  | nil => cases h
  | cons i code ih =>
    have hnext : ∀ {d k}, n + 1 = k + 1 → loopSpan? d code = some k →
        ∃ line, (i :: code)[n]? = some ⟨.loopEnd, line⟩ := by
      intro d k hk hspan
      obtain ⟨m, rfl⟩ := Nat.exists_eq_add_one.2 (loopSpan?_bounds hspan).1
      obtain rfl : n = m + 1 := by omega
      rw [List.getElem?_cons_succ]
      exact ih hspan
    obtain ⟨guard, k, -, hk, hspan⟩ | ⟨hop, -, hone⟩ | ⟨d, k, -, -, hk, hspan⟩ |
      ⟨k, -, -, hk, hspan⟩ := loopSpan?_cases h
    · exact hnext hk hspan
    · obtain rfl : n = 0 := by omega
      exact ⟨i.line, by rw [List.getElem?_cons_zero, ← hop]⟩
    · exact hnext hk hspan
    · exact hnext hk hspan

end Span

section Matching

variable {code : List Instruction} {start other exit index : Nat} {failure : Failure}

lemma loopExit_eq_ok :
    loopExit code start = .ok exit ↔
      ∃ n, loopSpan? 0 (code.drop (start + 1)) = some n ∧ exit = start + 1 + n := by
  unfold loopExit
  split
  · next n hn => simp [hn, eq_comm]
  · next hn => simp [hn]

lemma closesAt_of_loopExit (h : loopExit code start = .ok exit) : ClosesAt code start exit := by
  obtain ⟨n, hn, rfl⟩ := loopExit_eq_ok.1 h
  have hcounts := loopEnds_of_loopSpan? hn
  rw [ClosesAt, stretch, Nat.add_sub_cancel_left]
  omega

/-- Before the exit of a loop no more loops are closed than opened behind its start. -/
lemma loopEnds_le_of_lt_loopExit (h : loopExit code start = .ok exit) (hlt : index < exit) :
    loopEnds (stretch code start index) ≤ loopStarts (stretch code start index) := by
  obtain ⟨n, hn, rfl⟩ := loopExit_eq_ok.1 h
  have hpos := (loopSpan?_bounds hn).1
  exact loopEnds_le_of_lt_loopSpan? hn (by omega)

/-- **The exit of a loop is the first index up to which one loop more is closed than opened.** -/
theorem loopExit_eq_ok_iff :
    loopExit code start = .ok exit ↔ IsLeast {exit | ClosesAt code start exit} exit := by
  have hleast : ∀ {exit}, loopExit code start = .ok exit →
      IsLeast {exit | ClosesAt code start exit} exit := by
    intro exit h
    refine ⟨closesAt_of_loopExit h, fun earlier hcloses => ?_⟩
    by_contra hlt
    have hle := loopEnds_le_of_lt_loopExit h (Nat.not_le.1 hlt)
    have heq : loopEnds (stretch code start earlier) =
        loopStarts (stretch code start earlier) + 1 := hcloses
    omega
  refine ⟨hleast, fun h => ?_⟩
  rcases hexit : loopExit code start with failure | exit'
  · have hle := loopSpan?_eq_none_iff.1 (loopExit_eq_error_iff.1 hexit).1 (exit - (start + 1))
    have heq : loopEnds (stretch code start exit) = loopStarts (stretch code start exit) + 1 := h.1
    unfold stretch at heq
    omega
  · rw [(hleast hexit).unique h]

/-- **A loop has no exit exactly if there is no such index**, and the failure tells its line. -/
theorem loopExit_eq_error_iff_forall :
    loopExit code start = .error failure ↔
      (∀ exit, ¬ClosesAt code start exit) ∧ failure = .unterminatedLoop (lineAt code start) := by
  constructor
  · intro h
    obtain ⟨hspan, hfailure⟩ := loopExit_eq_error_iff.1 h
    refine ⟨fun exit hcloses => ?_, hfailure⟩
    have hle := loopSpan?_eq_none_iff.1 hspan (exit - (start + 1))
    unfold ClosesAt stretch at hcloses
    omega
  · rintro ⟨hnone, rfl⟩
    rcases hexit : loopExit code start with failure | exit
    · rw [(loopExit_eq_error_iff.1 hexit).2]
    · exact absurd (closesAt_of_loopExit hexit) (hnone exit)

lemma getElem?_of_loopExit (h : loopExit code start = .ok exit) :
    ∃ line, code[exit - 1]? = some ⟨.loopEnd, line⟩ := by
  obtain ⟨n, hn, rfl⟩ := loopExit_eq_ok.1 h
  obtain ⟨m, rfl⟩ := Nat.exists_eq_add_one.2 (loopSpan?_bounds hn).1
  have hend := getElem?_of_loopSpan? hn
  rwa [List.getElem?_drop] at hend

/-! ### Two loops -/

/-- A stretch falls apart at each of its instructions. -/
lemma stretch_split {i : Instruction} (hi : code[index]? = some i) (hlt : start < index)
    (hend : index < exit) :
    stretch code start exit = stretch code start index ++ i :: stretch code index exit := by
  obtain ⟨hin, hget⟩ := List.getElem?_eq_some_iff.1 hi
  have hlength : exit - (start + 1) = index - (start + 1) + (exit - index) := by omega
  have hdrop : start + 1 + (index - (start + 1)) = index := by omega
  have hrest : exit - index = exit - (index + 1) + 1 := by omega
  rw [stretch, hlength, List.take_add, List.drop_drop, hdrop, hrest,
    List.drop_eq_getElem_cons hin, List.take_succ_cons, hget]
  rfl

/-- **A loop that starts inside another ends inside it.** -/
theorem exists_loopExit_inside (h : loopExit code start = .ok exit) {guard : String} {line : Nat}
    (hi : code[index]? = some ⟨.loopStart guard, line⟩) (hlt : start < index) (hend : index < exit) :
    ∃ inner, loopExit code index = .ok inner ∧ inner < exit := by
  have hwhole : loopEnds (stretch code start exit) = loopStarts (stretch code start exit) + 1 :=
    closesAt_of_loopExit h
  have hbefore := loopEnds_le_of_lt_loopExit h hend
  have hstart := counts_of_loopStart (i := ⟨.loopStart guard, line⟩) rfl (stretch code index exit)
  rw [stretch_split hi hlt hend, loopEnds_append, loopStarts_append] at hwhole
  -- the inner loop is open when it starts, so two loops more are closed behind it than opened
  have htwo : loopStarts (stretch code index exit) + 2 ≤ loopEnds (stretch code index exit) := by
    omega
  rcases hexit : loopExit code index with failure | inner
  · have hle := loopSpan?_eq_none_iff.1 (loopExit_eq_error_iff.1 hexit).1 (exit - (index + 1))
    unfold stretch at htwo
    omega
  · refine ⟨inner, rfl, ?_⟩
    by_contra hge
    rcases Nat.lt_or_eq_of_le (Nat.not_lt.1 hge) with hlater | rfl
    · have hle := loopEnds_le_of_lt_loopExit hexit hlater
      omega
    · have heq : loopEnds (stretch code index exit) = loopStarts (stretch code index exit) + 1 :=
        closesAt_of_loopExit hexit
      omega

/-- Of two loops the later one starts behind the earlier one or ends inside it. -/
lemma LoopAt.disjoint_or_inside {exit' : Nat} (h : LoopAt code start exit)
    (hother : LoopAt code other exit') (hlt : start < other) : exit ≤ other ∨ exit' < exit := by
  rcases Nat.lt_or_ge other exit with hin | hout
  · obtain ⟨⟨guard, line, hi⟩, hexit'⟩ := hother
    obtain ⟨inner, hinner, hend⟩ := exists_loopExit_inside h.2 hi hlt hin
    rw [hexit'] at hinner
    cases hinner
    exact Or.inr hend
  · exact Or.inl hout

lemma LoopAt.lt (h : LoopAt code start exit) : start < exit := by
  have := (loopExit_bounds h.2).1
  omega

end Matching

end Blocks

open Blocks

/-- **The search for the end of a loop is the matching of brackets.** It finds the first index up to
which the code behind the start closes one loop more than it opens, right behind a `кц`, and fails
exactly if there is none; the failure tells the line of the start, or 0 if the start is past the end
of the code. So a loop that starts inside another ends inside it, two loops are disjoint or one is
strictly inside the other, and no two have the same end. -/
theorem loopExit_matching (code : List Instruction) :
    (∀ start exit, loopExit code start = .ok exit ↔
      IsLeast {exit | ClosesAt code start exit} exit) ∧
    (∀ start failure, loopExit code start = .error failure ↔
      (∀ exit, ¬ClosesAt code start exit) ∧ failure = .unterminatedLoop (lineAt code start)) ∧
    (∀ start, (∀ i, code[start]? = some i → lineAt code start = i.line) ∧
      (code.length ≤ start → lineAt code start = 0)) ∧
    (∀ start exit, loopExit code start = .ok exit →
      exit ≤ code.length ∧ ∃ line, code[exit - 1]? = some ⟨.loopEnd, line⟩) ∧
    (∀ start exit, loopExit code start = .ok exit → ∀ index guard line,
      code[index]? = some ⟨.loopStart guard, line⟩ → start < index → index < exit →
        ∃ inner, loopExit code index = .ok inner ∧ inner < exit) ∧
    (∀ start exit other exit', LoopAt code start exit → LoopAt code other exit' →
      start = other ∨ (exit ≤ other ∨ exit' ≤ start) ∨
        (start < other ∧ exit' < exit ∨ other < start ∧ exit < exit')) ∧
    ∀ start other exit, LoopAt code start exit → LoopAt code other exit → start = other := by
  have hpair : ∀ start exit other exit', LoopAt code start exit → LoopAt code other exit' →
      start = other ∨ (exit ≤ other ∨ exit' ≤ start) ∨
        (start < other ∧ exit' < exit ∨ other < start ∧ exit < exit') := by
    intro start exit other exit' h hother
    rcases Nat.lt_trichotomy start other with hlt | heq | hlt
    · have := h.disjoint_or_inside hother hlt
      omega
    · exact Or.inl heq
    · have := hother.disjoint_or_inside h hlt
      omega
  refine ⟨fun start exit => loopExit_eq_ok_iff, fun start failure => loopExit_eq_error_iff_forall,
    fun start => ⟨fun i hi => lineAt_of_getElem? hi, fun hle => ?_⟩,
    fun start exit h => ⟨(loopExit_bounds h).2, getElem?_of_loopExit h⟩,
    fun start exit h index guard line hi hlt hend => exists_loopExit_inside h hi hlt hend,
    hpair, fun start other exit h hother => ?_⟩
  · rw [lineAt, List.getElem?_eq_none hle]
    rfl
  · have hstart := h.lt
    have hother' := hother.lt
    have := hpair start exit other exit h hother
    omega

/-- A loop inside another, a `кц` that closes neither, and a loop that is not closed. -/
theorem loopExit_matching_of_stray :
    let code : List Instruction := [⟨.loopStart "", 1⟩, ⟨.loopStart "снизу свободно", 2⟩,
      ⟨.loopEnd, 3⟩, ⟨.command "вправо", 4⟩, ⟨.loopEnd, 5⟩, ⟨.loopEnd, 6⟩, ⟨.loopStart "", 7⟩]
    (loopExit code 0 = .ok 5 ∧ IsLeast {exit | ClosesAt code 0 exit} 5 ∧
      (∃ inner, loopExit code 1 = .ok inner ∧ inner < 5) ∧
      ∃ line, code[4]? = some ⟨.loopEnd, line⟩) ∧
    (loopExit code 6 = .error (.unterminatedLoop 7) ∧ ∀ exit, ¬ClosesAt code 6 exit) ∧
    loopExit code 9 = .error (.unterminatedLoop 0) ∧ lineAt code 9 = 0 := by
  intro code
  obtain ⟨hok, herror, hline, hend, hinside, -, -⟩ := loopExit_matching code
  have houter : loopExit code 0 = .ok 5 := by decide
  have hopen : loopExit code 6 = .error (.unterminatedLoop 7) := by decide
  exact ⟨⟨houter, (hok 0 5).1 houter,
    hinside 0 5 houter 1 "снизу свободно" 2 rfl (by decide) (by decide), (hend 0 5 houter).2⟩,
    ⟨hopen, ((herror 6 _).1 hopen).1⟩, by decide, (hline 9).2 (by decide)⟩

end RobotScript
