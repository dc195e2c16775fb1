import RobotScript.Proofs.Text.Feeds
import RobotScript.Script.Source

/-!
Scripts one below the other.

A script is read line by line, and a line feed ends a line whatever comes behind it. So a script
with another one below it reads as the two read on their own, but for the numbers of the lower
lines: these go up by the number of lines that end above them. The one place where the upper script
differs is its last line, which the line feed ends: it may lose a carriage return, which is blank,
or be an empty line more, which holds nothing (`read_lines_feed`). The main statement is
`ofSource_append_feed`.
-/

namespace RobotScript

/-- An instruction that many lines further down. -/
def Instruction.movedDown (i : Instruction) (lines : Nat) : Instruction :=
  { i with line := i.line + lines }

namespace Source

open Text

/-! ### The last line -/

section LastLine

variable {v : Vocabulary} {c : Char}

/-- A blank at the end of a line is cut off. -/
lemma trim_append_blank (hc : isBlank c) (s : List Char) : trim (s ++ [c]) = trim s := by
  have hright : ∀ s, trimRight (s ++ [c]) = trimRight s := by
    intro s
    rw [trimRight, List.reverse_append, List.reverse_singleton, List.singleton_append,
      List.dropWhile_cons_of_pos hc, trimRight]
  rw [trim, trim, trimLeft, List.dropWhile_append]
  by_cases hs : (s.dropWhile isBlank).isEmpty
  · rw [if_pos hs, List.dropWhile_cons_of_pos hc, trimLeft, List.isEmpty_iff.1 hs]
    rfl
  · rw [if_neg hs, hright, trimLeft]

/-- The carriage return before a line feed has no part in what a line holds. -/
lemma readLine_chomp (line : List Char) : readLine v (chomp line) = readLine v line := by
  rcases eq_chomp_or line with heq | heq
  · rw [← heq]
  · have htrim : trim line = trim (chomp line) := by
      conv_lhs => rw [heq]
      exact trim_append_blank (by decide) _
    rw [readLine, readLine, htrim]

lemma readLine_nil : readLine v [] = .nothing := rfl

/-- **A line feed at the end of a script changes nothing but for a line that holds nothing.** -/
theorem read_lines_feed (s : List Char) :
    (lines (s ++ ['\n'])).map (readLine v) = (lines s).map (readLine v) ∨
      (lines (s ++ ['\n'])).map (readLine v) = (lines s).map (readLine v) ++ [.nothing] := by
  obtain ⟨before, rest, hfeed, hlines⟩ := lines_append_last_feed s
  rw [hfeed, hlines]
  by_cases hrest : rest = []
  · right
    simp [hrest, chomp, readLine_nil]
  · left
    simp [hrest, readLine_chomp]

end LastLine

/-! ### Numbered lines -/

section Numbers

variable {v : Vocabulary} {β : Type} {pick : Line × Nat → Option β} (down : β → Nat → β)

/-- What is picked from lines that are numbered from further down. -/
lemma filterMap_zipIdx_add (hdown : ∀ r n k, pick (r, n + k) = (pick (r, n)).map (down · k))
    (rs : List Line) (n k : Nat) :
    (rs.zipIdx (n + k)).filterMap pick = ((rs.zipIdx n).filterMap pick).map (down · k) := by
  induction rs generalizing n with
  | nil => rfl
  | cons r rs ih =>
    have hnext := ih (n + 1)
    rw [Nat.add_right_comm] at hnext
    rw [List.zipIdx_cons, List.zipIdx_cons, List.filterMap_cons, List.filterMap_cons, hdown, hnext]
    rcases pick (r, n) with _ | b
    · rfl
    · rfl

/-- What is picked from the lines of a script, the last of which ends with a line feed. -/
lemma filterMap_read_feed (hnothing : ∀ n, pick (.nothing, n) = none) (s : List Char) :
    (((lines (s ++ ['\n'])).map (readLine v)).zipIdx 1).filterMap pick =
      (((lines s).map (readLine v)).zipIdx 1).filterMap pick := by
  rcases read_lines_feed (v := v) s with hread | hread
  · rw [hread]
  · rw [hread, List.zipIdx_append, List.filterMap_append]
    simp [hnothing]

/-- **What is picked from a script with another one below it.** -/
theorem filterMap_readLines_append (hnothing : ∀ n, pick (.nothing, n) = none)
    (hdown : ∀ r n k, pick (r, n + k) = (pick (r, n)).map (down · k)) (upper below : String) :
    (readLines v (upper ++ "\n" ++ below)).filterMap pick =
      (readLines v upper).filterMap pick ++
        ((readLines v below).filterMap pick).map (down · (1 + upper.toList.count '\n')) := by
  have htext : (upper ++ "\n" ++ below).toList = upper.toList ++ '\n' :: below.toList := by
    simp
  have hlength : ((lines (lowercase upper.toList ++ ['\n'])).map (readLine v)).length =
      1 + upper.toList.count '\n' := by
    rw [List.length_map, length_lines_feed, count_lowercase, Nat.add_comm]
  rw [readLines, htext, lowercase_append_feed, lines_append_feed, List.map_append,
    List.zipIdx_append, List.filterMap_append, filterMap_read_feed hnothing, hlength,
    filterMap_zipIdx_add down hdown]
  rfl

end Numbers

end Source

/-- **Reading is local to the lines.** A script with another one below it reads as the two on their
own, first the instructions of the upper one and then those of the lower one; the numbers of the
lower lines, also of those that are skipped, go up by one and the number of line feeds in the upper
script. -/
theorem ofSource_append_feed (v : Vocabulary) (upper below : String) :
    (Program.ofSource v (upper ++ "\n" ++ below)).instructions =
      (Program.ofSource v upper).instructions ++
        (Program.ofSource v below).instructions.map
          (·.movedDown (1 + upper.toList.count '\n')) ∧
    (Program.ofSource v (upper ++ "\n" ++ below)).skipped =
      (Program.ofSource v upper).skipped ++
        (Program.ofSource v below).skipped.map (· + (1 + upper.toList.count '\n')) := by
  constructor
  · apply Source.filterMap_readLines_append Instruction.movedDown
    · intro n
      rfl
    · intro r n k
      cases r <;> rfl
  · apply Source.filterMap_readLines_append (· + ·)
    · intro n
      rfl
    · intro r n k
      cases r <;> rfl

end RobotScript
