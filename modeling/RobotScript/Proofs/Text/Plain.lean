import RobotScript.Proofs.Text.Lowered
import RobotScript.Proofs.Text.Words
import RobotScript.Script.Condition
import RobotScript.Script.Vocabulary

/-!
Texts that lowering leaves as they are.

No run of capital letters touches the signs before the Latin capitals or the small letters of the
Russian alphabet (`caseRuns_apart`), so a text of such characters is its own lower-case form
(`lowercase_of_isPlain`). The words of conditions and the standard command words are texts of this
kind: a condition is read back from its words (`Condition.read_written`), and the word for a step is
known to the standard vocabulary (`Vocabulary.find?_stepWord`).
-/

namespace RobotScript

namespace Text

/-- Whether a character is a sign, a digit, a blank of ASCII or a small Russian letter from `а` to
`я`. -/
def isPlain (c : Char) : Bool :=
  c.toNat < 'A'.toNat || 'а'.toNat ≤ c.toNat && c.toNat ≤ 'я'.toNat

/-- **The code points with a lower-case form are none of those of plain characters.** -/
lemma caseRuns_apart :
    ∀ run ∈ caseRuns, 'A'.toNat ≤ run.first ∧ (run.last < 'а'.toNat ∨ 'я'.toNat < run.first) := by
  decide +kernel

lemma isLower_of_isPlain {c : Char} (h : isPlain c) : IsLower c := by
  refine isLower_of_uncovered ?_ fun run hrun => ?_
  · rintro rfl
    cases h
  · have hapart := caseRuns_apart run hrun
    simp only [isPlain, Bool.or_eq_true, Bool.and_eq_true, decide_eq_true_eq] at h
    simp only [CaseRun.covers, Bool.and_eq_false_iff, decide_eq_false_iff_not]
    omega

/-- **A plain text is its own lower-case form.** -/
theorem lowercase_of_isPlain {s : List Char} (h : s.all isPlain) : lowercase s = s :=
  lowercase_of_isLower fun c hc => isLower_of_isPlain (List.all_eq_true.1 h c hc)

end Text

open Text

lemma lowered_of_isPlain {s : String} (h : s.toList.all isPlain) : lowered s = s := by
  rw [lowered, lowercase_of_isPlain h, String.ofList_toList]

/-! ### Texts of conditions -/

namespace Condition

/-- The text of a condition: its two words. -/
def written (c : Condition) : String := sideWord c.side ++ " " ++ outlookWord c.expect

lemma words_written (c : Condition) :
    words c.written.toList = [(sideWord c.side).toList, (outlookWord c.expect).toList] := by
  have hside : IsWord (sideWord c.side).toList := by
    cases c.side <;> decide
  have hstate : IsWord (outlookWord c.expect).toList := by
    cases c.expect <;> decide
  have hblank : " ".toList = [' '] := rfl
  rw [written, String.toList_append, String.toList_append, hblank, List.append_assoc,
    List.singleton_append, words_append_cons (by decide), words_of_isWord hside,
    words_of_isWord hstate]
  rfl

/-- **The text of a condition is read as that condition.** -/
theorem read_written (c : Condition) : read c.written = .ok c := by
  have hside : lowered (sideWord c.side) = sideWord c.side :=
    lowered_of_isPlain (by cases c.side <;> decide)
  have hstate : lowered (outlookWord c.expect) = outlookWord c.expect :=
    lowered_of_isPlain (by cases c.expect <;> decide)
  unfold read
  rw [words_written]
  simp only [ofWords, String.ofList_toList, hside, hstate, sideOf?_sideWord,
    outlookOf?_outlookWord]

end Condition

/-! ### Standard words -/

namespace Vocabulary

/-- The standard word for a step. -/
def stepWord : Direction → String
  | .east => "вправо"
  | .south => "вниз"
  | .west => "влево"
  | .north => "вверх"

lemma find?_stepWord (d : Direction) : standard.find? (stepWord d) = some (.move d) := by
  have hlowered : ∀ entry ∈ standardEntries, lowered entry.1 = entry.1 := by
    intro entry hentry
    have hplain : ∀ entry ∈ standardEntries, entry.1.toList.all isPlain := by decide
    exact lowered_of_isPlain (hplain entry hentry)
  simp only [standardEntries, List.forall_mem_cons] at hlowered
  obtain ⟨heast, hsouth, hwest, hnorth, hpaint, -⟩ := hlowered
  simp only [standard, addStandard, standardEntries, List.foldl_cons, List.foldl_nil, find?_assign,
    heast, hsouth, hwest, hnorth, hpaint]
  cases d <;> decide

end Vocabulary

end RobotScript
