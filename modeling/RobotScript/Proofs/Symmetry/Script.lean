import RobotScript.Proofs.Symmetry.Mirror
import RobotScript.Proofs.Text.Words
import RobotScript.Run.Machine

/-!
The image of a script under a symmetry.

A symmetry acts on what the words of a script mean: on the directions in the vocabulary, and on the
side word of every text that is a condition. A text that is none stays as it is. Blocks end where
they ended (`loopExit_code`, `ifExit_code`), and a condition holds on the image of a field exactly
if it held on the field (`checkCondition_text`).
-/

namespace RobotScript

/-! ### Changing the side of a condition -/

namespace Condition

open Text

/-- The text with another word in place of its first one. -/
def withFirst (text : String) (word : List Char) : String :=
  String.ofList (text.toList.takeWhile isBlank ++ (word ++ afterWord (trimLeft text.toList)))

lemma words_withFirst (text : String) {word : List Char} (hword : IsWord word) :
    words (withFirst text word).toList = word :: (words text.toList).tail := by
  have hblank : ∀ c ∈ text.toList.takeWhile isBlank, isBlank c :=
    fun c hc => List.mem_takeWhile_imp hc
  rw [withFirst, String.toList_ofList, words_blank_append hblank,
    words_word_append hword (breaks_afterWord _), words_afterWord (trimLeft_idem _),
    words_trimLeft]

lemma isWord_sideWord (d : Direction) : IsWord (sideWord d).toList := by cases d <;> decide

lemma lowered_sideWord (d : Direction) : lowered (sideWord d) = sideWord d := by
  cases d <;> decide +kernel

lemma read_eq_ok {text : String} {c : Condition} (h : read text = .ok c) :
    ∃ side state, words text.toList = [side, state] ∧
      outlookOf? (lowered (String.ofList state)) = some c.expect := by
  unfold read at h
  split at h
  · cases h
  · next side state hwords =>
    refine ⟨side, state, hwords, ?_⟩
    unfold ofWords at h
    split at h
    · cases h
    · cases h
    · next d o hside hstate =>
      cases h
      exact hstate
  · cases h

/-- **A condition with another side word is the condition of that side.** -/
theorem read_withFirst {text : String} {c : Condition} (h : read text = .ok c) (d : Direction) :
    read (withFirst text (sideWord d).toList) = .ok ⟨d, c.expect⟩ := by
  obtain ⟨side, state, hwords, hstate⟩ := read_eq_ok h
  unfold read
  rw [words_withFirst text (isWord_sideWord d), hwords]
  simp only [List.tail_cons, ofWords, String.ofList_toList, lowered_sideWord, sideOf?_sideWord,
    hstate]

end Condition

namespace Symmetry

variable (g : Symmetry)

/-! ### Vocabularies -/

def command : Command → Command
  | .move d => .move (g.direction d)
  | .paint => .paint

def vocabulary (v : Vocabulary) : Vocabulary := ⟨v.entries.map fun _ => g.command⟩

def engine (e : Engine) : Engine := { e with vocabulary := g.vocabulary e.vocabulary }

lemma find?_vocabulary (v : Vocabulary) (k : String) :
    (g.vocabulary v).find? k = (v.find? k).map g.command := Std.ExtTreeMap.getElem?_map

/-! ### Condition texts -/

/-- The text of a condition with the side word of the image. A text that is no condition stays. -/
def text (s : String) : String :=
  match Condition.read s with
  | .ok c => Condition.withFirst s (Condition.sideWord (g.direction c.side)).toList
  | .error _ => s

section Text

variable {g} {s : String} {f : Field}

lemma text_of_error {reason : Condition.Error} (h : Condition.read s = .error reason) :
    g.text s = s := by
  rw [text, h]

lemma read_text_of_ok {c : Condition} (h : Condition.read s = .ok c) :
    Condition.read (g.text s) = .ok ⟨g.direction c.side, c.expect⟩ := by
  rw [text, h]
  exact Condition.read_withFirst h _

lemma text_eq_empty_iff : g.text s = "" ↔ s = "" := by
  have hempty : Condition.read "" = .error .empty := by rfl
  constructor
  · intro h
    rcases hs : Condition.read s with reason | c
    · rwa [text_of_error hs] at h
    · have hread := read_text_of_ok (g := g) hs
      rw [h, hempty] at hread
      cases hread
  · rintro rfl
    exact text_of_error hempty

lemma holds_field (hg : g.Lawful f.size) (c : Condition) :
    Condition.holds ⟨g.direction c.side, c.expect⟩ (g.field f) = c.holds f := by
  have hfree : (g.field f).isFree ((g.robot f.robot).neighbour (g.direction c.side))
      (g.cell f.robot.position) = f.isFree (f.robot.neighbour c.side) f.robot.position := by
    rw [neighbour_robot hg, isFree_field hg]
  unfold Condition.holds
  dsimp only
  rw [← hfree]
  rfl

/-- **A condition holds on the image of a field exactly if it holds on the field**, and a text that
is no condition fails alike. -/
theorem checkCondition_text (hg : g.Lawful f.size) (s : String) (line : Nat) :
    checkCondition (g.text s) (g.field f) line = checkCondition s f line := by
  unfold checkCondition Condition.evaluate
  rcases hs : Condition.read s with reason | c
  · rw [text_of_error hs, hs]
  · rw [read_text_of_ok hs]
    dsimp only
    rw [holds_field hg]

lemma checkGuard_text (hg : g.Lawful f.size) (s : String) (line : Nat) :
    checkGuard (g.text s) (g.field f) line = checkGuard s f line := by
  unfold checkGuard
  simp only [text_eq_empty_iff, checkCondition_text hg]

end Text

/-! ### Programs -/

def op : Op → Op
  | .loopStart guard => .loopStart (g.text guard)
  | .ifStart condition => .ifStart (g.text condition)
  | .command keyword => .command keyword
  | .loopEnd => .loopEnd
  | .ifEnd => .ifEnd

def instruction (i : Instruction) : Instruction := ⟨g.op i.op, i.line⟩

def program (p : Program) : Program := ⟨p.instructions.map g.instruction, p.skipped⟩

section Program

variable {g} (code : List Instruction)

lemma loopSpan?_code (depth : Nat) :
    Blocks.loopSpan? depth (code.map g.instruction) = Blocks.loopSpan? depth code := by
  induction code generalizing depth with
  | nil => rfl
  | cons i code ih =>
    obtain ⟨op, line⟩ := i
    cases op with
    | loopEnd => cases depth <;> simp [Blocks.loopSpan?, instruction, Symmetry.op, ih]
    | command | loopStart | ifStart | ifEnd => simp [Blocks.loopSpan?, instruction, Symmetry.op, ih]

lemma ifSpan?_code : Blocks.ifSpan? (code.map g.instruction) = Blocks.ifSpan? code := by
  have hop : (fun i : Instruction => decide (i.op = .ifEnd)) ∘ g.instruction =
      fun i => decide (i.op = .ifEnd) := by
    funext i
    obtain ⟨op, line⟩ := i
    cases op <;> simp [instruction, Symmetry.op]
  rw [Blocks.ifSpan?, List.findIdx?_map, hop]
  rfl

lemma lineAt_code (index : Nat) : lineAt (code.map g.instruction) index = lineAt code index := by
  simp only [lineAt, List.getElem?_map, Option.map_map]
  rfl

/-- A loop of the image ends where the loop does. -/
lemma loopExit_code (start : Nat) :
    loopExit (code.map g.instruction) start = loopExit code start := by
  simp only [loopExit, ← List.map_drop, loopSpan?_code, lineAt_code]

lemma ifExit_code (start : Nat) :
    ifExit (code.map g.instruction) start = ifExit code start := by
  simp only [ifExit, ← List.map_drop, ifSpan?_code, lineAt_code]

end Program

end Symmetry

end RobotScript
