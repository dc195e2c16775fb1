import Mathlib.Tactic.Common
import RobotScript.Script.Blocks

/-!
Block-structured scripts and the programs they flatten to.

A `Block` is a list of commands, loops and conditionals, and the last two hold blocks in turn.
`Block.flatten` writes it out as a flat program. The main statements are `loopExit_of_segmentAt` and
`ifExit_of_segmentAt`: inside any program that holds a flattened block, the exit of each of its loops
is the place just past the loop, and so is the exit of a conditional without conditionals inside.
-/

namespace RobotScript

/-- A block-structured script. Every word of it keeps the line it stands on. -/
inductive Block where
  | done
  | command (keyword : String) (line : Nat) (rest : Block)
  /-- A loop with its guard, which may be empty, its body and what comes after it. -/
  | loop (guard : String) (line : Nat) (body : Block) (endLine : Nat) (rest : Block)
  /-- A conditional with its condition, its body and what comes after it. -/
  | conditional (condition : String) (line : Nat) (body : Block) (endLine : Nat) (rest : Block)
deriving DecidableEq

namespace Block

/-- The instructions of a block. -/
def flatten : Block → List Instruction
  | done => []
  | command keyword line rest => ⟨.command keyword, line⟩ :: rest.flatten
  | loop guard line body endLine rest =>
    ⟨.loopStart guard, line⟩ :: (body.flatten ++ ⟨.loopEnd, endLine⟩ :: rest.flatten)
  | conditional condition line body endLine rest =>
    ⟨.ifStart condition, line⟩ :: (body.flatten ++ ⟨.ifEnd, endLine⟩ :: rest.flatten)

/-- Whether a block has no conditional at any depth. -/
def unconditional : Block → Bool
  | done => true
  | command _ _ rest => rest.unconditional
  | loop _ _ body _ rest => body.unconditional && rest.unconditional
  | conditional .. => false

/-- Whether no conditional stands, at any depth, inside the body of another one. -/
def proper : Block → Bool
  | done => true
  | command _ _ rest => rest.proper
  | loop _ _ body _ rest => body.proper && rest.proper
  | conditional _ _ body _ rest => body.unconditional && rest.proper

/-- A block without conditionals has none inside another. -/
theorem proper_of_unconditional {b : Block} (h : b.unconditional) : b.proper := by
  induction b with
  | done => rfl
  | command keyword line rest ih => exact ih h
  | loop guard line body endLine rest ihb ihr =>
    obtain ⟨hb, hr⟩ := Bool.and_eq_true_iff.1 h
    exact Bool.and_eq_true_iff.2 ⟨ihb hb, ihr hr⟩
  | conditional => cases h

end Block

/-! ### Where the blocks of a flattened block end -/

namespace Blocks

/-- Flattened code is balanced: a loop that is open before it is open after it. -/
theorem loopSpan?_flatten (b : Block) (depth : Nat) (tail : List Instruction) :
    loopSpan? depth (b.flatten ++ tail) = (loopSpan? depth tail).map (b.flatten.length + ·) := by
  induction b generalizing depth tail with
  | done => simp [Block.flatten]
  | command keyword line rest ih =>
    simp only [Block.flatten, List.cons_append, loopSpan?, ih, Option.map_map, List.length_cons]
    congr 1
    funext n
    simp only [Function.comp]
    omega
  | loop guard line body endLine rest ihb ihr =>
    simp only [Block.flatten, List.cons_append, List.append_assoc, loopSpan?, ihb, ihr,
      Option.map_map, List.length_cons, List.length_append]
    congr 1
    funext n
    simp only [Function.comp]
    omega
  | conditional condition line body endLine rest ihb ihr =>
    simp only [Block.flatten, List.cons_append, List.append_assoc, loopSpan?, ihb, ihr,
      Option.map_map, List.length_cons, List.length_append]
    congr 1
    funext n
    simp only [Function.comp]
    omega

/-- Code without conditionals has no `все`. -/
lemma op_ne_ifEnd_of_unconditional {b : Block} (h : b.unconditional) :
    ∀ i ∈ b.flatten, i.op ≠ .ifEnd := by
  induction b with
  | done => simp [Block.flatten]
  | command keyword line rest ih =>
    intro i hi
    rcases List.mem_cons.1 hi with rfl | hi
    · simp
    · exact ih h i hi
  | loop guard line body endLine rest ihb ihr =>
    obtain ⟨hb, hr⟩ := Bool.and_eq_true_iff.1 h
    intro i hi
    simp only [Block.flatten, List.mem_cons, List.mem_append] at hi
    rcases hi with rfl | hi | rfl | hi
    · simp
    · exact ihb hb i hi
    · simp
    · exact ihr hr i hi
  | conditional => cases h

theorem ifSpan?_flatten {b : Block} (h : b.unconditional) (line : Nat) (tail : List Instruction) :
    ifSpan? (b.flatten ++ ⟨.ifEnd, line⟩ :: tail) = some (b.flatten.length + 1) := by
  have hnone : b.flatten.findIdx? (fun i => decide (i.op = .ifEnd)) = none := by
    rw [List.findIdx?_eq_none_iff]
    intro i hi
    simpa using op_ne_ifEnd_of_unconditional h i hi
  simp [ifSpan?, List.findIdx?_append, hnone, List.findIdx?_cons]

end Blocks

/-! ### Code inside a program -/

/-- The code `part` stands in a program at the index `start`. -/
def SegmentAt (code : List Instruction) (start : Nat) (part : List Instruction) : Prop :=
  part <+: code.drop start

namespace SegmentAt

variable {code part others : List Instruction} {start : Nat} {i : Instruction}

theorem whole (code : List Instruction) : SegmentAt code 0 code := List.prefix_rfl

/-- The first instruction of the part. -/
theorem head (h : SegmentAt code start (i :: part)) : code[start]? = some i := by
  obtain ⟨rest, hrest⟩ := h
  rw [← List.head?_drop, ← hrest]
  rfl

/-- The part without what comes before it. -/
theorem right (h : SegmentAt code start (part ++ others)) :
    SegmentAt code (start + part.length) others := by
  have hdrop : (code.drop start).drop part.length = code.drop (start + part.length) :=
    List.drop_drop
  obtain ⟨rest, hrest⟩ := h
  rw [SegmentAt, ← hdrop, ← hrest, List.append_assoc, List.drop_left]
  exact List.prefix_append others rest

theorem left (h : SegmentAt code start (part ++ others)) : SegmentAt code start part :=
  (List.prefix_append part others).trans h

/-- The part without its first instruction. -/
theorem tail (h : SegmentAt code start (i :: part)) : SegmentAt code (start + 1) part := by
  rw [← List.singleton_append] at h
  exact h.right

end SegmentAt

section Exits

variable {code tail : List Instruction} {start line endLine : Nat} {b : Block}

/-- **A loop of a flattened block ends at its own `кц`.** -/
theorem loopExit_of_segmentAt {guard : String}
    (h : SegmentAt code start (⟨.loopStart guard, line⟩ :: (b.flatten ++ ⟨.loopEnd, endLine⟩ :: tail))) :
    loopExit code start = .ok (start + 1 + b.flatten.length + 1) := by
  obtain ⟨rest, hrest⟩ := h.tail
  have hspan : Blocks.loopSpan? 0 (code.drop (start + 1)) = some (b.flatten.length + 1) := by
    rw [← hrest, List.append_assoc, Blocks.loopSpan?_flatten]
    rfl
  simp only [loopExit, hspan]
  rfl

/-- **A conditional of a flattened block ends at its own `все`**, if none stands inside it. -/
theorem ifExit_of_segmentAt {condition : String} (hb : b.unconditional)
    (h : SegmentAt code start (⟨.ifStart condition, line⟩ :: (b.flatten ++ ⟨.ifEnd, endLine⟩ :: tail))) :
    ifExit code start = .ok (start + 1 + b.flatten.length + 1) := by
  obtain ⟨rest, hrest⟩ := h.tail
  have hspan : Blocks.ifSpan? (code.drop (start + 1)) = some (b.flatten.length + 1) := by
    rw [← hrest, List.append_assoc]
    exact Blocks.ifSpan?_flatten hb endLine (tail ++ rest)
  simp only [ifExit, hspan]
  rfl

end Exits

end RobotScript
