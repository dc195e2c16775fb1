import RobotScript.Script.Program
import RobotScript.Script.Vocabulary
import RobotScript.Text.Blank
import RobotScript.Text.Lines

/-!
Reading a script.

The text is lowered and taken line by line. A leading `нач` and a trailing `кон` are taken off a
line as whole words; an empty line counts as a line but holds nothing. A line that opens or closes
no block and starts with no command word is skipped. Reading never fails.
-/

namespace RobotScript

namespace Source

open Text

/-- Whether a word may end before this text. -/
def atBoundary : List Char → Bool
  | [] => true
  | c :: _ => isBlank c

/-- A line without the word `нач` in front. -/
def stripOpening (line : List Char) : List Char :=
  match Keyword.opening.toList.isPrefixOf? line with
  | some rest => if atBoundary rest then trimLeft rest else line
  | none => line

/-- A line without the word `кон` at its end. -/
def stripClosing (line : List Char) : List Char :=
  match Keyword.closing.toList.isSuffixOf? line with
  | some rest => if atBoundary rest.reverse then trimRight rest else line
  | none => line

/-- What a line of a script holds. -/
inductive Line where
  | nothing
  | instruction (op : Op)
  | unknown
deriving DecidableEq

/-- The operation on a line that is trimmed and not empty. -/
def readOp? (v : Vocabulary) (text : List Char) : Option Op :=
  let head := text.takeWhile (!isBlank ·)
  let rest := trim (text.dropWhile (!isBlank ·))
  if head = Keyword.loopStart.toList then
    some (.loopStart (String.ofList (unwords (words rest))))
  else if head = Keyword.ifStart.toList then
    some (.ifStart (String.ofList (unwords ((words rest).takeWhile (· ≠ Keyword.ifThen.toList)))))
  else if head = Keyword.loopEnd.toList ∧ rest = [] then some .loopEnd
  else if head = Keyword.ifEnd.toList ∧ rest = [] then some .ifEnd
  else (v.longestMatch? text).map .command

/-- Reads a line in lower case. -/
def readLine (v : Vocabulary) (line : List Char) : Line :=
  let text := stripClosing (stripOpening (trim line))
  if text = [] then .nothing
  else
    match readOp? v text with
    | some op => .instruction op
    | none => .unknown

/-- What the lines of a script hold, each with its number. -/
def readLines (v : Vocabulary) (source : String) : List (Line × Nat) :=
  ((lines (lowercase source.toList)).map (readLine v)).zipIdx 1

/-- The instruction on a numbered line. -/
def instruction? : Line × Nat → Option Instruction
  | (.instruction op, n) => some ⟨op, n⟩
  | _ => none

/-- The number of a line that is not understood. -/
def skipped? : Line × Nat → Option Nat
  | (.unknown, n) => some n
  | _ => none

end Source

/-- The program of a script whose command words are those of a vocabulary. -/
def Program.ofSource (v : Vocabulary) (source : String) : Program :=
  let read := Source.readLines v source
  ⟨read.filterMap Source.instruction?, read.filterMap Source.skipped?⟩

end RobotScript
