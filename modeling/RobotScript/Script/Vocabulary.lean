import RobotScript.Script.Command
import RobotScript.Text.Lowercase
import Std.Data.ExtTreeMap

/-!
The command words a script may use.

A vocabulary maps words in lower case to commands. Words are lowered when they are assigned and
looked up as they are. A line of a script starts with the longest word that it begins with.
-/

namespace RobotScript

/-- Command words in lower case, each with its command. -/
structure Vocabulary where
  entries : Std.ExtTreeMap String Command

namespace Vocabulary

/-- The vocabulary without words. -/
def empty : Vocabulary := ⟨∅⟩

/-- Gives a word, in lower case, a command in place of the one it had. -/
def assign (v : Vocabulary) (keyword : String) (command : Command) : Vocabulary :=
  ⟨v.entries.insert (lowered keyword) command⟩

/-- The standard words with their commands. -/
def standardEntries : List (String × Command) :=
  [("вправо", .move .east), ("вниз", .move .south), ("влево", .move .west),
    ("вверх", .move .north), ("закрасить", .paint)]

/-- Assigns the standard words and keeps all others. -/
def addStandard (v : Vocabulary) : Vocabulary :=
  standardEntries.foldl (fun v e => v.assign e.1 e.2) v

/-- The vocabulary of the standard words. -/
def standard : Vocabulary := empty.addStandard

instance : Inhabited Vocabulary := ⟨standard⟩

/-- The command of a word as it is written. -/
def find? (v : Vocabulary) (keyword : String) : Option Command := v.entries.get? keyword

/-- The words of the vocabulary. -/
def keywords (v : Vocabulary) : List String := v.entries.keys

/-- The longest of the given words that a text starts with. -/
def longestPrefix? (text : List Char) : List String → Option String
  | [] => none
  | k :: ks =>
    match longestPrefix? text ks with
    | none => if k.toList.isPrefixOf text then some k else none
    | some best =>
      if k.toList.isPrefixOf text && best.length < k.length then some k else some best

/-- The longest word of the vocabulary that a text starts with. -/
def longestMatch? (v : Vocabulary) (text : List Char) : Option String :=
  longestPrefix? text v.keywords

theorem find?_assign (v : Vocabulary) (keyword word : String) (command : Command) :
    (v.assign keyword command).find? word =
      if lowered keyword = word then some command else v.find? word := by
  simp [find?, assign, Std.ExtTreeMap.getElem?_insert, Std.LawfulEqCmp.compare_eq_iff_eq]

end Vocabulary

end RobotScript
