/-!
Lines of a text.

A line ends at a line feed, and a carriage return right before it belongs to the line end. A
carriage return anywhere else is a character of its line. What follows the last line feed is a line
only if it is not empty.
-/

namespace RobotScript.Text

/-- The lines of a text, without their ends. -/
def lines : List Char → List (List Char)
  | [] => []
  | '\n' :: rest => [] :: lines rest
  | '\r' :: '\n' :: rest => [] :: lines rest
  | c :: rest =>
    match lines rest with
    | [] => [[c]]
    | line :: more => (c :: line) :: more

@[simp] theorem lines_nil : lines [] = [] := rfl

@[simp] theorem lines_feed (s : List Char) : lines ('\n' :: s) = [] :: lines s := by
  rw [lines]

end RobotScript.Text
