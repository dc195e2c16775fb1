import RobotScript.Text.Ranges

/-!
Blank characters, trimming and words.

A character is blank when it has the Unicode property White_Space. A zero width space or a byte
order mark is not blank.
-/

namespace RobotScript.Text

/-- The code points with the property White_Space. -/
def blankRanges : List (Nat × Nat) :=
  [(0x09, 0x0d), (0x20, 0x20), (0x85, 0x85), (0xa0, 0xa0), (0x1680, 0x1680), (0x2000, 0x200a),
    (0x2028, 0x2029), (0x202f, 0x202f), (0x205f, 0x205f), (0x3000, 0x3000)]

/-- Whether a character is white space. -/
def isBlank (c : Char) : Bool := inRanges blankRanges c

/-- A text without the blanks it starts with. -/
def trimLeft (s : List Char) : List Char := s.dropWhile isBlank

/-- A text without the blanks it ends with. -/
def trimRight (s : List Char) : List Char := (s.reverse.dropWhile isBlank).reverse

/-- A text without the blanks around it. -/
def trim (s : List Char) : List Char := trimRight (trimLeft s)

/-- The longest stretches of a text that hold no blank, from left to right. -/
def words (s : List Char) : List (List Char) := (s.splitOnP isBlank).filter (!·.isEmpty)

/-- Words joined by single blanks. -/
def unwords (ws : List (List Char)) : List Char := List.intercalate [' '] ws

@[simp] theorem words_nil : words [] = [] := rfl

@[simp] theorem trim_nil : trim [] = [] := rfl

/-- Words end at a blank. -/
theorem words_append_cons {c : Char} (h : isBlank c) (s t : List Char) :
    words (s ++ c :: t) = words s ++ words t := by
  unfold words
  rw [List.splitOnP_append_cons s t h, List.filter_append]

theorem words_cons_of_isBlank {c : Char} (h : isBlank c) (s : List Char) :
    words (c :: s) = words s := by
  simpa using words_append_cons h [] s

end RobotScript.Text
