import RobotScript.Json.Value

/-!
Writing JSON text, on one line or indented.

The indented form has one item or member a line, two blanks deeper than what holds it; an empty
array or object stays on its line. Text is written as it is but for quotes, backslashes and
controls.
-/

namespace RobotScript.Json

/-- A hexadecimal digit in lower case. -/
def hexChar (n : Nat) : Char := Nat.digitChar (n % 16)

/-- How a character is written inside a string. -/
def escaped (c : Char) : String :=
  if c = '"' then "\\\""
  else if c = '\\' then "\\\\"
  else if c = '\n' then "\\n"
  else if c = '\r' then "\\r"
  else if c = '\t' then "\\t"
  else if c = '\x08' then "\\b"
  else if c = '\x0c' then "\\f"
  else if c.toNat < 0x20 then
    String.ofList ['\\', 'u', '0', '0', hexChar (c.toNat / 16), hexChar c.toNat]
  else c.toString

/-- Writes a string behind `out`. -/
def writeString (out : String) (s : String) : String :=
  (s.toList.foldl (fun out c => out ++ escaped c) (out ++ "\"")) ++ "\""

/-- Writes a value that has no parts behind `out`. A value that stands for no number or text is
written as `null`. -/
def writeLeaf (out : String) : Json → String
  | bool true => out ++ "true"
  | bool false => out ++ "false"
  | int n => out ++ toString n
  | str s => writeString out s
  | _ => out ++ "null"

mutual

/-- Writes a value on one line behind `out`. -/
def writeLine (out : String) : Json → String
  | arr items => writeLineItems (out ++ "[") "" items ++ "]"
  | obj members => writeLineMembers (out ++ "\x7b") "" members ++ "\x7d"
  | j => writeLeaf out j

/-- Writes items on one line, each behind a separator. -/
def writeLineItems (out separator : String) : List Json → String
  | [] => out
  | j :: rest => writeLineItems (writeLine (out ++ separator) j) "," rest

/-- Writes members on one line, each behind a separator. -/
def writeLineMembers (out separator : String) : List (String × Json) → String
  | [] => out
  | (name, j) :: rest =>
    writeLineMembers (writeLine (writeString (out ++ separator) name ++ ":") j) "," rest

end

mutual

/-- Writes a value behind `out`, its lines set in by `indent`. -/
def writeBlock (out indent : String) : Json → String
  | arr [] => out ++ "[]"
  | arr items => writeBlockItems (out ++ "[\n") (indent ++ "  ") "" items ++ "\n" ++ indent ++ "]"
  | obj [] => out ++ "\x7b\x7d"
  | obj members =>
    writeBlockMembers (out ++ "\x7b\n") (indent ++ "  ") "" members ++ "\n" ++ indent ++ "\x7d"
  | j => writeLeaf out j

/-- Writes items on lines of their own, each behind a separator. -/
def writeBlockItems (out indent separator : String) : List Json → String
  | [] => out
  | j :: rest =>
    writeBlockItems (writeBlock (out ++ separator ++ indent) indent j) indent ",\n" rest

/-- Writes members on lines of their own, each behind a separator. -/
def writeBlockMembers (out indent separator : String) : List (String × Json) → String
  | [] => out
  | (name, j) :: rest =>
    let named := writeString (out ++ separator ++ indent) name ++ ": "
    writeBlockMembers (writeBlock named indent j) indent ",\n" rest

end

/-- The value on one line. -/
def line (j : Json) : String := writeLine "" j

/-- The value in indented form. -/
def pretty (j : Json) : String := writeBlock "" "" j

end RobotScript.Json
