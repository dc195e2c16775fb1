/-!
Decimal numerals with an optional sign, as a command line gives them.
-/

namespace RobotScript.Text

/-- The number a list of decimal digits stands for, continuing from `value`. -/
def digitsValue? (value : Nat) : List Char → Option Nat
  | [] => some value
  | c :: rest =>
    if c.isDigit then digitsValue? (10 * value + (c.toNat - '0'.toNat)) rest else none

/-- Reads one or more decimal digits. -/
def readDigits? (s : List Char) : Option Nat :=
  if s.isEmpty then none else digitsValue? 0 s

/-- Reads a numeral without a sign or with a plus sign, up to `max`. -/
def readNat? (max : Nat) (s : List Char) : Option Nat :=
  let value :=
    match s with
    | '+' :: rest => readDigits? rest
    | _ => readDigits? s
  value.filter (· ≤ max)

/-- Reads a numeral with an optional sign, from `min` to `max`. -/
def readInt? (min max : Int) (s : List Char) : Option Int :=
  let value :=
    match s with
    | '+' :: rest => (readDigits? rest).map Int.ofNat
    | '-' :: rest => (readDigits? rest).map fun n => -Int.ofNat n
    | _ => (readDigits? s).map Int.ofNat
  value.filter fun n => min ≤ n && n ≤ max

end RobotScript.Text
