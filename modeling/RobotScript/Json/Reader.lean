import RobotScript.Json.Value

/-!
Reading JSON text.

The reader takes exactly the JSON grammar: no byte order mark, no comments, no trailing commas,
nothing after the value but blanks. It goes through the text once; the length of the text bounds its
calls.
-/

namespace RobotScript.Json.Reader

/-- A text without the blanks it starts with. -/
def skipBlanks (s : List Char) : List Char :=
  s.dropWhile fun c => c = ' ' || c = '\n' || c = '\r' || c = '\t'

/-! ### Strings -/

/-- The value of a hexadecimal digit. -/
def hexDigit? (c : Char) : Option Nat :=
  if '0' ≤ c && c ≤ '9' then some (c.toNat - '0'.toNat)
  else if 'a' ≤ c && c ≤ 'f' then some (c.toNat - 'a'.toNat + 10)
  else if 'A' ≤ c && c ≤ 'F' then some (c.toNat - 'A'.toNat + 10)
  else none

/-- The value of four hexadecimal digits. -/
def unit? (a b c d : Char) : Option Nat := do
  return (((← hexDigit? a) * 16 + (← hexDigit? b)) * 16 + (← hexDigit? c)) * 16 + (← hexDigit? d)

/-- The character that a letter after a backslash stands for. -/
def escape? : Char → Option Char
  | '"' => some '"'
  | '\\' => some '\\'
  | '/' => some '/'
  | 'b' => some '\x08'
  | 'f' => some '\x0c'
  | 'n' => some '\n'
  | 'r' => some '\r'
  | 't' => some '\t'
  | _ => none

/-- A string that is being read. -/
structure Draft where
  /-- The characters so far, the last one first. -/
  chars : List Char := []
  /-- The first half of a surrogate pair, if it was just read. -/
  half : Option Nat := none
  /-- Whether some half of a pair stood alone. -/
  broken : Bool := false

namespace Draft

/-- Adds a character. -/
def add (d : Draft) (c : Char) : Draft := ⟨c :: d.chars, none, d.broken || d.half.isSome⟩

/-- Adds a unit of 16 bits, which is a character or half of a surrogate pair. -/
def addUnit (d : Draft) (u : Nat) : Draft :=
  if 0xd800 ≤ u && u < 0xdc00 then ⟨d.chars, some u, d.broken || d.half.isSome⟩
  else if 0xdc00 ≤ u && u < 0xe000 then
    match d.half with
    | some h =>
      ⟨Char.ofNat (0x10000 + (h - 0xd800) * 0x400 + (u - 0xdc00)) :: d.chars, none, d.broken⟩
    | none => { d with broken := true }
  else d.add (Char.ofNat u)

/-- The string, unless half of a pair stood alone. -/
def close? (d : Draft) : Option String :=
  if d.broken || d.half.isSome then none else some (String.ofList d.chars.reverse)

end Draft

/-- Reads the rest of a string after its opening quote. -/
def stringTail? : Draft → List Char → Option (Option String × List Char)
  | _, [] => none
  | d, '"' :: rest => some (d.close?, rest)
  | d, '\\' :: 'u' :: a :: b :: c :: e :: rest =>
    match unit? a b c e with
    | some u => stringTail? (d.addUnit u) rest
    | none => none
  | d, '\\' :: c :: rest =>
    match escape? c with
    | some c' => stringTail? (d.add c') rest
    | none => none
  | d, c :: rest => if c.toNat < 0x20 then none else stringTail? (d.add c) rest

/-! ### Numbers -/

/-- The number that decimal digits stand for. -/
def digitsValue (digits : List Char) : Nat :=
  digits.foldl (fun n c => 10 * n + (c.toNat - '0'.toNat)) 0

/-- Takes decimal digits, at least one. -/
def digits? (s : List Char) : Option (List Char × List Char) :=
  let digits := s.takeWhile Char.isDigit
  if digits.isEmpty then none else some (digits, s.dropWhile Char.isDigit)

/-- Takes the digits before the point: a zero alone, or digits that do not start with zero. -/
def wholePart? (s : List Char) : Option (List Char × List Char) :=
  match s with
  | '0' :: rest => some (['0'], rest)
  | _ => digits? s

/-- Takes a point and the digits after it, if there is a point. -/
def fractionPart? (s : List Char) : Option (List Char × List Char) :=
  match s with
  | '.' :: rest => digits? rest
  | _ => some ([], s)

/-- Takes an exponent, if there is one. -/
def exponentPart? (s : List Char) : Option (Option Int × List Char) :=
  match s with
  | c :: rest =>
    if c = 'e' || c = 'E' then
      let (negative, digits) :=
        match rest with
        | '+' :: r => (false, r)
        | '-' :: r => (true, r)
        | r => (false, r)
      match digits? digits with
      | some (ds, more) =>
        let n : Int := digitsValue ds
        some (some (if negative then -n else n), more)
      | none => none
    else some (none, s)
  | [] => some (none, s)

/-- Whether `significand * 10 ^ exponent` rounds to more than the largest double. Only numbers of
about the right size are computed. -/
def exceedsDouble (significand : Nat) (exponent : Int) : Bool :=
  let size : Int := (Nat.toDigits 10 significand).length + exponent
  let bound := Nat.pow 2 1024 - Nat.pow 2 970
  if significand = 0 || size < 308 then false
  else if 310 < size then true
  else if 0 ≤ exponent then bound ≤ significand * Nat.pow 10 exponent.toNat
  else bound * Nat.pow 10 (-exponent).toNat ≤ significand

/-- The value of a number. Minus zero is no whole number. -/
def numberValue (negative : Bool) (whole fraction : List Char) (exponent : Option Int) : Json :=
  let n := digitsValue whole
  let isWhole := fraction.isEmpty && exponent.isNone
  if isWhole && negative && 0 < n && n ≤ 9223372036854775808 then .int (-n)
  else if isWhole && !negative && n ≤ 18446744073709551615 then .int n
  else if exceedsDouble (digitsValue (whole ++ fraction)) (exponent.getD 0 - fraction.length) then
    .unreadable
  else .real

/-- Reads a number. -/
def number? (s : List Char) : Option (Json × List Char) := do
  let (negative, s) :=
    match s with
    | '-' :: rest => (true, rest)
    | _ => (false, s)
  let (whole, s) ← wholePart? s
  let (fraction, s) ← fractionPart? s
  let (exponent, s) ← exponentPart? s
  return (numberValue negative whole fraction exponent, s)

/-! ### Values -/

mutual

/-- Reads a value and gives the text after it. -/
def value? : Nat → List Char → Option (Json × List Char)
  | 0, _ => none
  | fuel + 1, s =>
    match skipBlanks s with
    | 'n' :: 'u' :: 'l' :: 'l' :: rest => some (.null, rest)
    | 't' :: 'r' :: 'u' :: 'e' :: rest => some (.bool true, rest)
    | 'f' :: 'a' :: 'l' :: 's' :: 'e' :: rest => some (.bool false, rest)
    | '"' :: rest =>
      match stringTail? {} rest with
      | some (some text, rest) => some (.str text, rest)
      | some (none, rest) => some (.unreadable, rest)
      | none => none
    | '[' :: rest =>
      match skipBlanks rest with
      | ']' :: rest => some (.arr [], rest)
      | rest => items? fuel rest []
    | '\x7b' :: rest =>
      match skipBlanks rest with
      | '\x7d' :: rest => some (.obj [], rest)
      | rest => members? fuel rest [] true
    | rest => number? rest

/-- Reads the items of an array after those in `read`, the last of which comes first. -/
def items? : Nat → List Char → List Json → Option (Json × List Char)
  | 0, _, _ => none
  | fuel + 1, s, read =>
    match value? fuel s with
    | none => none
    | some (j, rest) =>
      match skipBlanks rest with
      | ',' :: rest => items? fuel rest (j :: read)
      | ']' :: rest => some (.arr (j :: read).reverse, rest)
      | _ => none

/-- Reads the members of an object after those in `read`, the last of which comes first. The object
is readable only if every name is. -/
def members? : Nat → List Char → List (String × Json) → Bool → Option (Json × List Char)
  | 0, _, _, _ => none
  | fuel + 1, s, read, readable =>
    match skipBlanks s with
    | '"' :: rest =>
      match stringTail? {} rest with
      | none => none
      | some (name, rest) =>
        match skipBlanks rest with
        | ':' :: rest =>
          match value? fuel rest with
          | none => none
          | some (j, rest) =>
            let read := (name.getD "", j) :: read
            let readable := readable && name.isSome
            match skipBlanks rest with
            | ',' :: rest => members? fuel rest read readable
            | '\x7d' :: rest =>
              some (if readable then .obj read.reverse else .unreadable, rest)
            | _ => none
        | _ => none
    | _ => none

end

end RobotScript.Json.Reader

namespace RobotScript.Json

/-- Reads a JSON text. -/
def read? (text : List Char) : Option Json :=
  match Reader.value? (2 * text.length + 2) text with
  | some (j, rest) => if (Reader.skipBlanks rest).isEmpty then some j else none
  | none => none

/-- How deep a message may be nested. -/
def maxDepth : Nat := 127

/-- Reads a message: a JSON text all of which is readable and not nested too deep. The members of
objects are sorted by name, and the last one counts of each name. -/
def readMessage? (text : List Char) : Option Json :=
  match read? text with
  | some j => if j.isReadable && j.depth ≤ maxDepth then some j.sorted else none
  | none => none

end RobotScript.Json
