import RobotScript.Json.Value
import RobotScript.Script.Failure

/-!
Codecs: ways to write values of a type as JSON and to take them back.

A record is written as an object and taken from an object or from an array of its fields in order.
In an object, unknown names are passed over, a field given twice is refused, and the first member in
order that is refused decides the error.
-/

namespace RobotScript.Json

/-- Why text or a number names no direction. -/
inductive UnknownDirection where
  | index (n : Nat)
  /-- The name in lower case. -/
  | name (text : String)
deriving DecidableEq

/-- The text shown to people. -/
def UnknownDirection.message : UnknownDirection → String
  | index n => s!"direction index {n} out of range"
  | name text => s!"unknown direction `{text}`"

/-- Why a JSON value is not taken. -/
inductive Refusal where
  /-- The value is not of the right form. -/
  | form
  | direction (reason : UnknownDirection)
deriving DecidableEq

/-- The text of a refusal, where it has one of its own. -/
def Refusal.message? : Refusal → Option String
  | form => none
  | direction reason => some reason.message

/-- A way to write values of a type as JSON and to take them back. -/
structure Codec (α : Type) where
  encode : α → Json
  decode : Json → Except Refusal α

namespace Codec

variable {α : Type}

/-! ### Simple values -/

/-- Whole numbers of 32 bits with sign. -/
def int32 : Codec Int where
  encode n := .int n
  decode
    | .int n => if -2147483648 ≤ n ∧ n ≤ 2147483647 then .ok n else .error .form
    | _ => .error .form

/-- Whole numbers of 64 bits without sign. -/
def word64 : Codec Nat where
  encode n := .nat n
  decode
    | .int n => if 0 ≤ n ∧ n ≤ 18446744073709551615 then .ok n.toNat else .error .form
    | _ => .error .form

/-- Strings. -/
def text : Codec String where
  encode s := .str s
  decode
    | .str s => .ok s
    | _ => .error .form

/-- The value that a list gives for a name. -/
def lookup (names : List (String × α)) (name : String) : Except Refusal α :=
  match names.find? (·.1 = name) with
  | some (_, a) => .ok a
  | none => .error .form

/-- A choice of names, written as a string; an object with the name as its only member, of value
`null`, is taken too. -/
def choice (write : α → String) (names : List (String × α)) : Codec α where
  encode a := .str (write a)
  decode
    | .str name => lookup names name
    | .obj [(name, .null)] => lookup names name
    | _ => .error .form

/-- Takes every item of a list, up to the first that is refused. -/
def decodeAll (c : Codec α) : List Json → Except Refusal (List α)
  | [] => .ok []
  | j :: rest =>
    match c.decode j with
    | .error e => .error e
    | .ok a =>
      match decodeAll c rest with
      | .error e => .error e
      | .ok as => .ok (a :: as)

/-- Lists, written as arrays. -/
def list (c : Codec α) : Codec (List α) where
  encode as := .arr (as.map c.encode)
  decode
    | .arr items => decodeAll c items
    | _ => .error .form

/-- Values that may be absent, `null` standing for absence. -/
def nullable (c : Codec α) : Codec (Option α) where
  encode
    | some a => c.encode a
    | none => .null
  decode
    | .null => .ok none
    | j =>
      match c.decode j with
      | .ok a => .ok (some a)
      | .error e => .error e

/-! ### Records -/

/-- A field of a record: the names it goes by, the first of which is written, and its codec. -/
structure Part (α : Type) where
  names : List String
  codec : Codec α

/-- The field of the given name. -/
def part (name : String) (codec : Codec α) : Part α := ⟨[name], codec⟩

/-- What is checked of a field before the record is put together. -/
structure Slot where
  names : List String
  check : Json → Except Refusal Unit

/-- The check of a field. -/
def Part.slot (p : Part α) : Slot where
  names := p.names
  check j :=
    match p.codec.decode j with
    | .ok _ => .ok ()
    | .error e => .error e

/-- Checks members in order. A member is refused if its field was given before or does not take its
value; members of no field are passed over. -/
def checkMembers (slots : List Slot) (given : List String) :
    List (String × Json) → Except Refusal Unit
  | [] => .ok ()
  | (name, j) :: rest =>
    match slots.find? (·.names.contains name) with
    | none => checkMembers slots given rest
    | some slot =>
      if slot.names.any given.contains then .error .form
      else
        match slot.check j with
        | .error e => .error e
        | .ok () => checkMembers slots (name :: given) rest

/-- The members of a record, checked. An array stands for its items under the names of the fields in
order; it may be too short but not too long. -/
def members (slots : List Slot) : Json → Except Refusal (List (String × Json))
  | .obj ms =>
    match checkMembers slots [] ms with
    | .ok () => .ok ms
    | .error e => .error e
  | .arr items =>
    let ms := (slots.map (·.names.headD "")).zip items
    match checkMembers slots [] ms with
    | .ok () => if items.length ≤ slots.length then .ok ms else .error .form
    | .error e => .error e
  | _ => .error .form

/-- The value of a field, if it is given. -/
def Part.find? (p : Part α) (ms : List (String × Json)) : Except Refusal (Option α) :=
  match ms.find? (p.names.contains ·.1) with
  | none => .ok none
  | some (_, j) =>
    match p.codec.decode j with
    | .ok a => .ok (some a)
    | .error e => .error e

/-- The value of a field that has to be given. -/
def Part.required (p : Part α) (ms : List (String × Json)) : Except Refusal α :=
  match p.find? ms with
  | .ok (some a) => .ok a
  | .ok none => .error .form
  | .error e => .error e

/-- The value of a field, or another value where it is not given. -/
def Part.getD (p : Part α) (ms : List (String × Json)) (default : α) : Except Refusal α :=
  match p.find? ms with
  | .ok a => .ok (a.getD default)
  | .error e => .error e

/-- The member that writes a field. -/
def Part.member (p : Part α) (a : α) : String × Json := (p.names.headD "", p.codec.encode a)

end Codec

end RobotScript.Json
