/-!
JSON values.

Numbers are kept only where they are whole numbers of 64 bits, with or without sign; nothing here
takes any other number, so those are not told apart. A string with half of a surrogate pair and a
number beyond the range of doubles are well formed but stand for nothing; they are allowed only
where a value is ignored.
-/

namespace RobotScript

/-- A JSON value. The members of an object are kept in order, repeated names included. -/
inductive Json where
  | null
  | bool (value : Bool)
  /-- A whole number of 64 bits. -/
  | int (value : Int)
  /-- Any other number. -/
  | real
  /-- A well-formed value that stands for nothing. -/
  | unreadable
  | str (value : String)
  | arr (items : List Json)
  | obj (members : List (String × Json))

namespace Json

instance : Inhabited Json := ⟨null⟩

/-- The value of a natural number. -/
def nat (n : Nat) : Json := int n

/-- The value of a member of an object; the last one counts if the name is repeated. -/
def get? (j : Json) (name : String) : Option Json :=
  match j with
  | obj members => (members.reverse.find? (·.1 = name)).map (·.2)
  | _ => none

mutual

/-- Whether every part of a value stands for something. -/
def isReadable : Json → Bool
  | unreadable => false
  | arr items => allReadable items
  | obj members => allMembersReadable members
  | _ => true

/-- Whether every item is readable. -/
def allReadable : List Json → Bool
  | [] => true
  | j :: rest => j.isReadable && allReadable rest

/-- Whether the value of every member is readable. -/
def allMembersReadable : List (String × Json) → Bool
  | [] => true
  | (_, j) :: rest => j.isReadable && allMembersReadable rest

end

mutual

/-- How deep arrays and objects are nested. -/
def depth : Json → Nat
  | arr items => depthOfItems items + 1
  | obj members => depthOfMembers members + 1
  | _ => 0

/-- The depth of the deepest item. -/
def depthOfItems : List Json → Nat
  | [] => 0
  | j :: rest => max j.depth (depthOfItems rest)

/-- The depth of the deepest member. -/
def depthOfMembers : List (String × Json) → Nat
  | [] => 0
  | (_, j) :: rest => max j.depth (depthOfMembers rest)

end

/-- Puts a member in front of members that are sorted by name, unless the name is there already. -/
def insertMember (name : String) (j : Json) : List (String × Json) → List (String × Json)
  | [] => [(name, j)]
  | (other, k) :: rest =>
    if name < other then (name, j) :: (other, k) :: rest
    else if name = other then (other, k) :: rest
    else (other, k) :: insertMember name j rest

mutual

/-- The value with the members of every object sorted by name, the last one kept of each name. -/
def sorted : Json → Json
  | arr items => arr (sortedItems items)
  | obj members => obj (sortedMembers members)
  | j => j

/-- The items of an array, each of them sorted. -/
def sortedItems : List Json → List Json
  | [] => []
  | j :: rest => j.sorted :: sortedItems rest

/-- The members of an object sorted by name. -/
def sortedMembers : List (String × Json) → List (String × Json)
  | [] => []
  | (name, j) :: rest => insertMember name j.sorted (sortedMembers rest)

end

end Json

end RobotScript
