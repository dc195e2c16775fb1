import RobotScript.Grid.Cell

/-!
The four directions of the grid.

Directions have an index, which older snapshots use in place of the name, a name, and a unit
displacement. Each of the three determines the direction.
-/

namespace RobotScript

/-- One of the four directions of the grid. -/
inductive Direction where
  | east
  | south
  | west
  | north
deriving DecidableEq

namespace Direction

instance : Inhabited Direction := ⟨east⟩

/-- All directions in index order. -/
def all : List Direction := [east, south, west, north]

/-- The unit displacement of a direction. -/
def delta : Direction → Cell
  | east => ⟨1, 0⟩
  | south => ⟨0, 1⟩
  | west => ⟨-1, 0⟩
  | north => ⟨0, -1⟩

/-- The direction with the given unit displacement. -/
def ofDelta? (displacement : Cell) : Option Direction :=
  all.find? fun d => d.delta = displacement

@[simp] theorem ofDelta?_delta (d : Direction) : ofDelta? d.delta = some d := by
  cases d <;> decide

theorem ofDelta?_eq_some {c : Cell} {d : Direction} : ofDelta? c = some d ↔ d.delta = c := by
  constructor
  · intro h
    simpa using List.find?_some h
  · rintro rfl
    exact ofDelta?_delta d

/-- The position of a direction in `all`. -/
def index : Direction → Nat
  | east => 0
  | south => 1
  | west => 2
  | north => 3

/-- The direction with the given index. -/
def ofIndex? (i : Nat) : Option Direction := all[i]?

@[simp] theorem ofIndex?_index (d : Direction) : ofIndex? d.index = some d := by
  cases d <;> rfl

/-- The written name of a direction. -/
def name : Direction → String
  | east => "east"
  | south => "south"
  | west => "west"
  | north => "north"

/-- The direction with the given name, in lower case. -/
def ofName? (text : String) : Option Direction :=
  all.find? fun d => d.name = text

@[simp] theorem ofName?_name (d : Direction) : ofName? d.name = some d := by
  cases d <;> decide

end Direction

end RobotScript
