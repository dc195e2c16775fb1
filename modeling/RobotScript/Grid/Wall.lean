import RobotScript.Grid.Direction

/-!
Walls on the edges between cells.

A wall is addressed by the cell below it (a horizontal wall) or to the right of it (a vertical
wall), so each edge of the grid has one address. `Wall.between?` gives the address of the edge that
two neighbours share. Walls are ordered with the horizontal ones first and then row by row, as a
snapshot lists them.
-/

namespace RobotScript

/-- How a wall runs along the edge it stands on. -/
inductive Orientation where
  /-- Along the x axis, between `(x, y - 1)` and `(x, y)`. -/
  | horizontal
  /-- Along the y axis, between `(x - 1, y)` and `(x, y)`. -/
  | vertical
deriving DecidableEq

namespace Orientation

/-- The written name of an orientation. -/
def name : Orientation → String
  | horizontal => "horizontal"
  | vertical => "vertical"

/-- The name of an orientation inside an error text. -/
def title : Orientation → String
  | horizontal => "Horizontal"
  | vertical => "Vertical"

/-- Horizontal comes before vertical. -/
def rank : Orientation → Nat
  | horizontal => 0
  | vertical => 1

theorem rank_inj {a b : Orientation} (h : a.rank = b.rank) : a = b := by
  cases a <;> cases b <;> simp_all [rank]

end Orientation

/-- A wall segment on an edge of the grid. -/
@[ext]
structure Wall where
  x : Int
  y : Int
  orientation : Orientation
deriving DecidableEq

namespace Wall

/-- The wall on the left edge of a cell. -/
def leftOf (c : Cell) : Wall := ⟨c.x, c.y, .vertical⟩

/-- The wall on the upper edge of a cell. -/
def above (c : Cell) : Wall := ⟨c.x, c.y, .horizontal⟩

/-- The wall on the edge that two cells share, if they are neighbours. -/
def between? (a b : Cell) : Option Wall :=
  match Direction.ofDelta? (b - a) with
  | some .east => some (leftOf b)
  | some .west => some (leftOf a)
  | some .south => some (above b)
  | some .north => some (above a)
  | none => none

/-- Whether the wall stands on an edge of a cell of a field of the given size. The coordinate across
the wall may equal the size, which is the outer border. -/
def fits (w : Wall) (size : Int) : Bool :=
  match w.orientation with
  | .vertical => 0 ≤ w.x && w.x ≤ size && 0 ≤ w.y && w.y < size
  | .horizontal => 0 ≤ w.y && w.y ≤ size && 0 ≤ w.x && w.x < size

/-- The text of a wall inside an error text. -/
def describe (w : Wall) : String :=
  s!"Wall \x7b x: {w.x}, y: {w.y}, orientation: {w.orientation.title} \x7d"

/-! ### The listing order -/

instance : Ord Wall :=
  ⟨fun a b => (compare a.orientation.rank b.orientation.rank).then
    ((compare a.y b.y).then (compare a.x b.x))⟩

theorem compare_def (a b : Wall) :
    compare a b = (compare a.orientation.rank b.orientation.rank).then
      ((compare a.y b.y).then (compare a.x b.x)) := rfl

instance : Std.TransOrd Wall :=
  inferInstanceAs (Std.TransCmp (compareLex (compareOn fun w : Wall => w.orientation.rank)
    (compareLex (compareOn Wall.y) (compareOn Wall.x))))

instance : Std.LawfulEqOrd Wall where
  eq_of_compare {a b} h := by
    rw [compare_def, Ordering.then_eq_eq, Ordering.then_eq_eq] at h
    exact Wall.ext (Std.LawfulEqOrd.eq_of_compare h.2.2) (Std.LawfulEqOrd.eq_of_compare h.2.1)
      (Orientation.rank_inj (Std.LawfulEqOrd.eq_of_compare h.1))

end Wall

/-- A finite set of walls; its list of members is in listing order. -/
abbrev WallSet := Std.ExtTreeSet Wall

end RobotScript
