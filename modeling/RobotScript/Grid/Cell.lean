import Std.Data.ExtTreeSet

/-!
Cells of the grid.

A cell is a pair of integers; the same pairs serve as displacements between cells, so cells are
added and subtracted. Cells are ordered row by row: first by `y`, then by `x`. This is the order in
which a snapshot lists painted cells.
-/

namespace RobotScript

/-- A cell of the grid, or the displacement between two cells. The `y` axis points downwards. -/
@[ext]
structure Cell where
  x : Int
  y : Int
deriving DecidableEq

namespace Cell

/-- The cell in the upper left corner. -/
def origin : Cell := ⟨0, 0⟩

instance : Inhabited Cell := ⟨origin⟩

instance : Add Cell := ⟨fun a b => ⟨a.x + b.x, a.y + b.y⟩⟩

instance : Sub Cell := ⟨fun a b => ⟨a.x - b.x, a.y - b.y⟩⟩

@[simp] theorem add_x (a b : Cell) : (a + b).x = a.x + b.x := rfl

@[simp] theorem add_y (a b : Cell) : (a + b).y = a.y + b.y := rfl

@[simp] theorem sub_x (a b : Cell) : (a - b).x = a.x - b.x := rfl

@[simp] theorem sub_y (a b : Cell) : (a - b).y = a.y - b.y := rfl

@[simp] theorem add_sub_cancel_left (a d : Cell) : a + d - a = d := by
  ext
  · rw [sub_x, add_x]; omega
  · rw [sub_y, add_y]; omega

/-- The text of a cell inside an error text. -/
def describe (c : Cell) : String := s!"IVec2({c.x}, {c.y})"

/-! ### The row order -/

instance : Ord Cell := ⟨fun a b => (compare a.y b.y).then (compare a.x b.x)⟩

theorem compare_def (a b : Cell) : compare a b = (compare a.y b.y).then (compare a.x b.x) := rfl

instance : Std.TransOrd Cell :=
  inferInstanceAs (Std.TransCmp (compareLex (compareOn Cell.y) (compareOn Cell.x)))

instance : Std.LawfulEqOrd Cell where
  eq_of_compare {a b} h := by
    rw [compare_def, Ordering.then_eq_eq] at h
    exact Cell.ext (Std.LawfulEqOrd.eq_of_compare h.2) (Std.LawfulEqOrd.eq_of_compare h.1)

end Cell

/-- A finite set of cells; its list of members is in row order. -/
abbrev CellSet := Std.ExtTreeSet Cell

end RobotScript
