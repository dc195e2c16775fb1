import Mathlib.Tactic.Common
import RobotScript.Field.Basic

/-!
Walls and the cells on their two sides.

Each wall stands between two neighbours. `Wall.between?_eq_some_iff` says that the address of an
edge is the wall between its cells, in whichever order they are given, and `Field.isFree_iff` reads
off what a free way means.
-/

namespace RobotScript

namespace Wall

/-- The cell above a horizontal wall or to the left of a vertical one. -/
def before (w : Wall) : Cell :=
  match w.orientation with
  | .horizontal => ⟨w.x, w.y - 1⟩
  | .vertical => ⟨w.x - 1, w.y⟩

/-- The cell below a horizontal wall or to the right of a vertical one. -/
def beyond (w : Wall) : Cell := ⟨w.x, w.y⟩

/-- **The wall stands between the two cells**, which may be given in either order. -/
def Separates (w : Wall) (a b : Cell) : Prop :=
  a = w.before ∧ b = w.beyond ∨ a = w.beyond ∧ b = w.before

instance (w : Wall) (a b : Cell) : Decidable (w.Separates a b) :=
  inferInstanceAs (Decidable (_ ∨ _))

lemma Separates.symm {w : Wall} {a b : Cell} (h : w.Separates a b) : w.Separates b a :=
  Or.elim h (fun h => Or.inr ⟨h.2, h.1⟩) fun h => Or.inl ⟨h.2, h.1⟩

lemma separates_leftOf (c : Cell) : (leftOf c).Separates ⟨c.x - 1, c.y⟩ c := Or.inl ⟨rfl, rfl⟩

lemma separates_above (c : Cell) : (above c).Separates ⟨c.x, c.y - 1⟩ c := Or.inl ⟨rfl, rfl⟩

lemma between?_of_delta {a b : Cell} {d : Direction} (h : d.delta = b - a) :
    between? a b = match d with
      | .east => some (leftOf b)
      | .west => some (leftOf a)
      | .south => some (above b)
      | .north => some (above a) := by
  rw [between?, Direction.ofDelta?_eq_some.2 h]
  cases d <;> rfl

/-- The displacement of two cells, coordinate by coordinate. -/
lemma delta_eq_sub {a b : Cell} {d : Direction} :
    d.delta = b - a ↔ b.x = a.x + d.delta.x ∧ b.y = a.y + d.delta.y := by
  rw [Cell.ext_iff, Cell.sub_x, Cell.sub_y]
  omega

/-- **The address of an edge is the wall between its cells.** -/
theorem between?_eq_some_iff {a b : Cell} {w : Wall} : between? a b = some w ↔ w.Separates a b := by
  constructor
  · intro h
    rcases hd : Direction.ofDelta? (b - a) with _ | d
    · rw [between?, hd] at h
      cases h
    · have hdelta := Direction.ofDelta?_eq_some.1 hd
      obtain ⟨hx, hy⟩ := delta_eq_sub.1 hdelta
      rw [between?_of_delta hdelta] at h
      cases d with
      | east =>
        cases h
        have ha : a = ⟨b.x - 1, b.y⟩ := by ext <;> simp [hx, hy, Direction.delta]
        exact ha ▸ separates_leftOf b
      | south =>
        cases h
        have ha : a = ⟨b.x, b.y - 1⟩ := by ext <;> simp [hx, hy, Direction.delta]
        exact ha ▸ separates_above b
      | west =>
        cases h
        have hb : b = ⟨a.x - 1, a.y⟩ := by ext <;> simp [hx, hy, Direction.delta]; omega
        exact hb ▸ (separates_leftOf a).symm
      | north =>
        cases h
        have hb : b = ⟨a.x, a.y - 1⟩ := by ext <;> simp [hx, hy, Direction.delta]; omega
        exact hb ▸ (separates_above a).symm
  · obtain ⟨x, y, o⟩ := w
    rintro (⟨rfl, rfl⟩ | ⟨rfl, rfl⟩)
    · cases o
      · exact between?_of_delta (d := .south)
          (delta_eq_sub.2 (by simp [before, beyond, Direction.delta]))
      · exact between?_of_delta (d := .east)
          (delta_eq_sub.2 (by simp [before, beyond, Direction.delta]))
    · cases o
      · exact between?_of_delta (d := .north)
          (delta_eq_sub.2 (by simp [before, beyond, Direction.delta]; omega))
      · exact between?_of_delta (d := .west)
          (delta_eq_sub.2 (by simp [before, beyond, Direction.delta]; omega))

end Wall

namespace Field

variable {f : Field} {a b : Cell}

/-- A wall of the field separates two cells exactly if the edge between them is walled. -/
theorem hasWallBetween_iff : f.hasWallBetween a b ↔ ∃ w ∈ f.walls, w.Separates a b := by
  rw [hasWallBetween, Option.any_eq_true]
  constructor
  · rintro ⟨w, hw, hf⟩
    exact ⟨w, hasWall_iff.1 hf, Wall.between?_eq_some_iff.1 hw⟩
  · rintro ⟨w, hw, hs⟩
    exact ⟨w, Wall.between?_eq_some_iff.2 hs, hasWall_iff.2 hw⟩

theorem isFree_iff :
    f.isFree b a ↔ f.inBounds b ∧ ∀ w ∈ f.walls, ¬ w.Separates a b := by
  rw [isFree, Bool.and_eq_true, Bool.not_eq_true', ← Bool.not_eq_true, hasWallBetween_iff]
  simp only [not_exists, not_and]

/-- **A field whose robot, walls and paint are in range.** -/
structure Valid (f : Field) : Prop where
  robot : f.inBounds f.robot.position
  walls {w : Wall} : w ∈ f.walls → w.fits f.size
  painted {c : Cell} : c ∈ f.painted → f.inBounds c

end Field

end RobotScript
