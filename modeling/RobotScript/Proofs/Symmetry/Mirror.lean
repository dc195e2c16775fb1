import Mathlib.Tactic.Common
import RobotScript.Proofs.Grid.Edge

/-!
The symmetries of a square field.

A symmetry says where cells, directions and walls go. The eight symmetries of a square are what two
mirrors generate: one along the diagonal and one along the upright middle line. `Symmetry.Lawful`
says what makes three maps a symmetry of the grid. Both mirrors are lawful, and so is one after the
other; under a lawful symmetry the questions that a field answers keep their answers.
-/

namespace RobotScript

/-- Where the cells, the directions and the walls of a square go. -/
structure Symmetry where
  cell : Cell → Cell
  direction : Direction → Direction
  wall : Wall → Wall

/-- The mirrors that generate the symmetries of a square. -/
inductive Mirror where
  /-- Swaps `x` and `y`. -/
  | diagonal
  /-- Turns `x` around and keeps `y`. -/
  | upright
deriving DecidableEq

namespace Mirror

/-- Where a cell of a square of the given size is seen. -/
def cell (size : Int) : Mirror → Cell → Cell
  | diagonal, c => ⟨c.y, c.x⟩
  | upright, c => ⟨size - 1 - c.x, c.y⟩

def direction : Mirror → Direction → Direction
  | diagonal, .east => .south
  | diagonal, .south => .east
  | diagonal, .west => .north
  | diagonal, .north => .west
  | upright, .east => .west
  | upright, .south => .south
  | upright, .west => .east
  | upright, .north => .north

/-- Where the wall on an edge is seen. The far side of a square has the coordinate `size`. -/
def wall (size : Int) : Mirror → Wall → Wall
  | diagonal, ⟨x, y, .horizontal⟩ => ⟨y, x, .vertical⟩
  | diagonal, ⟨x, y, .vertical⟩ => ⟨y, x, .horizontal⟩
  | upright, ⟨x, y, .horizontal⟩ => ⟨size - 1 - x, y, .horizontal⟩
  | upright, ⟨x, y, .vertical⟩ => ⟨size - x, y, .vertical⟩

end Mirror

namespace Symmetry

/-- A mirror of a square of the given size. -/
def ofMirror (size : Int) (m : Mirror) : Symmetry := ⟨m.cell size, m.direction, m.wall size⟩

def identity : Symmetry := ⟨id, id, id⟩

def after (g h : Symmetry) : Symmetry where
  cell := g.cell ∘ h.cell
  direction := g.direction ∘ h.direction
  wall := g.wall ∘ h.wall

/-- The symmetry of a square of the given size that the mirrors generate, the last one first. -/
def generated (size : Int) : List Mirror → Symmetry
  | [] => identity
  | m :: ms => (ofMirror size m).after (generated size ms)

/-! ### What the grid asks of a symmetry -/

/-- **The maps belong together as a symmetry of a square**: neighbours stay neighbours on the side
that the direction says, a wall stays between its cells, and the border stays the border. -/
structure Lawful (g : Symmetry) (size : Int) : Prop where
  step (c : Cell) (d : Direction) : g.cell (c + d.delta) = g.cell c + (g.direction d).delta
  injective : Function.Injective g.cell
  separates (w : Wall) (a b : Cell) : (g.wall w).Separates (g.cell a) (g.cell b) ↔ w.Separates a b
  covers (c : Cell) : Field.covers size (g.cell c) = Field.covers size c
  fits (w : Wall) : (g.wall w).fits size = w.fits size

lemma lawful_identity (size : Int) : identity.Lawful size :=
  ⟨fun _ _ => rfl, Function.injective_id, fun _ _ _ => Iff.rfl, fun _ => rfl, fun _ => rfl⟩

lemma Lawful.after {g h : Symmetry} {size : Int} (hg : g.Lawful size) (hh : h.Lawful size) :
    (g.after h).Lawful size where
  step c d := by
    show g.cell (h.cell (c + d.delta)) = _
    rw [hh.step, hg.step]
    rfl
  injective := hg.injective.comp hh.injective
  separates w a b := (hg.separates _ _ _).trans (hh.separates _ _ _)
  covers c := (hg.covers _).trans (hh.covers _)
  fits w := (hg.fits _).trans (hh.fits _)

lemma fits_iff {w : Wall} {size : Int} :
    w.fits size ↔ match w.orientation with
      | .vertical => 0 ≤ w.x ∧ w.x ≤ size ∧ 0 ≤ w.y ∧ w.y < size
      | .horizontal => 0 ≤ w.y ∧ w.y ≤ size ∧ 0 ≤ w.x ∧ w.x < size := by
  obtain ⟨x, y, o⟩ := w
  cases o <;> simp [Wall.fits, and_assoc]

/-- **Both mirrors are symmetries.** -/
lemma lawful_ofMirror (size : Int) (m : Mirror) : (ofMirror size m).Lawful size where
  step c d := by
    cases m <;> cases d <;> ext <;>
      simp [ofMirror, Mirror.cell, Mirror.direction, Direction.delta] <;> omega
  injective a b h := by
    cases m with
    | diagonal =>
      simp only [ofMirror, Mirror.cell, Cell.mk.injEq] at h
      exact Cell.ext h.2 h.1
    | upright =>
      simp only [ofMirror, Mirror.cell, Cell.mk.injEq] at h
      exact Cell.ext (by omega) h.2
  separates w a b := by
    -- the upright mirror swaps the two sides of an upright wall
    obtain ⟨x, y, o⟩ := w
    cases m <;> cases o <;>
    · simp only [ofMirror, Mirror.cell, Mirror.wall, Wall.Separates, Wall.before, Wall.beyond,
        Cell.ext_iff]
      omega
  covers c := by
    rw [Bool.eq_iff_iff, Field.covers_iff, Field.covers_iff]
    cases m <;>
    · simp only [ofMirror, Mirror.cell]
      omega
  fits w := by
    obtain ⟨x, y, o⟩ := w
    rw [Bool.eq_iff_iff, fits_iff, fits_iff]
    cases m <;> cases o <;> simp only [ofMirror, Mirror.wall] <;> omega

/-- **What the mirrors generate are symmetries.** -/
theorem lawful_generated (size : Int) (ms : List Mirror) : (generated size ms).Lawful size := by
  induction ms with
  | nil => exact lawful_identity size
  | cons m ms ih => exact (lawful_ofMirror size m).after ih

/-! ### The image of a field -/

section Image

variable {α : Type} [Ord α] [Std.TransOrd α]

/-- The images of the members of a set. -/
def image (move : α → α) (s : Std.ExtTreeSet α) : Std.ExtTreeSet α := .ofList (s.toList.map move)

lemma mem_image [DecidableEq α] [Std.LawfulEqOrd α] {move : α → α} {s : Std.ExtTreeSet α} {b : α} :
    b ∈ image move s ↔ ∃ a ∈ s, move a = b := by
  rw [image, Std.ExtTreeSet.mem_ofList, List.contains_iff_mem, List.mem_map]
  simp only [Std.ExtTreeSet.mem_toList]

lemma image_insert [DecidableEq α] [Std.LawfulEqOrd α] (move : α → α) (s : Std.ExtTreeSet α)
    (a : α) : image move (s.insert a) = (image move s).insert (move a) := by
  refine Std.ExtTreeSet.ext_mem fun b => ?_
  simp only [mem_image, Std.ExtTreeSet.mem_insert, Std.LawfulEqCmp.compare_eq_iff_eq]
  constructor
  · rintro ⟨c, rfl | hc, rfl⟩
    · exact Or.inl rfl
    · exact Or.inr ⟨c, hc, rfl⟩
  · rintro (rfl | ⟨c, hc, rfl⟩)
    · exact ⟨a, Or.inl rfl, rfl⟩
    · exact ⟨c, Or.inr hc, rfl⟩

end Image

def robot (g : Symmetry) (r : Robot) : Robot := ⟨g.cell r.position, g.direction r.direction⟩

/-- The field with its robot, its walls and its paint where the symmetry takes them. -/
def field (g : Symmetry) (f : Field) : Field :=
  ⟨f.size, g.robot f.robot, image g.wall f.walls, image g.cell f.painted⟩

section Field

variable {g : Symmetry} {f : Field}

lemma neighbour_robot (hg : g.Lawful f.size) (r : Robot) (d : Direction) :
    (g.robot r).neighbour (g.direction d) = g.cell (r.neighbour d) := (hg.step _ _).symm

lemma inBounds_field (hg : g.Lawful f.size) (c : Cell) :
    (g.field f).inBounds (g.cell c) = f.inBounds c := hg.covers c

lemma isPainted_field (hg : g.Lawful f.size) (c : Cell) :
    (g.field f).isPainted (g.cell c) = f.isPainted c := by
  rw [Bool.eq_iff_iff, Field.isPainted_iff, Field.isPainted_iff]
  refine mem_image.trans ⟨?_, fun hc => ⟨c, hc, rfl⟩⟩
  rintro ⟨a, ha, hac⟩
  exact hg.injective hac ▸ ha

/-- **A way is free exactly if its image is.** -/
theorem isFree_field (hg : g.Lawful f.size) (goal start : Cell) :
    (g.field f).isFree (g.cell goal) (g.cell start) = f.isFree goal start := by
  rw [Bool.eq_iff_iff, Field.isFree_iff, Field.isFree_iff, inBounds_field hg]
  refine and_congr_right fun _ => ⟨fun h w hw hs => ?_, fun h w' hw' hs => ?_⟩
  · exact h (g.wall w) (mem_image.2 ⟨w, hw, rfl⟩) ((hg.separates w start goal).2 hs)
  · obtain ⟨w, hw, rfl⟩ := mem_image.1 hw'
    exact h w hw ((hg.separates w start goal).1 hs)

lemma paint_field (hg : g.Lawful f.size) :
    (g.field f).paint = (f.paint.1, g.field f.paint.2) := by
  refine Prod.ext ?_ ?_
  · show (!(g.field f).isPainted (g.cell f.robot.position)) = !f.isPainted f.robot.position
    rw [isPainted_field hg]
  · show ({ g.field f with painted := _ } : Field) = _
    simp only [field, Field.paint, image_insert]
    rfl

/-- A symmetry keeps everything in range, and brings nothing into it. -/
theorem valid_field (hg : g.Lawful f.size) : (g.field f).Valid ↔ f.Valid := by
  constructor
  · intro h
    refine ⟨?_, fun hw => ?_, fun hc => ?_⟩
    · rw [← inBounds_field hg]
      exact h.robot
    · rw [← hg.fits]
      exact h.walls (mem_image.2 ⟨_, hw, rfl⟩)
    · rw [← inBounds_field hg]
      exact h.painted (mem_image.2 ⟨_, hc, rfl⟩)
  · intro h
    refine ⟨?_, fun hw => ?_, fun hc => ?_⟩
    · exact (inBounds_field hg _).trans h.robot
    · obtain ⟨w, hin, rfl⟩ := mem_image.1 hw
      exact (hg.fits w).trans (h.walls hin)
    · obtain ⟨c, hin, rfl⟩ := mem_image.1 hc
      exact (inBounds_field hg c).trans (h.painted hin)

end Field

end Symmetry

end RobotScript
