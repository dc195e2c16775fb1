import RobotScript.Field.Picture
import RobotScript.Proofs.Field.Snapshot
import RobotScript.Proofs.Text.Feeds

/-!
The picture shows the field.

The lines of the picture and the characters of a line are `ruled`: blocks of one length, one for
each coordinate, and one entry behind them. So every glyph is found by arithmetic (`sideGlyph_eq`,
`charAt_mark`). The picture looks walls up by their addresses and treats the border on its own,
while a way is free or not between two cells; `draws_eq` says that both agree on every side of every
cell. The main statement is `picture_truthful`.
-/

namespace RobotScript

namespace Field

/-! ### Blocks of one length -/

lemma length_coordinates (bound : Int) : (coordinates bound).length = bound.toNat := by
  simp [coordinates]

lemma getElem?_coordinates {bound : Int} {i : Nat} (h : i < bound.toNat) :
    (coordinates bound)[i]? = some (i : Int) := by
  simp [coordinates, h]

section Blocks

variable {α β : Type} {k : Nat}

lemma length_blocks {block : α → List β} (hk : ∀ a, (block a).length = k) (as : List α) :
    (as.flatMap block).length = k * as.length := by
  induction as with
  | nil => rfl
  | cons a as ih =>
    rw [List.flatMap_cons, List.length_append, hk, ih, List.length_cons, Nat.mul_succ, Nat.add_comm]

lemma getElem?_blocks {block : α → List β} (hk : ∀ a, (block a).length = k) (as : List α)
    (i : Nat) {j : Nat} (hj : j < k) :
    (as.flatMap block)[k * i + j]? = as[i]?.bind fun a => (block a)[j]? := by
  induction as generalizing i with
  | nil => rfl
  | cons a as ih =>
    rw [List.flatMap_cons]
    cases i with
    | zero =>
      rw [Nat.mul_zero, Nat.zero_add, List.getElem?_append_left (by rw [hk]; exact hj)]
      rfl
    | succ i =>
      have hshift : k * (i + 1) + j - k = k * i + j := by
        rw [Nat.mul_succ]
        omega
      rw [List.getElem?_append_right (by rw [hk, Nat.mul_succ]; omega), hk, hshift, ih]
      rfl

/-- One block for each coordinate, and one entry behind them. -/
def ruled (bound : Int) (block : Int → List β) (last : β) : List β :=
  (coordinates bound).flatMap block ++ [last]

variable {block : Int → List β} {bound : Int} {last : β}

lemma mem_ruled {b : β} :
    b ∈ ruled bound block last ↔ (∃ x ∈ coordinates bound, b ∈ block x) ∨ b = last := by
  simp [ruled, List.mem_flatMap]

lemma length_ruled (hk : ∀ x, (block x).length = k) :
    (ruled bound block last).length = k * bound.toNat + 1 := by
  rw [ruled, List.length_append, length_blocks hk, length_coordinates]
  rfl

lemma getElem?_ruled (hk : ∀ x, (block x).length = k) {i j : Nat} (hi : i < bound.toNat)
    (hj : j < k) : (ruled bound block last)[k * i + j]? = (block i)[j]? := by
  have hinside : k * i + j < ((coordinates bound).flatMap block).length := by
    rw [length_blocks hk, length_coordinates]
    calc k * i + j < k * i + k := by omega
      _ = k * (i + 1) := (Nat.mul_succ k i).symm
      _ ≤ k * bound.toNat := Nat.mul_le_mul_left k hi
  rw [ruled, List.getElem?_append_left hinside, getElem?_blocks hk _ _ hj, getElem?_coordinates hi]
  rfl

lemma getElem?_ruled_last (hk : ∀ x, (block x).length = k) :
    (ruled bound block last)[k * bound.toNat]? = some last := by
  have hlength : ((coordinates bound).flatMap block).length = k * bound.toNat := by
    rw [length_blocks hk, length_coordinates]
  rw [ruled, ← hlength, List.getElem?_concat_length]

/-- Where the entry behind the blocks is what one more block would start with, blocks and end can be
read alike. -/
lemma getElem?_ruled_head (hk : ∀ x, (block x).length = k) (hpos : 0 < k)
    (hlast : (block bound)[0]? = some last) (hbound : 0 ≤ bound) {i : Nat} (hi : i ≤ bound.toNat) :
    (ruled bound block last)[k * i]? = (block i)[0]? := by
  rcases Nat.lt_or_eq_of_le hi with hi | rfl
  · rw [← Nat.add_zero (k * i), getElem?_ruled hk hi hpos]
  · rw [getElem?_ruled_last hk, Int.toNat_of_nonneg hbound, hlast]

end Blocks

/-! ### Lines -/

section Lines

variable (f : Field) (y : Int)

/-- The characters above a cell, from the corner on. -/
def edgeBlock (x : Int) : List Char :=
  '+' :: List.replicate 3 (if f.drawsAbove ⟨x, y⟩ then '-' else ' ')

/-- The characters of a cell, from its left edge on. -/
def cellBlock (x : Int) : List Char := [f.sideMark ⟨x, y⟩, ' ', f.mark ⟨x, y⟩, ' ']

/-- The lines of a row of cells, from its upper edge on. -/
def rowBlock : List (List Char) := [f.edgeLine y, f.cellLine y]

lemma length_edgeBlock (x : Int) : (f.edgeBlock y x).length = 4 := rfl

lemma length_cellBlock (x : Int) : (f.cellBlock y x).length = 4 := rfl

lemma length_rowBlock : (f.rowBlock y).length = 2 := rfl

lemma edgeLine_eq : f.edgeLine y = ruled f.size (f.edgeBlock y) '+' := by
  unfold edgeLine ruled edgeBlock
  congr 2
  funext x
  split <;> rfl

lemma cellLine_eq : f.cellLine y = ruled f.size (f.cellBlock y) (f.sideMark ⟨f.size, y⟩) := rfl

lemma picture_eq : f.picture = ruled f.size f.rowBlock (f.edgeLine f.size) := rfl

lemma length_edgeLine : (f.edgeLine y).length = 4 * f.size.toNat + 1 := by
  rw [edgeLine_eq, length_ruled (f.length_edgeBlock y)]

lemma length_cellLine : (f.cellLine y).length = 4 * f.size.toNat + 1 := by
  rw [cellLine_eq, length_ruled (f.length_cellBlock y)]

lemma length_picture : f.picture.length = 2 * f.size.toNat + 1 := by
  rw [picture_eq, length_ruled f.length_rowBlock]

variable {f}

lemma length_of_mem_picture {line : List Char} (h : line ∈ f.picture) :
    line.length = 4 * f.size.toNat + 1 := by
  rw [picture_eq, mem_ruled] at h
  rcases h with ⟨y, -, h⟩ | rfl
  · rcases List.mem_pair.1 h with rfl | rfl
    · exact f.length_edgeLine y
    · exact f.length_cellLine y
  · exact f.length_edgeLine f.size

variable {x k : Nat}

lemma getElem?_edgeLine (hx : x < f.size.toNat) (hk : k < 3) :
    (f.edgeLine y)[4 * x + (k + 1)]? = some (if f.drawsAbove ⟨x, y⟩ then '-' else ' ') := by
  rw [edgeLine_eq, getElem?_ruled (f.length_edgeBlock y) hx (by omega), edgeBlock,
    List.getElem?_cons_succ, List.getElem?_replicate, if_pos hk]

lemma getElem?_cellLine_side (h : 0 ≤ f.size) (hx : x ≤ f.size.toNat) :
    (f.cellLine y)[4 * x]? = some (f.sideMark ⟨x, y⟩) := by
  rw [cellLine_eq, getElem?_ruled_head (f.length_cellBlock y) (by decide) rfl h hx]
  rfl

lemma getElem?_cellLine_mark (hx : x < f.size.toNat) :
    (f.cellLine y)[4 * x + 2]? = some (f.mark ⟨x, y⟩) := by
  rw [cellLine_eq, getElem?_ruled (f.length_cellBlock y) hx (by decide)]
  rfl

lemma getElem?_picture_edge (h : 0 ≤ f.size) {y : Nat} (hy : y ≤ f.size.toNat) :
    f.picture[2 * y]? = some (f.edgeLine y) := by
  rw [picture_eq, getElem?_ruled_head f.length_rowBlock (by decide) rfl h hy]
  rfl

lemma getElem?_picture_cells {y : Nat} (hy : y < f.size.toNat) :
    f.picture[2 * y + 1]? = some (f.cellLine y) := by
  rw [picture_eq, getElem?_ruled f.length_rowBlock hy (by decide)]
  rfl

end Lines

/-! ### The glyphs around and in a cell -/

variable {f g : Field} {c : Cell} {d : Direction}

/-- The character in a line and a column of the picture. -/
def charAt (f : Field) (line column : Nat) : Option Char := f.picture[line]?.bind (·[column]?)

/-- Where the edge of a cell on a side is drawn, by line and column. -/
def sidePlaces (c : Cell) : Direction → List (Nat × Nat)
  | .west => [(2 * c.y.toNat + 1, 4 * c.x.toNat)]
  | .east => [(2 * c.y.toNat + 1, 4 * c.x.toNat + 4)]
  | .north => [1, 2, 3].map fun k => (2 * c.y.toNat, 4 * c.x.toNat + k)
  | .south => [1, 2, 3].map fun k => (2 * c.y.toNat + 2, 4 * c.x.toNat + k)

/-- The glyph of an edge on a side, drawn or left open. -/
def edgeGlyph (drawn : Bool) : Direction → List Char
  | .east | .west => [if drawn then '|' else ' ']
  | .south | .north => List.replicate 3 (if drawn then '-' else ' ')

/-- What the picture shows on a side of a cell. -/
def sideGlyph (f : Field) (c : Cell) (d : Direction) : List (Option Char) :=
  (sidePlaces c d).map fun place => f.charAt place.1 place.2

/-- Whether the edge of a cell on a side is drawn. -/
def draws (f : Field) (c : Cell) : Direction → Bool
  | .west => f.drawsLeft c
  | .east => f.drawsLeft ⟨c.x + 1, c.y⟩
  | .north => f.drawsAbove c
  | .south => f.drawsAbove ⟨c.x, c.y + 1⟩

section Places

variable {x y k : Nat}

lemma charAt_side (h : 0 ≤ f.size) (hx : x ≤ f.size.toNat) (hy : y < f.size.toNat) :
    f.charAt (2 * y + 1) (4 * x) = some (f.sideMark ⟨x, y⟩) := by
  rw [charAt, getElem?_picture_cells hy, Option.bind_some, getElem?_cellLine_side y h hx]

lemma charAt_edge (h : 0 ≤ f.size) (hx : x < f.size.toNat) (hy : y ≤ f.size.toNat) (hk : k < 3) :
    f.charAt (2 * y) (4 * x + (k + 1)) = some (if f.drawsAbove ⟨x, y⟩ then '-' else ' ') := by
  rw [charAt, getElem?_picture_edge h hy, Option.bind_some, getElem?_edgeLine y hx hk]

lemma exists_nat_of_inBounds (h : f.inBounds c) :
    ∃ x y : Nat, c = ⟨x, y⟩ ∧ x < f.size.toNat ∧ y < f.size.toNat := by
  obtain ⟨hx, hx', hy, hy'⟩ := covers_iff.1 h
  refine ⟨c.x.toNat, c.y.toNat, Cell.ext ?_ ?_, by omega, by omega⟩
  · exact (Int.toNat_of_nonneg hx).symm
  · exact (Int.toNat_of_nonneg hy).symm

lemma charAt_mark (h : f.inBounds c) :
    f.charAt (2 * c.y.toNat + 1) (4 * c.x.toNat + 2) = some (f.mark c) := by
  obtain ⟨x, y, rfl, hx, hy⟩ := exists_nat_of_inBounds h
  rw [charAt, Int.toNat_natCast, Int.toNat_natCast, getElem?_picture_cells hy, Option.bind_some,
    getElem?_cellLine_mark y hx]

lemma sideGlyph_eq (h : f.inBounds c) :
    f.sideGlyph c d = (edgeGlyph (f.draws c d) d).map some := by
  obtain ⟨x, y, rfl, hx, hy⟩ := exists_nat_of_inBounds h
  have hsize : 0 ≤ f.size := by omega
  cases d with
  | west =>
    have hleft := charAt_side hsize (Nat.le_of_lt hx) hy
    simp only [sideGlyph, sidePlaces, Int.toNat_natCast, List.map_cons, List.map_nil, hleft,
      sideMark, draws]
    rfl
  | east =>
    have hright := charAt_side hsize (Nat.succ_le_of_lt hx) hy
    rw [Nat.mul_succ, Int.natCast_succ] at hright
    simp only [sideGlyph, sidePlaces, Int.toNat_natCast, List.map_cons, List.map_nil, hright,
      sideMark, draws]
    rfl
  | north =>
    have habove := fun k hk => charAt_edge hsize hx (Nat.le_of_lt hy) (k := k) hk
    simp only [sideGlyph, sidePlaces, Int.toNat_natCast, List.map_cons, List.map_nil,
      habove 0 (by decide), habove 1 (by decide), habove 2 (by decide), draws]
    rfl
  | south =>
    have hbelow := fun k hk => charAt_edge hsize hx (Nat.succ_le_of_lt hy) (k := k) hk
    simp only [Nat.mul_succ, Int.natCast_succ] at hbelow
    simp only [sideGlyph, sidePlaces, Int.toNat_natCast, List.map_cons, List.map_nil,
      hbelow 0 (by decide), hbelow 1 (by decide), hbelow 2 (by decide), draws]
    rfl

end Places

/-! ### Walls and free ways -/

/-- The wall on a side of a cell. -/
def sideWall (c : Cell) : Direction → Wall
  | .west => .leftOf c
  | .east => .leftOf ⟨c.x + 1, c.y⟩
  | .north => .above c
  | .south => .above ⟨c.x, c.y + 1⟩

lemma hasWallBetween_eq (f : Field) (c : Cell) (d : Direction) :
    f.hasWallBetween c (c + d.delta) = f.hasWall (sideWall c d) := by
  have hdelta : d.delta = c + d.delta - c := by simp
  rw [hasWallBetween, Wall.between?_of_delta hdelta]
  cases d <;> simp [sideWall, Direction.delta, Wall.leftOf, Wall.above]

/-- Every wall stands on a side of the cell beyond it. -/
lemma exists_side (w : Wall) :
    ∃ d : Direction, sideWall w.beyond d = w ∧ w.beyond + d.delta = w.before := by
  obtain ⟨x, y, o⟩ := w
  cases o with
  | horizontal =>
    refine ⟨.north, rfl, Cell.ext ?_ rfl⟩
    simp [Wall.beyond, Wall.before, Direction.delta]
  | vertical =>
    refine ⟨.west, rfl, Cell.ext rfl ?_⟩
    simp [Wall.beyond, Wall.before, Direction.delta]

/-- **The edge on a side is drawn exactly if the way across it is not free.** -/
theorem draws_eq (h : f.inBounds c) (d : Direction) : f.draws c d = !f.isFree (c + d.delta) c := by
  obtain ⟨hx, hx', hy, hy'⟩ := covers_iff.1 h
  rw [isFree, hasWallBetween_eq, Bool.not_and, Bool.not_not]
  cases d
  all_goals
    simp only [draws, drawsLeft, drawsAbove, sideWall]
    congr 1
    rw [Bool.eq_iff_iff, Bool.not_eq_true', ← Bool.not_eq_true, inBounds, covers_iff]
    simp only [Bool.or_eq_true, beq_iff_eq, Direction.delta, Cell.add_x, Cell.add_y]
    omega

/-! ### The text -/

/-- The characters of pictures. -/
def glyphs : List Char := ['+', '-', '|', ' ', '>', 'v', '<', '^', '#', '.']

lemma mark_mem_glyphs (f : Field) (c : Cell) : f.mark c ∈ glyphs := by
  unfold mark
  split
  · cases f.robot.direction <;> decide
  · split <;> decide

lemma sideMark_mem_glyphs (f : Field) (c : Cell) : f.sideMark c ∈ glyphs := by
  unfold sideMark
  split <;> decide

lemma edgeLine_subset_glyphs (f : Field) (y : Int) : f.edgeLine y ⊆ glyphs := by
  intro a ha
  rw [edgeLine_eq, mem_ruled] at ha
  rcases ha with ⟨x, -, ha⟩ | rfl
  · rcases List.mem_cons.1 ha with rfl | ha
    · decide
    · rw [List.eq_of_mem_replicate ha]
      split <;> decide
  · decide

lemma cellLine_subset_glyphs (f : Field) (y : Int) : f.cellLine y ⊆ glyphs := by
  intro a ha
  rw [cellLine_eq, mem_ruled] at ha
  rcases ha with ⟨x, -, ha⟩ | rfl
  · simp only [cellBlock, List.mem_cons, List.not_mem_nil, or_false] at ha
    rcases ha with rfl | rfl | rfl | rfl
    · exact f.sideMark_mem_glyphs _
    · decide
    · exact f.mark_mem_glyphs _
    · decide
  · exact f.sideMark_mem_glyphs _

lemma subset_glyphs_of_mem_picture {line : List Char} (h : line ∈ f.picture) : line ⊆ glyphs := by
  rw [picture_eq, mem_ruled] at h
  rcases h with ⟨y, -, h⟩ | rfl
  · rcases List.mem_pair.1 h with rfl | rfl
    · exact f.edgeLine_subset_glyphs y
    · exact f.cellLine_subset_glyphs y
  · exact f.edgeLine_subset_glyphs f.size

lemma lines_flatMap_feed {ls : List (List Char)} (h : ∀ line ∈ ls, line ⊆ glyphs) :
    Text.lines (ls.flatMap (· ++ ['\n'])) = ls := by
  induction ls with
  | nil => rfl
  | cons line ls ih =>
    obtain ⟨hline, h⟩ := List.forall_mem_cons.1 h
    have hfeed : '\n' ∉ line := fun hmem => absurd (hline hmem) (by decide)
    have hreturn : Text.chomp line = line :=
      if_neg fun hlast => absurd (hline (List.mem_of_getLast? hlast)) (by decide)
    rw [List.flatMap_cons, List.append_assoc, List.singleton_append,
      Text.lines_feedless_append hfeed, hreturn, ih h]

/-- **The lines of the text are the lines of the picture.** -/
theorem lines_pictureText (f : Field) : Text.lines f.pictureText.toList = f.picture := by
  rw [pictureText, String.toList_ofList]
  exact lines_flatMap_feed fun line hline => subset_glyphs_of_mem_picture hline

/-! ### Fields with one picture -/

lemma edgeGlyph_inj {a b : Bool} (h : edgeGlyph a d = edgeGlyph b d) : a = b := by
  cases d <;> cases a <;> cases b <;> first | rfl | (revert h; decide)

lemma mark_eq_arrow_iff : f.mark c = d.arrow ↔ c = f.robot.position ∧ f.robot.direction = d := by
  unfold mark
  split
  · next hc =>
    rw [and_iff_right hc]
    cases f.robot.direction <;> cases d <;> decide
  · next hc =>
    refine iff_of_false ?_ fun h => hc h.1
    split <;> cases d <;> decide

lemma mark_eq_hash_iff (hc : c ≠ f.robot.position) : f.mark c = '#' ↔ c ∈ f.painted := by
  rw [mark, if_neg hc, ← isPainted_iff]
  split <;> simp_all

section Same

variable (hf : f.Valid) (hg : g.Valid) (h : f.picture = g.picture)
include hf hg h

lemma size_eq_of_picture : f.size = g.size := by
  have hlength : 2 * f.size.toNat + 1 = 2 * g.size.toNat + 1 := by
    rw [← length_picture, ← length_picture, h]
  have hpos := hf.fenced.positive
  have hpos' := hg.fenced.positive
  omega

lemma inBounds_iff_of_picture : f.inBounds c ↔ g.inBounds c := by
  rw [inBounds, inBounds, size_eq_of_picture hf hg h]

lemma mark_eq_of_picture (hc : f.inBounds c) : f.mark c = g.mark c := by
  have hchar := charAt_mark hc
  rw [charAt, h, ← charAt, charAt_mark ((inBounds_iff_of_picture hf hg h).1 hc)] at hchar
  exact (Option.some.inj hchar).symm

lemma robot_eq_of_picture : f.robot = g.robot := by
  have hmark : f.mark f.robot.position = f.robot.direction.arrow := mark_eq_arrow_iff.2 ⟨rfl, rfl⟩
  rw [mark_eq_of_picture hf hg h hf.robot] at hmark
  obtain ⟨hposition, hdirection⟩ := mark_eq_arrow_iff.1 hmark
  exact Robot.ext hposition hdirection.symm

lemma painted_iff_of_picture (hc : c ≠ f.robot.position) : c ∈ f.painted ↔ c ∈ g.painted := by
  by_cases hin : f.inBounds c
  · rw [← mark_eq_hash_iff hc, mark_eq_of_picture hf hg h hin]
    exact mark_eq_hash_iff (robot_eq_of_picture hf hg h ▸ hc)
  · exact iff_of_false (fun hmem => hin (hf.painted hmem))
      fun hmem => hin ((inBounds_iff_of_picture hf hg h).2 (hg.painted hmem))

lemma isFree_eq_of_picture (hc : f.inBounds c) (d : Direction) :
    f.isFree (c + d.delta) c = g.isFree (c + d.delta) c := by
  have hc' := (inBounds_iff_of_picture hf hg h).1 hc
  have hglyph : f.sideGlyph c d = g.sideGlyph c d := by
    simp only [sideGlyph, charAt, h]
  rw [sideGlyph_eq hc, sideGlyph_eq hc'] at hglyph
  have hdraws := edgeGlyph_inj ((List.map_inj_right fun _ _ => Option.some.inj).1 hglyph)
  rw [draws_eq hc, draws_eq hc'] at hdraws
  exact Bool.not_inj hdraws

lemma mem_walls_iff_of_picture {w : Wall} (hbefore : f.inBounds w.before)
    (hbeyond : f.inBounds w.beyond) : w ∈ f.walls ↔ w ∈ g.walls := by
  obtain ⟨d, hside, hnext⟩ := exists_side w
  have hfree := isFree_eq_of_picture hf hg h hbeyond d
  rw [isFree, isFree, hasWallBetween_eq, hasWallBetween_eq, hside, hnext, hbefore,
    (inBounds_iff_of_picture hf hg h).1 hbefore, Bool.true_and, Bool.true_and] at hfree
  rw [← hasWall_iff, ← hasWall_iff, Bool.not_inj hfree]

end Same

/-- **The picture is truthful.** On a valid field of size `n` its text has `2 n + 1` lines of
`4 n + 1` characters. The edge on each side of each cell is drawn if the way across it is not free,
and is left open if it is; each cell shows the robot, else paint, else nothing. So two valid fields
with one picture have the same size and robot, the same walls between cells on the field, and the
same painted cells but for the one under the robot. -/
theorem picture_truthful (hf : f.Valid) :
    Text.lines f.pictureText.toList = f.picture ∧
    f.picture.length = 2 * f.size.toNat + 1 ∧
    (∀ line ∈ f.picture, line.length = 4 * f.size.toNat + 1) ∧
    (∀ c, f.inBounds c →
      (∀ d : Direction,
        f.sideGlyph c d = (edgeGlyph (!f.isFree (c + d.delta) c) d).map some) ∧
      f.charAt (2 * c.y.toNat + 1) (4 * c.x.toNat + 2) =
        some (if c = f.robot.position then f.robot.direction.arrow
          else if f.isPainted c then '#' else '.')) ∧
    ∀ g : Field, g.Valid → f.pictureText = g.pictureText →
      f.size = g.size ∧ f.robot = g.robot ∧
      (∀ w : Wall, f.inBounds w.before → f.inBounds w.beyond → (w ∈ f.walls ↔ w ∈ g.walls)) ∧
      ∀ c, c ≠ f.robot.position → (c ∈ f.painted ↔ c ∈ g.painted) := by
  refine ⟨lines_pictureText f, length_picture f, fun line => length_of_mem_picture,
    fun c hc => ⟨fun d => ?_, charAt_mark hc⟩, fun g hg htext => ?_⟩
  · rw [sideGlyph_eq hc, draws_eq hc]
  · have h : f.picture = g.picture := by rw [← lines_pictureText, htext, lines_pictureText]
    exact ⟨size_eq_of_picture hf hg h, robot_eq_of_picture hf hg h,
      fun w => mem_walls_iff_of_picture hf hg h, fun c => painted_iff_of_picture hf hg h⟩

/-- A field of two rows with one wall, one painted cell in sight and one under the robot. -/
theorem picture_truthful_of_wall :
    let s : Snapshot := ⟨2, ⟨⟨0, 0⟩, .south⟩, [⟨1, 0, .vertical⟩], [⟨0, 0⟩, ⟨1, 1⟩]⟩
    s.field.Valid ∧
    s.field.pictureText = "+---+---+\n| v | . |\n+   +   +\n| .   # |\n+---+---+\n" ∧
    s.field.sideGlyph ⟨0, 0⟩ .east = [some '|'] ∧ s.field.charAt 3 6 = some '#' := by
  intro s
  have hmade : ofSnapshot s = .ok s.field := by decide +kernel
  have hvalid : s.field.Valid := (Made.ofSnapshot hmade).valid
  obtain ⟨-, -, -, hcells, -⟩ := picture_truthful hvalid
  obtain ⟨hsides, -⟩ := hcells ⟨0, 0⟩ rfl
  obtain ⟨-, hmark⟩ := hcells ⟨1, 1⟩ rfl
  have hblocked : s.field.isFree ⟨1, 0⟩ ⟨0, 0⟩ = false := by decide +kernel
  have hpainted : s.field.isPainted ⟨1, 1⟩ = true := by decide +kernel
  refine ⟨hvalid, by decide +kernel, ?_, ?_⟩
  · rw [hsides .east, show (⟨0, 0⟩ : Cell) + Direction.east.delta = ⟨1, 0⟩ from rfl, hblocked]
    rfl
  · rw [hpainted] at hmark
    exact hmark

end Field

end RobotScript
