import Mathlib.Data.Sym.Sym2
import RobotScript.Proofs.Field.Snapshot
import RobotScript.Proofs.Run.FixedWidth

/-!
Every edge of a field has one wall, and every wall one edge.

An edge is the unordered pair of the cells on its sides. `Wall.between?_eq_some_iff_edge` says that
the wall between two cells is the one with their edge, so the address does not depend on their order
and two edges never share a wall (`Wall.edge_injective`). A wall fits a field exactly if one side of
its edge is on the field (`Wall.fits_iff`). What a wall does to a field is then said in terms of its
edge: it is the only one that comes or goes with the wall (`Field.hasWallBetween_addWall`,
`Field.hasWallBetween_removeWall`). The main statement is `walls_address_edges`; it also says that
no coordinate next to a field needs more than 32 bits.
-/

namespace RobotScript

/-- **Two cells are neighbours**: they differ by one in one coordinate and not in the other. -/
def Cell.Adjacent (a b : Cell) : Prop := (b.x - a.x).natAbs + (b.y - a.y).natAbs = 1

instance (a b : Cell) : Decidable (a.Adjacent b) := inferInstanceAs (Decidable (_ = _))

/-! ### The edge of a wall -/

namespace Wall

variable {w v : Wall} {a b c d : Cell} {size : Int}

/-- The edge that a wall stands on, as the two cells it separates. -/
def edge (w : Wall) : Sym2 Cell := s(w.before, w.beyond)

lemma separates_iff_edge : w.Separates a b ↔ s(a, b) = w.edge := Sym2.eq_iff.symm

/-- **The wall between two cells is the wall on their edge.** -/
theorem between?_eq_some_iff_edge : between? a b = some w ↔ s(a, b) = w.edge :=
  between?_eq_some_iff.trans separates_iff_edge

/-- **No two walls stand on one edge.** -/
theorem edge_injective : Function.Injective edge := by
  intro w v h
  have hw : between? w.before w.beyond = some w := between?_eq_some_iff_edge.2 rfl
  have hv : between? w.before w.beyond = some v := between?_eq_some_iff_edge.2 h
  exact Option.some.inj (hw.symm.trans hv)

lemma between?_comm (a b : Cell) : between? a b = between? b a := by
  ext w
  rw [between?_eq_some_iff_edge, between?_eq_some_iff_edge, Sym2.eq_swap]

/-- Cells with a wall between them are neighbours. -/
lemma adjacent_of_edge (h : s(a, b) = w.edge) : a.Adjacent b := by
  obtain ⟨x, y, o⟩ := w
  unfold Cell.Adjacent
  rcases Sym2.eq_iff.1 h with ⟨rfl, rfl⟩ | ⟨rfl, rfl⟩ <;> cases o <;>
    simp only [before, beyond] <;> omega

/-- Neighbours are one step apart. -/
lemma exists_delta_of_adjacent (h : a.Adjacent b) : ∃ d : Direction, d.delta = b - a := by
  unfold Cell.Adjacent at h
  have hcases : b.x - a.x = 1 ∧ b.y - a.y = 0 ∨ b.x - a.x = 0 ∧ b.y - a.y = 1 ∨
      b.x - a.x = -1 ∧ b.y - a.y = 0 ∨ b.x - a.x = 0 ∧ b.y - a.y = -1 := by omega
  rcases hcases with ⟨hx, hy⟩ | ⟨hx, hy⟩ | ⟨hx, hy⟩ | ⟨hx, hy⟩
  · exact ⟨.east, Cell.ext hx.symm hy.symm⟩
  · exact ⟨.south, Cell.ext hx.symm hy.symm⟩
  · exact ⟨.west, Cell.ext hx.symm hy.symm⟩
  · exact ⟨.north, Cell.ext hx.symm hy.symm⟩

/-- **There is a place for a wall between two cells exactly if they are neighbours.** -/
theorem isSome_between?_iff : (between? a b).isSome ↔ a.Adjacent b := by
  rw [Option.isSome_iff_exists]
  constructor
  · rintro ⟨w, hw⟩
    exact adjacent_of_edge (between?_eq_some_iff_edge.1 hw)
  · intro h
    obtain ⟨d, hd⟩ := exists_delta_of_adjacent h
    rw [between?_of_delta hd]
    cases d <;> exact ⟨_, rfl⟩

/-- **Two pairs of neighbours have the same wall exactly if they are the two sides of one edge.** -/
theorem between?_eq_between?_iff (h : a.Adjacent b) :
    between? a b = between? c d ↔ s(a, b) = s(c, d) := by
  obtain ⟨w, hw⟩ := Option.isSome_iff_exists.1 (isSome_between?_iff.2 h)
  have hedge := between?_eq_some_iff_edge.1 hw
  rw [hw, hedge, eq_comm, between?_eq_some_iff_edge, eq_comm]

/-- **A wall fits a field exactly if one side of it is on the field.** On the border that is one
side only. -/
theorem fits_iff : w.fits size ↔ Field.covers size w.before ∨ Field.covers size w.beyond := by
  obtain ⟨x, y, o⟩ := w
  rw [Field.covers_iff, Field.covers_iff]
  cases o <;>
    simp only [fits, before, beyond, Bool.and_eq_true, decide_eq_true_eq] <;> omega

/-- One side of the edge is on the field, whichever of its cells is called first. -/
lemma fits_iff_of_edge (h : s(a, b) = w.edge) :
    w.fits size ↔ Field.covers size a ∨ Field.covers size b := by
  rw [fits_iff]
  rcases Sym2.eq_iff.1 h with ⟨rfl, rfl⟩ | ⟨rfl, rfl⟩
  · exact Iff.rfl
  · exact or_comm

end Wall

/-! ### Walls of a field -/

namespace Field

variable {f : Field} {w : Wall} {a b c d : Cell}

/-- Two cells are separated exactly if a wall of the field stands on their edge. -/
lemma hasWallBetween_iff_edge : f.hasWallBetween a b ↔ ∃ w ∈ f.walls, s(a, b) = w.edge := by
  rw [hasWallBetween_iff]
  exact exists_congr fun w => and_congr_right fun _ => Wall.separates_iff_edge

/-- **With a wall goes the edge it stands on and no other.** -/
theorem hasWallBetween_removeWall :
    (f.removeWall w).2.hasWallBetween c d ↔ f.hasWallBetween c d ∧ s(c, d) ≠ w.edge := by
  have hmem : ∀ v, v ∈ (f.removeWall w).2.walls ↔ v ∈ f.walls ∧ v ≠ w := by
    intro v
    rw [removeWall, Std.ExtTreeSet.mem_erase, Ne, Std.LawfulEqCmp.compare_eq_iff_eq, and_comm,
      Ne, eq_comm]
  rw [hasWallBetween_iff_edge, hasWallBetween_iff_edge]
  constructor
  · rintro ⟨v, hv, hedge⟩
    obtain ⟨hin, hne⟩ := (hmem v).1 hv
    exact ⟨⟨v, hin, hedge⟩, fun hw => hne (Wall.edge_injective (hedge.symm.trans hw))⟩
  · rintro ⟨⟨v, hin, hedge⟩, hne⟩
    exact ⟨v, (hmem v).2 ⟨hin, fun hvw => hne (hvw ▸ hedge)⟩, hedge⟩

/-- **With a wall comes the edge it stands on and no other.** -/
theorem hasWallBetween_addWall :
    { f with walls := f.walls.insert w }.hasWallBetween c d ↔
      f.hasWallBetween c d ∨ s(c, d) = w.edge := by
  rw [hasWallBetween_iff_edge, hasWallBetween_iff_edge]
  constructor
  · rintro ⟨v, hv, hedge⟩
    rw [Std.ExtTreeSet.mem_insert, Std.LawfulEqCmp.compare_eq_iff_eq] at hv
    rcases hv with rfl | hv
    · exact Or.inr hedge
    · exact Or.inl ⟨v, hv, hedge⟩
  · rintro (⟨v, hv, hedge⟩ | hedge)
    · exact ⟨v, Std.ExtTreeSet.mem_insert.2 (Or.inr hv), hedge⟩
    · exact ⟨w, Std.ExtTreeSet.mem_insert_self, hedge⟩

/-- A wall keeps the robot from crossing its edge, in both directions. -/
lemma isFree_of_edge (hw : w ∈ f.walls) (h : s(a, b) = w.edge) : f.isFree b a = false := by
  have hwall : f.hasWallBetween a b := hasWallBetween_iff_edge.2 ⟨w, hw, h⟩
  rw [isFree, hwall, Bool.not_true, Bool.and_false]

end Field

/-! ### Numbers of 32 bits -/

section Width

variable {a b : Cell}

/-- In every arithmetic that is exact with 32 bits, walls have the addresses they have. -/
lemma Arithmetic.Fits.between?_eq {M : Type → Type} [Monad M] [LawfulMonad M] {ar : Arithmetic M}
    (h : ar.Fits) (ha : a.Is32) (hb : b.Is32) (hd : (b - a).Is32) :
    ar.between? a b = pure (Wall.between? a b) := by
  unfold Arithmetic.between? Arithmetic.subCells Wall.between?
  rw [h.sub hb.1 ha.1 hd.1, pure_bind, h.sub hb.2 ha.2 hd.2, pure_bind, pure_bind]
  have hsub : (⟨b.x - a.x, b.y - a.y⟩ : Cell) = b - a := rfl
  rw [hsub]
  rcases Direction.ofDelta? (b - a) with _ | d
  · rfl
  · cases d <;> rfl

/-- The cells on both sides of an edge of a field have 32 bits if its size has. -/
lemma is32_of_adjacent {size : Int} (hsize : size ≤ 2147483647) (h : a.Adjacent b)
    (hin : Field.covers size a ∨ Field.covers size b) :
    a.Is32 ∧ b.Is32 ∧ (b - a).Is32 ∧ (a - b).Is32 := by
  rw [Field.covers_iff, Field.covers_iff] at hin
  unfold Cell.Adjacent at h
  simp only [Cell.Is32, IsInt32, Cell.sub_x, Cell.sub_y]
  omega

end Width

/-- **Walls are addressed by the edges of a field, one by one.** The wall between two cells does not
depend on their order, there is one exactly if they are neighbours, and two pairs of neighbours have
the same one exactly if they are the same pair. The walls that fit a field are those between
neighbours of which one is on the field. So each wall of a field that can be reached is in the way
on one edge next to the field, in both directions, and on no other edge: without it the field is as
before but for that edge. A wall can be added on every edge next to the field, and nothing else is
then in the way that was not. With numbers of 32 bits addresses are the same wherever the
displacement of the cells has 32 bits, which is so on all edges next to a field. -/
theorem walls_address_edges :
    (∀ a b : Cell, Wall.between? a b = Wall.between? b a ∧
      ((Wall.between? a b).isSome ↔ a.Adjacent b)) ∧
    (∀ a b c d : Cell, a.Adjacent b → c.Adjacent d →
      (Wall.between? a b = Wall.between? c d ↔ s(a, b) = s(c, d))) ∧
    (∀ (size : Int) (w : Wall), w.fits size ↔ ∃ a b : Cell, a.Adjacent b ∧
      (Field.covers size a ∨ Field.covers size b) ∧ Wall.between? a b = some w) ∧
    (∀ f : Field, f.Reachable → ∀ w ∈ f.walls, ∃ a b : Cell, a.Adjacent b ∧
      (f.inBounds a ∨ f.inBounds b) ∧ Wall.between? a b = some w ∧
      f.isFree b a = false ∧ f.isFree a b = false ∧
      ∀ c d, (f.removeWall w).2.hasWallBetween c d ↔ f.hasWallBetween c d ∧ s(c, d) ≠ s(a, b)) ∧
    (∀ (f : Field) (a b : Cell), a.Adjacent b → f.inBounds a ∨ f.inBounds b →
      ∃ w added g, Wall.between? a b = some w ∧ f.addWall w = .ok (added, g) ∧
        g.isFree b a = false ∧ g.isFree a b = false ∧
        ∀ c d, g.hasWallBetween c d ↔ f.hasWallBetween c d ∨ s(c, d) = s(a, b)) ∧
    (∀ a b : Cell, a.Is32 → b.Is32 → (b - a).Is32 →
      Arithmetic.checked.between? a b = some (Wall.between? a b) ∧
      Arithmetic.wrapping.between? a b = Wall.between? a b) ∧
    ∀ (size : Int) (a b : Cell), size ≤ 2147483647 → a.Adjacent b →
      Field.covers size a ∨ Field.covers size b →
        a.Is32 ∧ b.Is32 ∧ (b - a).Is32 ∧ (a - b).Is32 := by
  refine ⟨fun a b => ⟨Wall.between?_comm a b, Wall.isSome_between?_iff⟩,
    fun a b c d hab _ => Wall.between?_eq_between?_iff hab, fun size w => ⟨fun hw => ?_, ?_⟩,
    fun f hf w hw => ?_, fun f a b hab hin => ?_, fun a b ha hb hd => ?_,
    fun size a b hsize hab hin => is32_of_adjacent hsize hab hin⟩
  · exact ⟨w.before, w.beyond, Wall.adjacent_of_edge rfl, Wall.fits_iff.1 hw,
      Wall.between?_eq_some_iff_edge.2 rfl⟩
  · rintro ⟨a, b, -, hin, hbetween⟩
    exact (Wall.fits_iff_of_edge (Wall.between?_eq_some_iff_edge.1 hbetween)).2 hin
  · have hfits : w.fits f.size := hf.fenced.walls hw
    exact ⟨w.before, w.beyond, Wall.adjacent_of_edge rfl, Wall.fits_iff.1 hfits,
      Wall.between?_eq_some_iff_edge.2 rfl, Field.isFree_of_edge hw rfl,
      Field.isFree_of_edge hw Sym2.eq_swap, fun c d => Field.hasWallBetween_removeWall⟩
  · obtain ⟨w, hw⟩ := Option.isSome_iff_exists.1 (Wall.isSome_between?_iff.2 hab)
    have hedge := Wall.between?_eq_some_iff_edge.1 hw
    have hadded : w ∈ f.walls.insert w := Std.ExtTreeSet.mem_insert_self
    refine ⟨w, _, _, hw, Field.addWall_eq_ok ((Wall.fits_iff_of_edge hedge).2 hin),
      Field.isFree_of_edge hadded hedge, Field.isFree_of_edge hadded (Sym2.eq_swap.trans hedge),
      fun c d => ?_⟩
    rw [hedge]
    exact Field.hasWallBetween_addWall
  · exact ⟨Arithmetic.fits_checked.between?_eq ha hb hd,
      Arithmetic.fits_wrapping.between?_eq ha hb hd⟩

/-- On the largest field a wall on its eastern border, the address of which is as large as the size,
and the same pair of cells seen from beyond the border. -/
theorem walls_address_edges_of_border :
    let f : Field := .blank 2147483647
    let inside : Cell := ⟨2147483646, 5⟩
    let outside : Cell := ⟨2147483647, 5⟩
    let w : Wall := ⟨2147483647, 5, .vertical⟩
    let walled : Field := (f.addWall w).toOption.elim f Prod.snd
    inside.Adjacent outside ∧ outside.Adjacent inside ∧ f.inBounds inside ∧
      ¬f.inBounds outside ∧ Wall.between? inside outside = some w ∧
      Wall.between? outside inside = some w ∧ s(inside, outside) = s(outside, inside) ∧
      w.fits f.size ∧
      (∃ v added g, Wall.between? outside inside = some v ∧ f.addWall v = .ok (added, g) ∧
        g.isFree inside outside = false ∧ g.isFree outside inside = false) ∧
      (walled.Reachable ∧ w ∈ walled.walls ∧ ∃ a b : Cell, Wall.between? a b = some w ∧
        walled.isFree b a = false ∧ walled.isFree a b = false) ∧
      Arithmetic.checked.between? inside outside = some (some w) := by
  intro f inside outside w walled
  obtain ⟨hcells, hsame, hfits, hblocks, hadd, hwidth, hnear⟩ := walls_address_edges
  have hadjacent : inside.Adjacent outside := by decide
  have hback : outside.Adjacent inside := by decide
  have hin : f.inBounds inside := by decide
  have hwall : Wall.between? inside outside = some w := by decide
  have hmade : Field.ofSize 2147483647 = .ok f := rfl
  have hreachable : walled.Reachable := ⟨f, .ofSize hmade, .call (.refl f) (.addWall w)⟩
  have hmem : w ∈ walled.walls := Std.ExtTreeSet.contains_iff_mem.1 (by decide +kernel)
  obtain ⟨v, added, g, hv, hok, hout, hinto, -⟩ := hadd f outside inside hback (Or.inr hin)
  obtain ⟨a, b, -, -, hbetween, hthere, hhere, -⟩ := hblocks walled hreachable w hmem
  obtain ⟨hinside, houtside, hd, -⟩ :=
    hnear f.size inside outside (Int.le_refl _) hadjacent (Or.inl hin)
  refine ⟨hadjacent, hback, hin, by decide, hwall, (hcells outside inside).1.trans hwall,
    (hsame inside outside outside inside hadjacent hback).1 (hcells inside outside).1,
    (hfits f.size w).2 ⟨inside, outside, hadjacent, Or.inl hin, hwall⟩,
    ⟨v, added, g, hv, hok, hout, hinto⟩, ⟨hreachable, hmem, a, b, hbetween, hthere, hhere⟩, ?_⟩
  rw [(hwidth inside outside hinside houtside hd).1, hwall]

end RobotScript
