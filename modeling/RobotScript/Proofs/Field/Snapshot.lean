import RobotScript.Proofs.Field.Validity

/-!
Snapshots are canonical, and a field comes back from its own.

A set has no order of its own, so a snapshot lists what is in it and sorts the list. The keys of the
sorting tell any two walls and any two cells apart, hence the order in which a set is listed does not
matter (`snapshotOf_eq_snapshot`). Reading a snapshot back checks every entry; a field that calls can
reach has its walls in range, so only a robot or paint off the field is refused. `snapshot_canonical`
puts this together.
-/

namespace RobotScript

/-! ### The order of a snapshot -/

/-- Cells are listed by rows, and by columns in a row. -/
def Cell.Before (a b : Cell) : Prop := a.y < b.y ∨ a.y = b.y ∧ a.x < b.x

/-- Horizontal walls are listed before vertical ones, then by rows and by columns. -/
def Wall.Before (a b : Wall) : Prop :=
  a.orientation.rank < b.orientation.rank ∨
    a.orientation.rank = b.orientation.rank ∧ (a.y < b.y ∨ a.y = b.y ∧ a.x < b.x)

instance (a b : Cell) : Decidable (a.Before b) := inferInstanceAs (Decidable (_ ∨ _))

instance (a b : Wall) : Decidable (a.Before b) := inferInstanceAs (Decidable (_ ∨ _))

lemma Cell.compare_eq_lt_iff {a b : Cell} : compare a b = .lt ↔ a.Before b := by
  rw [compare_def, Ordering.then_eq_lt, Before]
  simp only [Int.compare_eq_lt, Int.compare_eq_eq]

lemma Wall.compare_eq_lt_iff {a b : Wall} : compare a b = .lt ↔ a.Before b := by
  rw [compare_def, Ordering.then_eq_lt, Ordering.then_eq_lt, Before]
  simp only [Int.compare_eq_lt, Int.compare_eq_eq, Nat.compare_eq_lt, Nat.compare_eq_eq]

/-! ### Sorting the members of a set -/

section Sorting

variable {α : Type} [Ord α] [Std.TransOrd α] [Std.LawfulEqOrd α] {before : α → α → Prop}
  {s : Std.ExtTreeSet α}

omit [Std.LawfulEqOrd α] in
lemma pairwise_toList (hbefore : ∀ {a b}, compare a b = .lt ↔ before a b) :
    s.toList.Pairwise before :=
  Std.ExtTreeSet.ordered_toList.imp hbefore.1

lemma nodup_toList (s : Std.ExtTreeSet α) : s.toList.Nodup := by
  refine Std.ExtTreeSet.distinct_toList.imp ?_
  rintro a _ h rfl
  exact h Std.ReflCmp.compare_self

/-- **However the members of a set are listed, sorting the list gives the same.** -/
theorem mergeSort_eq_toList [DecidableRel before]
    (hbefore : ∀ {a b}, compare a b = .lt ↔ before a b) {l : List α} (hnodup : l.Nodup)
    (hmem : ∀ a, a ∈ l ↔ a ∈ s) :
    l.mergeSort (fun a b => !decide (before b a)) = s.toList := by
  have hle : (fun a b => !decide (before b a)) = fun a b : α => (compare a b).isLE := by
    funext a b
    rw [Bool.eq_iff_iff, Bool.not_eq_true', decide_eq_false_iff_not, ← hbefore,
      ← Std.OrientedCmp.gt_iff_lt]
    cases compare a b <;> simp
  have hperm : (l.mergeSort fun a b => (compare a b).isLE).Perm s.toList := by
    refine (List.mergeSort_perm _ _).trans ?_
    refine (List.perm_ext_iff_of_nodup hnodup (nodup_toList s)).2 fun a => ?_
    rw [hmem, Std.ExtTreeSet.mem_toList]
  have hsorted : (l.mergeSort fun a b => (compare a b).isLE).Pairwise
      fun a b => (compare a b).isLE := by
    refine List.pairwise_mergeSort ?_ ?_ l
    · intro a b c
      exact Std.TransCmp.isLE_trans
    · intro a b
      have hswap : compare b a = (compare a b).swap := Std.OrientedCmp.eq_swap
      rw [hswap]
      cases compare a b <;> rfl
  have hset : s.toList.Pairwise fun a b => (compare a b).isLE := by
    refine Std.ExtTreeSet.ordered_toList.imp ?_
    intro a b h
    rw [h]
    rfl
  rw [hle]
  refine List.Perm.eq_of_pairwise ?_ hsorted hset hperm
  intro a b _ _ hab hba
  exact Std.LawfulEqCmp.eq_of_compare (Std.OrientedCmp.isLE_antisymm hab hba)

end Sorting

namespace Field

variable {f g : Field} {s t : Snapshot}

/-! ### Writing a snapshot -/

/-- The snapshot of a field whose walls and painted cells come in the given order. -/
def snapshotOf (f : Field) (walls : List Wall) (painted : List Cell) : Snapshot where
  size := f.size
  robot := f.robot
  walls := walls.mergeSort fun a b => !decide (b.Before a)
  painted := painted.mergeSort fun a b => !decide (b.Before a)

/-- **The order in which the sets are listed has no part in a snapshot.** -/
theorem snapshotOf_eq_snapshot {walls : List Wall} {painted : List Cell} (hwalls : walls.Nodup)
    (hpainted : painted.Nodup) (mem_walls : ∀ w, w ∈ walls ↔ w ∈ f.walls)
    (mem_painted : ∀ c, c ∈ painted ↔ c ∈ f.painted) : f.snapshotOf walls painted = f.snapshot :=
  Snapshot.ext rfl rfl (mergeSort_eq_toList Wall.compare_eq_lt_iff hwalls mem_walls)
    (mergeSort_eq_toList Cell.compare_eq_lt_iff hpainted mem_painted)

theorem snapshot_inj : f.snapshot = g.snapshot ↔ f = g := by
  constructor
  · intro h
    obtain ⟨hsize, hrobot, hwalls, hpainted⟩ := Snapshot.ext_iff.1 h
    exact Field.ext hsize hrobot (Std.ExtTreeSet.toList_inj.1 hwalls)
      (Std.ExtTreeSet.toList_inj.1 hpainted)
  · rintro rfl
    rfl

/-- **The lists are strictly sorted**, so nothing stands in them twice. -/
structure Snapshot.Sorted (s : Snapshot) : Prop where
  walls : s.walls.Pairwise Wall.Before
  painted : s.painted.Pairwise Cell.Before
  walls_nodup : s.walls.Nodup
  painted_nodup : s.painted.Nodup

lemma sorted_snapshot (f : Field) : f.snapshot.Sorted where
  walls := pairwise_toList Wall.compare_eq_lt_iff
  painted := pairwise_toList Cell.compare_eq_lt_iff
  walls_nodup := nodup_toList f.walls
  painted_nodup := nodup_toList f.painted

/-! ### Reading a snapshot -/

/-- **Two snapshots tell the same**, in whatever order and how often. -/
structure Snapshot.Agrees (s t : Snapshot) : Prop where
  size : s.size = t.size
  robot : s.robot = t.robot
  walls (w : Wall) : w ∈ s.walls ↔ w ∈ t.walls
  painted (c : Cell) : c ∈ s.painted ↔ c ∈ t.painted

/-- The field that a snapshot tells of, in range or not. -/
def Snapshot.field (s : Snapshot) : Field := ⟨s.size, s.robot, .ofList s.walls, .ofList s.painted⟩

/-- **Everything in the snapshot lies on a field of a positive size.** -/
structure Snapshot.InRange (s : Snapshot) : Prop where
  positive : 0 < s.size
  walls {w : Wall} : w ∈ s.walls → w.fits s.size
  painted {c : Cell} : c ∈ s.painted → covers s.size c
  robot : covers s.size s.robot.position

lemma ofSnapshot_of_pos (h : 0 < s.size) :
    ofSnapshot s =
      match s.contents.fault? s.size with
      | some e => .error e
      | none => .ok s.field := by
  rw [ofSnapshot, ofSize_eq_ok_iff.2 ⟨h, rfl⟩]
  rfl

/-- **A snapshot is read exactly if everything in it is in range.** -/
theorem ofSnapshot_eq_ok_iff : ofSnapshot s = .ok f ↔ s.InRange ∧ s.field = f := by
  by_cases hsize : 0 < s.size
  · have hrange : s.contents.fault? s.size = none ↔ s.InRange := by
      rw [Update.fault?_eq_none_iff, badWall?_eq_none_iff, badCell?_eq_none_iff,
        badRobot?_eq_none_iff]
      constructor
      · rintro ⟨hwalls, hpainted, hrobot⟩
        exact ⟨hsize, fun hw => hwalls _ hw, fun hc => hpainted _ hc, hrobot _ rfl⟩
      · intro h
        refine ⟨fun w hw => h.walls hw, fun c hc => h.painted hc, fun r hr => ?_⟩
        cases hr
        exact h.robot
    rw [ofSnapshot_of_pos hsize, ← hrange]
    split <;> simp_all
  · have hbad : ofSnapshot s = .error (.invalidSize s.size) := by
      rw [ofSnapshot, ofSize, if_pos (by omega)]
    rw [hbad]
    simp only [reduceCtorEq, false_iff, not_and]
    exact fun h => absurd h.positive hsize

lemma field_snapshot (f : Field) : f.snapshot.field = f := by
  refine Field.ext rfl rfl ?_ ?_
  · refine Std.ExtTreeSet.ext_mem fun w => ?_
    simp [Snapshot.field, snapshot, Std.ExtTreeSet.mem_ofList]
  · refine Std.ExtTreeSet.ext_mem fun c => ?_
    simp [Snapshot.field, snapshot, Std.ExtTreeSet.mem_ofList]

lemma agrees_snapshot_field (s : Snapshot) : s.field.snapshot.Agrees s where
  size := rfl
  robot := rfl
  walls w := by simp [Snapshot.field, snapshot, Std.ExtTreeSet.mem_ofList]
  painted c := by simp [Snapshot.field, snapshot, Std.ExtTreeSet.mem_ofList]

namespace Snapshot.Agrees

lemma field_eq (h : s.Agrees t) : s.field = t.field := by
  refine Field.ext h.size h.robot ?_ ?_
  · refine Std.ExtTreeSet.ext_mem fun w => ?_
    simpa [Snapshot.field, Std.ExtTreeSet.mem_ofList] using h.walls w
  · refine Std.ExtTreeSet.ext_mem fun c => ?_
    simpa [Snapshot.field, Std.ExtTreeSet.mem_ofList] using h.painted c

lemma symm (h : s.Agrees t) : t.Agrees s :=
  ⟨h.size.symm, h.robot.symm, fun w => (h.walls w).symm, fun c => (h.painted c).symm⟩

lemma inRange (h : s.Agrees t) (hs : s.InRange) : t.InRange where
  positive := h.size ▸ hs.positive
  walls hw := h.size ▸ hs.walls ((h.walls _).2 hw)
  painted hc := h.size ▸ hs.painted ((h.painted _).2 hc)
  robot := h.size ▸ h.robot ▸ hs.robot

/-- Neither the order nor the repetition of entries has a part in what is read. -/
lemma ofSnapshot_iff (h : s.Agrees t) : ofSnapshot s = .ok f ↔ ofSnapshot t = .ok f := by
  rw [ofSnapshot_eq_ok_iff, ofSnapshot_eq_ok_iff, h.field_eq]
  exact and_congr_left fun _ => ⟨h.inRange, h.symm.inRange⟩

end Snapshot.Agrees

/-! ### There and back -/

/-- The fields that can be made and changed by calls, also by putting the robot anywhere. -/
def Reachable (f : Field) : Prop := ∃ f₀, Made f₀ ∧ Reaches (fun _ _ => True) f₀ f

lemma Reachable.fenced (h : f.Reachable) : f.Fenced := by
  obtain ⟨f₀, made, hreaches⟩ := h
  exact fenced_of_altered hreaches.altered made.valid.fenced

section Back

variable (hf : f.Fenced)
include hf

lemma ofSnapshot_snapshot (hpainted : ∀ c ∈ f.painted, f.inBounds c)
    (hrobot : f.inBounds f.robot.position) : ofSnapshot f.snapshot = .ok f := by
  refine ofSnapshot_eq_ok_iff.2 ⟨⟨hf.positive, fun hw => ?_, fun hc => ?_, hrobot⟩,
    field_snapshot f⟩
  · exact hf.walls (Std.ExtTreeSet.mem_toList.1 hw)
  · exact hpainted _ (Std.ExtTreeSet.mem_toList.1 hc)

/-- Walls in range are no fault. -/
lemma badWall?_snapshot : f.snapshot.contents.badWall? f.size = none :=
  badWall?_eq_none_iff.2 fun _ hw => hf.walls (Std.ExtTreeSet.mem_toList.1 hw)

lemma ofSnapshot_snapshot_of_painted (hpainted : ∃ c ∈ f.painted, ¬f.inBounds c) :
    ∃ c ∈ f.painted, ¬f.inBounds c ∧
      ofSnapshot f.snapshot = .error (.cellOutOfBounds c f.size) := by
  rcases hbad : f.snapshot.contents.badCell? f.size with _ | c
  · obtain ⟨c, hc, hout⟩ := hpainted
    exact absurd (badCell?_eq_none_iff.1 hbad c (Std.ExtTreeSet.mem_toList.2 hc)) hout
  · have hin : c ∈ f.painted := Std.ExtTreeSet.mem_toList.1 (List.mem_of_find?_eq_some hbad)
    have hout := List.find?_some (p := fun c => !covers f.size c) hbad
    have hfault : f.snapshot.contents.fault? f.size = some (.cellOutOfBounds c f.size) := by
      rw [Update.fault?, badWall?_snapshot hf, hbad]
    refine ⟨c, hin, by simpa [inBounds] using hout, ?_⟩
    rw [ofSnapshot_of_pos hf.positive]
    exact hfault ▸ rfl

lemma ofSnapshot_snapshot_of_robot (hpainted : ∀ c ∈ f.painted, f.inBounds c)
    (hrobot : ¬f.inBounds f.robot.position) :
    ofSnapshot f.snapshot = .error (.robotOutOfBounds f.robot.position f.size) := by
  have hcells : f.snapshot.contents.badCell? f.size = none :=
    badCell?_eq_none_iff.2 fun c hc => hpainted c (Std.ExtTreeSet.mem_toList.1 hc)
  have hbad : f.snapshot.contents.badRobot? f.size = some f.robot := by
    refine Option.filter_eq_some_iff.2 ⟨rfl, ?_⟩
    simpa [inBounds] using hrobot
  have hfault : f.snapshot.contents.fault? f.size =
      some (.robotOutOfBounds f.robot.position f.size) := by
    rw [Update.fault?, badWall?_snapshot hf, hcells, hbad]
  rw [ofSnapshot_of_pos hf.positive]
  exact hfault ▸ rfl

end Back

/-- **Snapshots are canonical.** A field that calls can reach comes back from its snapshot if its robot
and its paint are on it; else its paint is refused, or its robot if the paint is in range. Equal
snapshots come from equal fields, and a snapshot does not depend on the order in which the sets are
listed. A field that was read from a snapshot has a sorted one that tells the same, and whatever tells
the same is read alike. -/
theorem snapshot_canonical :
    (∀ f : Field, f.Reachable →
      ((∀ c ∈ f.painted, f.inBounds c) → f.inBounds f.robot.position →
        ofSnapshot f.snapshot = .ok f) ∧
      ((∃ c ∈ f.painted, ¬f.inBounds c) → ∃ c ∈ f.painted, ¬f.inBounds c ∧
        ofSnapshot f.snapshot = .error (.cellOutOfBounds c f.size)) ∧
      ((∀ c ∈ f.painted, f.inBounds c) → ¬f.inBounds f.robot.position →
        ofSnapshot f.snapshot = .error (.robotOutOfBounds f.robot.position f.size))) ∧
    (∀ f g : Field, f.snapshot = g.snapshot ↔ f = g) ∧
    (∀ (f : Field) (walls : List Wall) (painted : List Cell), walls.Nodup → painted.Nodup →
      (∀ w, w ∈ walls ↔ w ∈ f.walls) → (∀ c, c ∈ painted ↔ c ∈ f.painted) →
        f.snapshotOf walls painted = f.snapshot) ∧
    (∀ s f, ofSnapshot s = .ok f → f.snapshot.Agrees s ∧ f.snapshot.Sorted) ∧
    ∀ s t : Snapshot, s.Agrees t → ∀ f, ofSnapshot s = .ok f ↔ ofSnapshot t = .ok f := by
  refine ⟨fun f hf => ⟨ofSnapshot_snapshot hf.fenced, ofSnapshot_snapshot_of_painted hf.fenced,
    ofSnapshot_snapshot_of_robot hf.fenced⟩, fun f g => snapshot_inj, ?_, ?_, ?_⟩
  · intro f walls painted hwalls hpainted mem_walls mem_painted
    exact snapshotOf_eq_snapshot hwalls hpainted mem_walls mem_painted
  · intro s f h
    obtain ⟨-, rfl⟩ := ofSnapshot_eq_ok_iff.1 h
    exact ⟨agrees_snapshot_field s, sorted_snapshot _⟩
  · exact fun s t h f => h.ofSnapshot_iff

/-- Paint left behind by a robot that was put off the field and back, and a snapshot with a wall told
twice. -/
theorem snapshot_canonical_of_stray :
    let stray := (((default : Field).moveRobotTo ⟨0, -1⟩).paint.2).moveRobotTo ⟨0, 0⟩
    let told : Snapshot := ⟨2, ⟨⟨1, 1⟩, .west⟩, [⟨1, 0, .vertical⟩, ⟨1, 0, .vertical⟩], []⟩
    let once : Snapshot := ⟨2, ⟨⟨1, 1⟩, .west⟩, [⟨1, 0, .vertical⟩], []⟩
    (∃ c ∈ stray.painted, ¬stray.inBounds c ∧
      ofSnapshot stray.snapshot = .error (.cellOutOfBounds c 10)) ∧
    told ≠ once ∧ ofSnapshot told = .ok told.field ∧ ofSnapshot once = .ok told.field := by
  intro stray told once
  obtain ⟨hback, -, -, -, hagrees⟩ := snapshot_canonical
  have hreachable : stray.Reachable :=
    ⟨default, .blank, .call (.call (.call (.refl _) (.moveRobotTo trivial)) .paint)
      (.moveRobotTo trivial)⟩
  have hout : ∃ c ∈ stray.painted, ¬stray.inBounds c :=
    ⟨⟨0, -1⟩, Std.ExtTreeSet.contains_iff_mem.1 (by decide +kernel), by decide +kernel⟩
  have htold : ofSnapshot told = .ok told.field := by decide +kernel
  have hsame : told.Agrees once := ⟨rfl, rfl, by simp [told, once], by simp [told, once]⟩
  exact ⟨(hback stray hreachable).2.1 hout, by decide, htold, (hagrees told once hsame _).1 htold⟩

end Field

end RobotScript
