import RobotScript.Proofs.Field.Validity

/-!
Partial updates are atomic, exact and compose.

`Field.apply` gives a new field or an error. `Update.inPlace` is the same update as it is made on a
field that is there: part by part, with every check a way out, and what has been written by then
stays written. Since all checks come before the first part is written (`outcome_checks`,
`outcome_writes`), the two agree and a refused update leaves the field as it was
(`outcome_inPlace`). In which order the cells are looked through is left open: `Update.Relists` goes
over all orders, and an update is refused for what one of them brings out
(`Update.refused_iff_exists_relists`). The main statement is `apply_atomic`, which also says what is
refused and for what, what an update leaves and what two of them come to.
-/

namespace RobotScript.Field

/-! ### Changes in place -/

/-- A change of a field in place that may be refused. What it has written by then stays written. -/
abbrev InPlace (α : Type) := ExceptT Error (StateM Field) α

namespace InPlace

variable {α β : Type} {f g : Field}

/-- What a change answers on a field, and the field it leaves. -/
def outcome (x : InPlace α) (f : Field) : Except Error α × Field := x.run.run f

/-- Goes on if the size of the field is as asked. -/
def demand (ok : Int → Bool) (error : Int → Error) : InPlace Unit := do
  let f ← get
  unless ok f.size do throw (error f.size)

lemma outcome_bind_of_ok {x : InPlace α} {k : α → InPlace β} {a : α}
    (h : x.outcome f = (.ok a, g)) : (x >>= k).outcome f = (k a).outcome g := by
  have hrun : x.run.run f = (.ok a, g) := h
  unfold outcome
  rw [ExceptT.run_bind, StateT.run_bind, hrun]
  rfl

lemma outcome_bind_of_error {x : InPlace α} {k : α → InPlace β} {e : Error}
    (h : x.outcome f = (.error e, g)) : (x >>= k).outcome f = (.error e, g) := by
  have hrun : x.run.run f = (.error e, g) := h
  unfold outcome
  rw [ExceptT.run_bind, StateT.run_bind, hrun]
  rfl

lemma outcome_demand (ok : Int → Bool) (error : Int → Error) (f : Field) :
    (demand ok error).outcome f =
      (if ok f.size then .ok () else .error (error f.size), f) := by
  have hget : (get : InPlace Field).outcome f = (.ok f, f) := rfl
  unfold demand
  rw [outcome_bind_of_ok hget]
  split <;> rfl

/-- Demands on a list of things are refused for the first that is not met. -/
lemma outcome_forM_demand (ok : α → Int → Bool) (error : α → Int → Error) (l : List α)
    (f : Field) :
    (forM l fun a => demand (ok a) (error a)).outcome f =
      (match l.find? fun a => !ok a f.size with
        | some a => .error (error a f.size)
        | none => .ok (), f) := by
  induction l with
  | nil => rfl
  | cons a l ih =>
    have hdemand := outcome_demand (ok a) (error a) f
    rw [List.forM_cons]
    by_cases ha : ok a f.size
    · rw [if_pos ha] at hdemand
      rw [outcome_bind_of_ok hdemand, ih, List.find?_cons_of_neg (by simp [ha])]
    · rw [if_neg ha] at hdemand
      rw [outcome_bind_of_error hdemand, List.find?_cons_of_pos (by simp [ha])]

end InPlace

namespace Update

open InPlace

variable {u v : Update} {f g : Field} {size : Int} {e : Error}

/-- Goes through all that an update lists: walls, cells and the robot. -/
def checks (u : Update) : InPlace Unit := do
  forM (u.walls.getD []) fun w => demand w.fits (.wallOutOfRange w)
  forM (u.painted.getD []) fun c => demand (covers · c) (.cellOutOfBounds c)
  forM u.robot.toList fun r => demand (covers · r.position) (.robotOutOfBounds r.position)

/-- Writes the parts that an update lists. -/
def writes (u : Update) : InPlace Unit := do
  forM u.walls fun ws => modify fun f => { f with walls := .ofList ws }
  forM u.painted fun cs => modify fun f => { f with painted := .ofList cs }
  forM u.robot fun r => modify fun f => { f with robot := r }

/-- **An update in place.** -/
def inPlace (u : Update) : InPlace Unit := do
  u.checks
  u.writes

lemma find?_toList_robot (u : Update) (size : Int) :
    (u.robot.toList.find? fun r => !covers size r.position) = u.badRobot? size := by
  rcases hr : u.robot with _ | r
  · simp [badRobot?, hr]
  · rcases hc : covers size r.position with _ | _ <;> simp [badRobot?, Option.filter, hr, hc]

/-- **The checks find the fault and write nothing.** -/
lemma outcome_checks (u : Update) (f : Field) :
    u.checks.outcome f =
      (match u.fault? f.size with
        | some e => .error e
        | none => .ok (), f) := by
  have hwalls := outcome_forM_demand Wall.fits .wallOutOfRange (u.walls.getD []) f
  have hcells := outcome_forM_demand (fun c size => covers size c) .cellOutOfBounds
    (u.painted.getD []) f
  have hrobot := outcome_forM_demand (fun r size => covers size r.position)
    (fun r => .robotOutOfBounds r.position) u.robot.toList f
  rw [find?_toList_robot] at hrobot
  unfold checks fault?
  rcases hw : u.badWall? f.size with _ | w
  · rw [← badWall?, hw] at hwalls
    rw [outcome_bind_of_ok hwalls]
    rcases hc : u.badCell? f.size with _ | c
    · rw [← badCell?, hc] at hcells
      rw [outcome_bind_of_ok hcells, hrobot]
      rcases u.badRobot? f.size with _ | r <;> rfl
    · rw [← badCell?, hc] at hcells
      rw [outcome_bind_of_error hcells]
  · rw [← badWall?, hw] at hwalls
    rw [outcome_bind_of_error hwalls]

lemma outcome_writes (u : Update) (f : Field) : u.writes.outcome f = (.ok (), f.overwrite u) := by
  obtain ⟨_ | ws, _ | cs, _ | r⟩ := u <;> rfl

/-- **An update in place is made as a whole or not at all.** -/
theorem outcome_inPlace (u : Update) (f : Field) :
    u.inPlace.outcome f =
      match f.apply u with
      | .ok g => (.ok (), g)
      | .error e => (.error e, f) := by
  have hchecks := outcome_checks u f
  unfold inPlace apply
  rcases hfault : u.fault? f.size with _ | e
  · rw [hfault] at hchecks
    rw [outcome_bind_of_ok hchecks, outcome_writes]
  · rw [hfault] at hchecks
    rw [outcome_bind_of_error hchecks]

/-! ### What is refused, and for what -/

/-- **Everything that an update lists lies on a field of a size.** -/
structure InRange (u : Update) (size : Int) : Prop where
  walls : ∀ w ∈ u.walls.getD [], w.fits size
  painted : ∀ c ∈ u.painted.getD [], covers size c
  robot : ∀ r, u.robot = some r → covers size r.position

/-- **Why a field of a size refuses an update**: for the first wall in the list that does not fit,
or for a listed cell that is not on the field if all walls fit, or for the robot if all else is in
range. -/
inductive Refused (u : Update) (size : Int) : Error → Prop
  | wall {before after : List Wall} {w : Wall} (listed : u.walls = some (before ++ w :: after))
      (earlier : ∀ v ∈ before, v.fits size) (misfit : ¬w.fits size) :
      Refused u size (.wallOutOfRange w size)
  | cell {c : Cell} (walls : ∀ w ∈ u.walls.getD [], w.fits size) (listed : c ∈ u.painted.getD [])
      (outside : ¬covers size c) : Refused u size (.cellOutOfBounds c size)
  | robot {r : Robot} (walls : ∀ w ∈ u.walls.getD [], w.fits size)
      (painted : ∀ c ∈ u.painted.getD [], covers size c) (given : u.robot = some r)
      (outside : ¬covers size r.position) : Refused u size (.robotOutOfBounds r.position size)

lemma fault?_eq_none_iff_inRange : u.fault? size = none ↔ u.InRange size := by
  rw [fault?_eq_none_iff, badWall?_eq_none_iff, badCell?_eq_none_iff, badRobot?_eq_none_iff]
  exact ⟨fun ⟨hwalls, hpainted, hrobot⟩ => ⟨hwalls, hpainted, hrobot⟩,
    fun h => ⟨h.walls, h.painted, h.robot⟩⟩

lemma badWall?_eq_some_iff {w : Wall} :
    u.badWall? size = some w ↔
      ∃ before after, u.walls = some (before ++ w :: after) ∧ (∀ v ∈ before, v.fits size) ∧
        ¬w.fits size := by
  rw [badWall?, List.find?_eq_some_iff_append]
  constructor
  · rintro ⟨hmisfit, before, after, hlist, hearlier⟩
    rcases hu : u.walls with _ | ws
    · rw [hu] at hlist
      simp at hlist
    · rw [hu, Option.getD_some] at hlist
      exact ⟨before, after, by rw [hlist], by simpa using hearlier, by simpa using hmisfit⟩
  · rintro ⟨before, after, hlist, hearlier, hmisfit⟩
    exact ⟨by simpa using hmisfit, before, after, by rw [hlist, Option.getD_some],
      by simpa using hearlier⟩

lemma badCell?_eq_some {c : Cell} (h : u.badCell? size = some c) :
    c ∈ u.painted.getD [] ∧ ¬covers size c := by
  have houtside := List.find?_some (p := fun c => !covers size c) h
  exact ⟨List.mem_of_find?_eq_some h, by simpa using houtside⟩

lemma badRobot?_eq_some_iff {r : Robot} :
    u.badRobot? size = some r ↔ u.robot = some r ∧ ¬covers size r.position := by
  rw [badRobot?, Option.filter_eq_some_iff, Bool.not_eq_true', Bool.not_eq_true]

lemma refused_of_fault? (h : u.fault? size = some e) : u.Refused size e := by
  unfold fault? at h
  rcases hw : u.badWall? size with _ | w
  · have hwalls := badWall?_eq_none_iff.1 hw
    rcases hc : u.badCell? size with _ | c
    · have hcells := badCell?_eq_none_iff.1 hc
      rcases hr : u.badRobot? size with _ | r
      · simp [hw, hc, hr] at h
      · obtain ⟨hgiven, houtside⟩ := badRobot?_eq_some_iff.1 hr
        rw [hw, hc, hr] at h
        cases h
        exact .robot hwalls hcells hgiven houtside
    · obtain ⟨hlisted, houtside⟩ := badCell?_eq_some hc
      rw [hw, hc] at h
      cases h
      exact .cell hwalls hlisted houtside
  · obtain ⟨before, after, hlisted, hearlier, hmisfit⟩ := badWall?_eq_some_iff.1 hw
    rw [hw] at h
    cases h
    exact .wall hlisted hearlier hmisfit

/-! ### The order of the cells -/

/-- **An update that lists the same cells**, in whatever order and how often, and all else alike. -/
structure Relists (v u : Update) : Prop where
  walls : v.walls = u.walls
  robot : v.robot = u.robot
  present : v.painted = none ↔ u.painted = none
  cells (c : Cell) : c ∈ v.painted.getD [] ↔ c ∈ u.painted.getD []

namespace Relists

lemma refl (u : Update) : u.Relists u := ⟨rfl, rfl, Iff.rfl, fun _ => Iff.rfl⟩

/-- Each of the cells can come first. -/
lemma cons {c : Cell} (hc : c ∈ u.painted.getD []) :
    Relists { u with painted := some (c :: u.painted.getD []) } u where
  walls := rfl
  robot := rfl
  present := by
    rcases hu : u.painted with _ | cs
    · rw [hu] at hc
      cases hc
    · exact iff_of_false nofun nofun
  cells d := by
    rw [Option.getD_some, List.mem_cons, or_iff_right_iff_imp]
    rintro rfl
    exact hc

lemma inRange_iff (h : v.Relists u) : v.InRange size ↔ u.InRange size := by
  constructor
  · intro hv
    exact ⟨h.walls ▸ hv.walls, fun c hc => hv.painted c ((h.cells c).2 hc), h.robot ▸ hv.robot⟩
  · intro hu
    exact ⟨h.walls ▸ hu.walls, fun c hc => hu.painted c ((h.cells c).1 hc), h.robot ▸ hu.robot⟩

lemma overwrite_eq (h : v.Relists u) : f.overwrite v = f.overwrite u := by
  refine Field.ext rfl ?_ ?_ (Std.ExtTreeSet.ext_mem fun c => ?_)
  · simp only [overwrite, h.robot]
  · simp only [overwrite, h.walls]
  · rw [mem_painted_overwrite, mem_painted_overwrite, h.cells, h.present]

lemma refused (h : v.Relists u) (hv : v.Refused size e) : u.Refused size e := by
  cases hv with
  | wall listed earlier misfit => exact .wall (h.walls ▸ listed) earlier misfit
  | cell walls listed outside => exact .cell (h.walls ▸ walls) ((h.cells _).1 listed) outside
  | robot walls painted given outside =>
    exact .robot (h.walls ▸ walls) (fun c hc => painted c ((h.cells c).2 hc)) (h.robot ▸ given)
      outside

end Relists

/-- **The faults that some order of the cells brings out are those an update is refused for.** -/
theorem refused_iff_exists_relists :
    u.Refused size e ↔ ∃ v : Update, v.Relists u ∧ v.fault? size = some e := by
  constructor
  · intro h
    cases h with
    | wall listed earlier misfit =>
      have hwall := badWall?_eq_some_iff.2 ⟨_, _, listed, earlier, misfit⟩
      exact ⟨u, .refl u, by rw [fault?, hwall]⟩
    | @cell c walls listed outside =>
      -- the cell is told if it is looked at first
      let v : Update := { u with painted := some (c :: u.painted.getD []) }
      have hwall : v.badWall? size = none := badWall?_eq_none_iff.2 walls
      have hcell : v.badCell? size = some c := List.find?_cons_of_pos (by simpa using outside)
      exact ⟨v, .cons listed, by rw [fault?, hwall, hcell]⟩
    | robot walls painted given outside =>
      have hwall := badWall?_eq_none_iff.2 walls
      have hcell := badCell?_eq_none_iff.2 painted
      have hrobot := badRobot?_eq_some_iff.2 ⟨given, outside⟩
      exact ⟨u, .refl u, by rw [fault?, hwall, hcell, hrobot]⟩
  · rintro ⟨v, hv, hfault⟩
    exact hv.refused (refused_of_fault? hfault)

/-! ### One update after another -/

/-- The update that takes each part from the second of two where it has it, and else from the
first. -/
def followedBy (u v : Update) : Update where
  walls := v.walls.or u.walls
  painted := v.painted.or u.painted
  robot := v.robot.or u.robot

lemma InRange.followedBy (hu : u.InRange size) (hv : v.InRange size) :
    (u.followedBy v).InRange size where
  walls := by
    rcases h : v.walls with _ | ws
    · simpa [Update.followedBy, h] using hu.walls
    · simpa [Update.followedBy, h] using hv.walls
  painted := by
    rcases h : v.painted with _ | cs
    · simpa [Update.followedBy, h] using hu.painted
    · simpa [Update.followedBy, h] using hv.painted
  robot := by
    rcases h : v.robot with _ | r
    · simpa [Update.followedBy, h] using hu.robot
    · simpa [Update.followedBy, h] using hv.robot

lemma overwrite_overwrite : (f.overwrite u).overwrite v = f.overwrite (u.followedBy v) := by
  obtain ⟨_ | ws, _ | cs, _ | r⟩ := v <;> rfl

end Update

/-- An update is made exactly if all it lists is in range. -/
lemma apply_eq_ok_iff_inRange {f g : Field} {u : Update} :
    f.apply u = .ok g ↔ u.InRange f.size ∧ f.overwrite u = g := by
  rw [apply_eq_ok_iff, Update.fault?_eq_none_iff_inRange]

/-- What a session does to its field is the update in place. -/
lemma update_eq_edit (s : Session) (u : Update) : s.update u = s.edit u.inPlace.outcome := by
  refine congrArg s.edit (funext fun f => ?_)
  rcases hf : f.apply u with e | g
  · simp only [Update.outcome_inPlace, hf]
  · simp only [Update.outcome_inPlace, hf]

/-- **Partial updates are atomic, exact and compose.** An update is made exactly if all it lists is
in range. A refused one, also if it is made in place as a session does, leaves the field as it was,
and the error tells of the first wall in the list that does not fit, else of a listed cell off the
field, else of the robot; the order in which cells are looked through decides no more than which of
several such cells is told. An update that is made replaces each part that it lists by the set of
what it lists there and leaves the others and the size alone. Success depends on the size alone, and
so do the errors: over all orders of the cells the ones named above are told and no others, and for
one order of them fields of one size tell the same error. Two updates that are both made come to the
one that takes each part from the second where it has it. -/
theorem apply_atomic (f : Field) (u : Update) :
    ((∃ g, f.apply u = .ok g) ↔ u.InRange f.size) ∧
    (∀ e, f.apply u = .error e → u.Refused f.size e ∧ u.inPlace.outcome f = (.error e, f)) ∧
    (∀ g, f.apply u = .ok g → u.inPlace.outcome f = (.ok (), g) ∧ g.size = f.size ∧
      (∀ ws, u.walls = some ws → ∀ w, w ∈ g.walls ↔ w ∈ ws) ∧
      (u.walls = none → g.walls = f.walls) ∧
      (∀ cs, u.painted = some cs → ∀ c, c ∈ g.painted ↔ c ∈ cs) ∧
      (u.painted = none → g.painted = f.painted) ∧
      g.robot = u.robot.getD f.robot) ∧
    (∀ s : Session, s.update u = s.edit u.inPlace.outcome) ∧
    (∀ v : Update, v.Relists u →
      (∀ g, f.apply v = .ok g ↔ f.apply u = .ok g) ∧
      ∀ e, f.apply v = .error e → u.Refused f.size e) ∧
    (∀ f' : Field, f'.size = f.size →
      ((∃ g, f'.apply u = .ok g) ↔ ∃ g, f.apply u = .ok g) ∧
      (∀ e, (∃ v : Update, v.Relists u ∧ f'.apply v = .error e) ↔ u.Refused f.size e) ∧
      ∀ v : Update, v.Relists u → ∀ e, f'.apply v = .error e ↔ f.apply v = .error e) ∧
    ∀ (v : Update) (g k : Field), f.apply u = .ok g → f.apply v = .ok k →
      ∃ h, g.apply v = .ok h ∧ f.apply (u.followedBy v) = .ok h := by
  have hok : ∀ f' : Field, (∃ g, f'.apply u = .ok g) ↔ u.InRange f'.size := by
    intro f'
    simp only [apply_eq_ok_iff_inRange, exists_and_left, exists_eq', and_true]
  have hrefused : ∀ v e, f.apply v = .error e → v.Refused f.size e := fun v e h =>
    Update.refused_of_fault? (apply_eq_error_iff.1 h)
  refine ⟨hok f, fun e he => ⟨hrefused u e he, ?_⟩, fun g hg => ⟨?_, ?_⟩,
    fun s => update_eq_edit s u,
    fun v hv => ⟨fun g => ?_, fun e he => hv.refused (hrefused v e he)⟩,
    fun f' hsize => ⟨?_, fun e => ?_, fun v _ e => ?_⟩, fun v g k hg hk => ?_⟩
  · rw [Update.outcome_inPlace, he]
  · rw [Update.outcome_inPlace, hg]
  · obtain ⟨-, rfl⟩ := apply_eq_ok_iff.1 hg
    refine ⟨rfl, fun ws hws w => ?_, fun hnone => ?_, fun cs hcs c => ?_, fun hnone => ?_, rfl⟩
    · simp [mem_walls_overwrite, hws]
    · simp [overwrite, hnone]
    · simp [mem_painted_overwrite, hcs]
    · simp [overwrite, hnone]
  · rw [apply_eq_ok_iff_inRange, apply_eq_ok_iff_inRange, hv.inRange_iff, hv.overwrite_eq]
  · rw [hok f', hok f, hsize]
  · simp only [Update.refused_iff_exists_relists, apply_eq_error_iff, hsize]
  · rw [apply_eq_error_iff, apply_eq_error_iff, hsize]
  · obtain ⟨hu, rfl⟩ := apply_eq_ok_iff_inRange.1 hg
    obtain ⟨hv, -⟩ := apply_eq_ok_iff_inRange.1 hk
    exact ⟨_, apply_eq_ok_iff_inRange.2 ⟨hv, rfl⟩,
      apply_eq_ok_iff_inRange.2 ⟨hu.followedBy hv, Update.overwrite_overwrite.symm⟩⟩

/-- An update that takes the walls away is refused for its robot and takes none away. One with two
cells off the field is refused for the first or, in another order, for the second. Paint and another
robot, one after the other, come to both at once. -/
theorem apply_atomic_of_robot :
    let f : Field := { blank 10 with walls := .insert ∅ ⟨1, 0, .vertical⟩ }
    let lost : Update := { walls := some [], robot := some ⟨⟨12, 0⟩, .east⟩ }
    let off : Update := { painted := some [⟨10, 1⟩, ⟨2, 2⟩, ⟨3, -1⟩] }
    let paint : Update := { painted := some [⟨1, 1⟩, ⟨2, 2⟩, ⟨1, 1⟩] }
    let place : Update := { robot := some ⟨⟨9, 9⟩, .west⟩ }
    (f.apply lost = .error (.robotOutOfBounds ⟨12, 0⟩ 10) ∧
      lost.inPlace.outcome f = (.error (.robotOutOfBounds ⟨12, 0⟩ 10), f)) ∧
    (f.apply off = .error (.cellOutOfBounds ⟨10, 1⟩ 10) ∧
      ∃ v : Update, v.Relists off ∧ f.apply v = .error (.cellOutOfBounds ⟨3, -1⟩ 10)) ∧
    (f.apply paint = .ok (f.overwrite paint) ∧
      (∀ c, c ∈ (f.overwrite paint).painted ↔ c ∈ [⟨1, 1⟩, ⟨2, 2⟩, ⟨1, 1⟩]) ∧
      (f.overwrite paint).walls = f.walls) ∧
    ∃ h, (f.overwrite paint).apply place = .ok h ∧ f.apply (paint.followedBy place) = .ok h := by
  intro f lost off paint place
  have hlost : f.apply lost = .error (.robotOutOfBounds ⟨12, 0⟩ 10) := by decide +kernel
  have hoff : f.apply off = .error (.cellOutOfBounds ⟨10, 1⟩ 10) := by decide +kernel
  have hother : off.Refused f.size (.cellOutOfBounds ⟨3, -1⟩ 10) :=
    .cell (by decide) (by decide) (by decide)
  have hpaint : f.apply paint = .ok (f.overwrite paint) := by decide +kernel
  have hplace : f.apply place = .ok (f.overwrite place) := by decide +kernel
  obtain ⟨-, hkept, -⟩ := apply_atomic f lost
  obtain ⟨-, -, -, -, -, hsize, -⟩ := apply_atomic f off
  obtain ⟨-, -, hmade, -, -, -, htwice⟩ := apply_atomic f paint
  obtain ⟨-, -, -, hwalls, hcells, -⟩ := hmade _ hpaint
  exact ⟨⟨hlost, (hkept _ hlost).2⟩, ⟨hoff, ((hsize f rfl).2.1 _).2 hother⟩,
    ⟨hpaint, hcells _ rfl, hwalls rfl⟩, htwice place _ _ hpaint hplace⟩

end RobotScript.Field
