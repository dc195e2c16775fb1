import Mathlib.Data.List.Nodup
import RobotScript.Json.Exchange

/-!
What is written as JSON is taken back.

A codec is `Exact` on a range of values if it takes back whatever it writes of them and takes
nothing else, in whichever form a value is given. Records are the hard part: the members of an
object are checked one by one before any of them is read. `Written.members` says that the members
as a record writes them, where absent options are left out, pass these checks, and `Written.find?`
that each field is then found among them. The main statement is `exchanged_round_trip`.
-/

namespace RobotScript

/-! ### Ranges -/

/-- The whole numbers of 32 bits with sign. -/
def IsInt32 (n : Int) : Prop := -2147483648 ≤ n ∧ n ≤ 2147483647

/-- The whole numbers of 64 bits without sign. -/
def IsWord64 (n : Nat) : Prop := n ≤ maxWord

instance (n : Int) : Decidable (IsInt32 n) := inferInstanceAs (Decidable (_ ∧ _))

instance (n : Nat) : Decidable (IsWord64 n) := inferInstanceAs (Decidable (n ≤ maxWord))

/-- The coordinates of the cell have 32 bits. -/
def Cell.Is32 (c : Cell) : Prop := IsInt32 c.x ∧ IsInt32 c.y

/-- The coordinates of the wall have 32 bits. -/
def Wall.Is32 (w : Wall) : Prop := IsInt32 w.x ∧ IsInt32 w.y

/-- The coordinates of the robot have 32 bits. -/
def Robot.Is32 (r : Robot) : Prop := r.position.Is32

/-- All numbers of the snapshot have 32 bits. -/
structure Field.Snapshot.Is32 (s : Field.Snapshot) : Prop where
  size : IsInt32 s.size
  robot : s.robot.Is32
  walls : ∀ w ∈ s.walls, w.Is32
  painted : ∀ c ∈ s.painted, c.Is32

/-- All numbers of the update have 32 bits. -/
structure Field.Update.Is32 (u : Field.Update) : Prop where
  walls : ∀ ws ∈ u.walls, ∀ w ∈ ws, w.Is32
  painted : ∀ cs ∈ u.painted, ∀ c ∈ cs, c.Is32
  robot : ∀ r ∈ u.robot, r.Is32

/-- The numbers of the settings have 64 bits. -/
def Settings.Is64 (s : Settings) : Prop := IsWord64 s.delayMs ∧ IsWord64 s.maxSteps

/-- The line of the descriptor has 64 bits. -/
def Failure.Descriptor.Is64 (d : Failure.Descriptor) : Prop := ∀ n ∈ d.line, IsWord64 n

/-- A computation in two parts succeeds if both parts do. -/
lemma bind_eq_ok {ε α β : Type} {x : Except ε α} {f : α → Except ε β} {b : β} :
    x >>= f = .ok b ↔ ∃ a, x = .ok a ∧ f a = .ok b := by
  cases x with
  | error e => exact iff_of_false nofun (by rintro ⟨a, ha, -⟩; cases ha)
  | ok a => exact ⟨fun h => ⟨a, rfl, h⟩, by rintro ⟨b, hb, h⟩; cases hb; exact h⟩

namespace Json.Codec

variable {α : Type}

/-! ### Exact codecs -/

/-- **A codec is exact on a range**: a value in the range is taken from what is written of it, and
whatever is taken is in the range. -/
structure Exact (c : Codec α) (range : α → Prop) : Prop where
  decode_encode {a : α} : range a → c.decode (c.encode a) = .ok a
  range_of_decode {j : Json} {a : α} : c.decode j = .ok a → range a

section Simple

variable {c : Codec α} {range : α → Prop}

lemma exact_int32 : int32.Exact IsInt32 where
  decode_encode h := if_pos h
  range_of_decode {j n} h := by
    cases j with
    | int m =>
      simp only [int32] at h
      split at h
      · next hm =>
        cases h
        exact hm
      · cases h
    | _ => cases h

lemma exact_word64 : word64.Exact IsWord64 where
  decode_encode {n} h := by
    have hn : (0 : Int) ≤ n ∧ (n : Int) ≤ 18446744073709551615 := by
      unfold IsWord64 maxWord at h
      omega
    simp [word64, Json.nat, hn]
  range_of_decode {j n} h := by
    cases j with
    | int m =>
      simp only [word64] at h
      split at h
      · next hm =>
        cases h
        unfold IsWord64 maxWord
        omega
      · cases h
    | _ => cases h

lemma exact_text : text.Exact fun _ => True := ⟨fun _ => rfl, fun _ => trivial⟩

/-- A choice takes the names that it writes. -/
lemma exact_choice {write : α → String} {names : List (String × α)}
    (h : ∀ a, lookup names (write a) = .ok a) : (choice write names).Exact fun _ => True :=
  ⟨fun {a} _ => h a, fun _ => trivial⟩

lemma decodeAll_map_encode (hc : c.Exact range) {as : List α} (h : ∀ a ∈ as, range a) :
    decodeAll c (as.map c.encode) = .ok as := by
  induction as with
  | nil => rfl
  | cons a as ih =>
    rw [List.forall_mem_cons] at h
    rw [List.map_cons, decodeAll, hc.decode_encode h.1, ih h.2]

lemma range_of_decodeAll (hc : c.Exact range) {items : List Json} {as : List α}
    (h : decodeAll c items = .ok as) : ∀ a ∈ as, range a := by
  induction items generalizing as with
  | nil =>
    cases h
    exact nofun
  | cons j items ih =>
    rw [decodeAll] at h
    split at h
    · cases h
    · next a ha =>
      split at h
      · cases h
      · next as' has =>
        cases h
        exact List.forall_mem_cons.2 ⟨hc.range_of_decode ha, ih has⟩

lemma exact_list (hc : c.Exact range) : (list c).Exact fun as => ∀ a ∈ as, range a where
  decode_encode h := decodeAll_map_encode hc h
  range_of_decode {j as} h := by
    cases j with
    | arr items => exact range_of_decodeAll hc h
    | _ => cases h

lemma decode_nullable {j : Json} (h : j ≠ .null) :
    (nullable c).decode j =
      match c.decode j with
      | .ok a => .ok (some a)
      | .error e => .error e := by
  cases j with
  | null => exact absurd rfl h
  | _ => rfl

/-- Absence can be told from a value that is never written as `null`. -/
lemma exact_nullable (hc : c.Exact range) (hnull : ∀ a, c.encode a ≠ .null) :
    (nullable c).Exact fun a => ∀ b ∈ a, range b where
  decode_encode {a} h := by
    cases a with
    | none => rfl
    | some b =>
      show (nullable c).decode (c.encode b) = _
      rw [decode_nullable (hnull b), hc.decode_encode (h b rfl)]
  range_of_decode {j a} h := by
    by_cases hj : j = .null
    · rw [hj] at h
      cases h
      exact nofun
    · rw [decode_nullable hj] at h
      split at h
      · next b hb =>
        cases h
        rintro _ ⟨⟩
        exact hc.range_of_decode hb
      · cases h

end Simple

/-! ### Records -/

section Records

variable {slots : List Slot} {ms : List (String × Json)} {p : Part α} {range : α → Prop}

/-- No two fields go by one name. -/
def Distinct (slots : List Slot) : Prop :=
  slots.Pairwise fun s t => ∀ name ∈ s.names, name ∉ t.names

instance (slots : List Slot) : Decidable (Distinct slots) :=
  inferInstanceAs (Decidable (slots.Pairwise fun s t => ∀ name ∈ s.names, name ∉ t.names))

/-- **Members as a record writes them**: each goes by the first name of a field that takes its
value, and no name is repeated. -/
structure Written (slots : List Slot) (ms : List (String × Json)) : Prop where
  distinct : Distinct slots
  accepted : ∀ m ∈ ms, ∃ slot ∈ slots, slot.names.head? = some m.1 ∧ slot.check m.2 = .ok ()
  once : (ms.map Prod.fst).Nodup

lemma Distinct.eq_of_mem (h : Distinct slots) {s t : Slot} (hs : s ∈ slots) (ht : t ∈ slots)
    {name : String} (hsn : name ∈ s.names) (htn : name ∈ t.names) : s = t := by
  unfold Distinct at h
  induction h with
  | nil => cases hs
  | @cons slot slots hslot _ ih =>
    rcases List.mem_cons.1 hs with rfl | hs'
    · rcases List.mem_cons.1 ht with rfl | ht'
      · rfl
      · exact absurd htn (hslot t ht' name hsn)
    · rcases List.mem_cons.1 ht with rfl | ht'
      · exact absurd hsn (hslot s hs' name htn)
      · exact ih hs' ht'

/-- The field of a name is found by that name. -/
lemma Distinct.find?_eq (h : Distinct slots) {slot : Slot} (hs : slot ∈ slots) {name : String}
    (hn : name ∈ slot.names) : slots.find? (·.names.contains name) = some slot := by
  rcases hfind : slots.find? (·.names.contains name) with _ | found
  · have hnone := List.find?_eq_none.1 hfind slot hs
    simp [hn] at hnone
  · have hmem : name ∈ found.names := by simpa using List.find?_some hfind
    rw [hfind, h.eq_of_mem (List.mem_of_find?_eq_some hfind) hs hmem hn]

lemma Written.tail {m : String × Json} (h : Written slots (m :: ms)) : Written slots ms :=
  ⟨h.distinct, fun n hn => h.accepted n (List.mem_cons_of_mem _ hn), (List.nodup_cons.1 h.once).2⟩

/-- The names given before are first names of fields, and none of them comes again. -/
lemma Written.checkMembers {given : List String} (h : Written slots ms)
    (hgiven : ∀ g ∈ given, g ∉ ms.map Prod.fst ∧ ∃ slot ∈ slots, slot.names.head? = some g) :
    checkMembers slots given ms = .ok () := by
  induction ms generalizing given with
  | nil => rfl
  | cons m ms ih =>
    obtain ⟨name, j⟩ := m
    obtain ⟨slot, hslot, hhead, hcheck⟩ := h.accepted _ List.mem_cons_self
    have hfresh : slot.names.any given.contains = false := by
      rw [List.any_eq_false]
      intro other hother hin
      obtain ⟨hnot, slot', hslot', hhead'⟩ := hgiven other (by simpa using hin)
      obtain rfl : slot' = slot :=
        h.distinct.eq_of_mem hslot' hslot (List.mem_of_head? hhead') hother
      obtain rfl : name = other := by
        rw [hhead'] at hhead
        exact (Option.some.inj hhead).symm
      exact hnot List.mem_cons_self
    rw [Codec.checkMembers, h.distinct.find?_eq hslot (List.mem_of_head? hhead)]
    simp only [hfresh, Bool.false_eq_true, if_false, hcheck]
    refine ih h.tail (List.forall_mem_cons.2 ⟨⟨?_, slot, hslot, hhead⟩, fun g hg => ?_⟩)
    · exact (List.nodup_cons.1 h.once).1
    · obtain ⟨hnot, hslots⟩ := hgiven g hg
      exact ⟨fun hin => hnot (List.mem_cons_of_mem _ hin), hslots⟩

/-- **A record takes the members that it writes.** -/
lemma Written.members (h : Written slots ms) : members slots (.obj ms) = .ok ms := by
  simp [Codec.members, h.checkMembers]

/-- A field of the record, with a codec that is exact on its range. -/
structure Part.FieldOf (p : Part α) (slots : List Slot) (range : α → Prop) : Prop where
  mem : p.slot ∈ slots
  named : p.names ≠ []
  exact : p.codec.Exact range

lemma Part.FieldOf.head?_names (hp : p.FieldOf slots range) :
    p.names.head? = some (p.names.headD "") := by
  have hnamed := hp.named
  cases hnames : p.names with
  | nil => exact absurd hnames hnamed
  | cons name names => rfl

/-- The member that writes a field is accepted. -/
lemma Part.FieldOf.accepts (hp : p.FieldOf slots range) {a : α} (ha : range a) :
    ∃ slot ∈ slots,
      slot.names.head? = some (p.member a).1 ∧ slot.check (p.member a).2 = .ok () := by
  refine ⟨p.slot, hp.mem, hp.head?_names, ?_⟩
  simp [Part.slot, Part.member, hp.exact.decode_encode ha]

/-- A member that goes by any name of a field goes by the first one. -/
lemma Written.name_eq (h : Written slots ms) (hp : p.FieldOf slots range) {m : String × Json}
    (hm : m ∈ ms) (hin : m.1 ∈ p.names) : m.1 = p.names.headD "" := by
  obtain ⟨slot, hslot, hhead, -⟩ := h.accepted m hm
  obtain rfl : slot = p.slot := h.distinct.eq_of_mem hslot hp.mem (List.mem_of_head? hhead) hin
  exact Option.some.inj (hhead.symm.trans hp.head?_names)

/-- **A field is found among the members that write it.** -/
lemma Written.find? (h : Written slots ms) (hp : p.FieldOf slots range) {a : α} (ha : range a)
    (hmem : p.member a ∈ ms) : p.find? ms = .ok (some a) := by
  have hfind : ms.find? (p.names.contains ·.1) = some (p.member a) := by
    rcases hfound : ms.find? (p.names.contains ·.1) with _ | m
    · have hnone := List.find?_eq_none.1 hfound _ hmem
      have hin : p.names.headD "" ∈ p.names := List.mem_of_head? hp.head?_names
      exact absurd (List.contains_iff_mem.2 hin) hnone
    · have hm := List.mem_of_find?_eq_some hfound
      have hin : m.1 ∈ p.names := by simpa using List.find?_some hfound
      rw [hfound, List.inj_on_of_nodup_map h.once hm hmem (h.name_eq hp hm hin)]
  rw [Part.find?, hfind]
  simp [Part.member, hp.exact.decode_encode ha]

lemma Written.required (h : Written slots ms) (hp : p.FieldOf slots range) {a : α} (ha : range a)
    (hmem : p.member a ∈ ms) : p.required ms = .ok a := by
  rw [Part.required, h.find? hp ha hmem]

lemma Written.getD (h : Written slots ms) (hp : p.FieldOf slots range) {a : α} (ha : range a)
    (hmem : p.member a ∈ ms) (default : α) : p.getD ms default = .ok a := by
  rw [Part.getD, h.find? hp ha hmem]
  rfl

/-- A field that no member goes by takes its default. -/
lemma Part.getD_of_absent (h : ∀ m ∈ ms, m.1 ∉ p.names) (default : α) :
    p.getD ms default = .ok default := by
  have hfind : ms.find? (p.names.contains ·.1) = none := by
    rw [List.find?_eq_none]
    intro m hm hin
    exact h m hm (by simpa using hin)
  rw [Part.getD, Part.find?, hfind]
  rfl

lemma Part.range_of_find? (hc : p.codec.Exact range) {a : α} (h : p.find? ms = .ok (some a)) :
    range a := by
  rw [Part.find?] at h
  split at h
  · cases h
  · split at h
    · next b hb =>
      cases h
      exact hc.range_of_decode hb
    · cases h

lemma Part.range_of_required (hc : p.codec.Exact range) {a : α} (h : p.required ms = .ok a) :
    range a := by
  rw [Part.required] at h
  split at h
  · next b hb =>
    cases h
    exact Part.range_of_find? hc hb
  · cases h
  · cases h

/-- A default is as good as a value that is given. -/
lemma Part.range_of_getD (hc : p.codec.Exact range) {a default : α} (hdefault : range default)
    (h : p.getD ms default = .ok a) : range a := by
  rw [Part.getD] at h
  split at h
  · next found hfound =>
    cases h
    cases found with
    | none => exact hdefault
    | some b => exact Part.range_of_find? hc hfound
  · cases h

/-! #### Optional fields -/

variable {q : Part (Option α)} {a : Option α}

lemma mem_member? {m : String × Json} : m ∈ q.member? a ↔ a.isSome ∧ m = q.member a := by
  unfold Part.member?
  split
  · next h => simp [h]
  · next h => simp [h]

lemma names_member? : ((q.member? a).map Prod.fst).Sublist [q.names.headD ""] := by
  unfold Part.member?
  split
  · exact List.Sublist.refl _
  · exact List.nil_sublist _

lemma Part.FieldOf.accepts? {range : Option α → Prop} (hq : q.FieldOf slots range) (ha : range a) :
    ∀ m ∈ q.member? a,
      ∃ slot ∈ slots, slot.names.head? = some m.1 ∧ slot.check m.2 = .ok () := by
  intro m hm
  obtain ⟨-, rfl⟩ := mem_member?.1 hm
  exact hq.accepts ha

/-- The members of an optional field do not go by the name of another. -/
lemma name_ne_of_mem_member? {name : String} (hne : q.names.headD "" ≠ name) :
    ∀ m ∈ q.member? a, m.1 ≠ name := by
  intro m hm
  obtain ⟨-, rfl⟩ := mem_member?.1 hm
  exact hne

/-- **An optional field comes back**, if no other member goes by its name. -/
lemma Written.getD_option {range : Option α → Prop} (h : Written slots ms)
    (hq : q.FieldOf slots range) (ha : range a) (hmem : q.member? a ⊆ ms)
    (hown : ∀ m ∈ ms, m ∈ q.member? a ∨ m.1 ≠ q.names.headD "") : q.getD ms none = .ok a := by
  cases a with
  | some b => exact h.getD hq ha (hmem (mem_member?.2 ⟨rfl, rfl⟩)) none
  | none =>
    refine Part.getD_of_absent (fun m hm hin => ?_) none
    rcases hown m hm with hm' | hne
    · exact absurd (mem_member?.1 hm').1 Bool.false_ne_true
    · exact hne (h.name_eq hq hm hin)

end Records

/-! ### Everything that is exchanged -/

lemma exact_direction : direction.Exact fun _ => True where
  decode_encode {d} _ := by
    have hname : lowered d.name = d.name := by cases d <;> decide +kernel
    simp only [direction, hname, Direction.ofName?_name]
  range_of_decode _ := trivial

lemma exact_orientation : orientation.Exact fun _ => True :=
  exact_choice fun o => by cases o <;> rfl

lemma exact_motion : motion.Exact fun _ => True :=
  exact_choice fun m => by cases m <;> rfl

lemma exact_cell : cell.Exact Cell.Is32 where
  decode_encode {c} h := by
    simp [cell, exact_int32.decode_encode h.1, exact_int32.decode_encode h.2]
  range_of_decode {j c} h := by
    simp only [cell] at h
    split at h
    · split at h
      · next x y hx hy =>
        cases h
        exact ⟨exact_int32.range_of_decode hx, exact_int32.range_of_decode hy⟩
      · cases h
      · cases h
    · cases h

/-- The fields of a wall. -/
abbrev wallSlots : List Slot := [xPart.slot, yPart.slot, orientationPart.slot]

lemma exact_wall : wall.Exact Wall.Is32 where
  decode_encode {w} h := by
    have hx : xPart.FieldOf wallSlots IsInt32 := ⟨by simp, nofun, exact_int32⟩
    have hy : yPart.FieldOf wallSlots IsInt32 := ⟨by simp, nofun, exact_int32⟩
    have ho : orientationPart.FieldOf wallSlots fun _ => True := ⟨by simp, nofun, exact_orientation⟩
    have hms : Written wallSlots
        [xPart.member w.x, yPart.member w.y, orientationPart.member w.orientation] := by
      refine ⟨by decide, ?_, (by decide : ["x", "y", "orientation"].Nodup)⟩
      simp only [List.forall_mem_cons]
      exact ⟨hx.accepts h.1, hy.accepts h.2, ho.accepts trivial, nofun⟩
    exact bind_eq_ok.2 ⟨_, hms.members, bind_eq_ok.2 ⟨_, hms.required hx h.1 (by simp),
      bind_eq_ok.2 ⟨_, hms.required hy h.2 (by simp),
      bind_eq_ok.2 ⟨_, hms.required ho trivial (by simp), rfl⟩⟩⟩⟩
  range_of_decode {j w} h := by
    obtain ⟨ms, -, h⟩ := bind_eq_ok.1 h
    obtain ⟨x, hx, h⟩ := bind_eq_ok.1 h
    obtain ⟨y, hy, h⟩ := bind_eq_ok.1 h
    obtain ⟨o, -, h⟩ := bind_eq_ok.1 h
    cases h
    exact ⟨Part.range_of_required exact_int32 hx, Part.range_of_required exact_int32 hy⟩

/-- The fields of the robot with its position as a cell. -/
abbrev robotSlots : List Slot := [positionPart.slot, directionPart.slot]

lemma exact_robot : robot.Exact Robot.Is32 where
  decode_encode {r} h := by
    have hp : positionPart.FieldOf robotSlots Cell.Is32 := ⟨by simp, nofun, exact_cell⟩
    have hd : directionPart.FieldOf robotSlots fun _ => True := ⟨by simp, nofun, exact_direction⟩
    have hms : Written robotSlots
        [positionPart.member r.position, directionPart.member r.direction] := by
      refine ⟨by decide, ?_, (by decide : ["position", "direction"].Nodup)⟩
      simp only [List.forall_mem_cons]
      exact ⟨hp.accepts h, hd.accepts trivial, nofun⟩
    exact bind_eq_ok.2 ⟨_, hms.members, bind_eq_ok.2 ⟨_, hms.required hp h (by simp),
      bind_eq_ok.2 ⟨_, hms.required hd trivial (by simp), rfl⟩⟩⟩
  range_of_decode {j r} h := by
    obtain ⟨ms, -, h⟩ := bind_eq_ok.1 h
    obtain ⟨p, hp, h⟩ := bind_eq_ok.1 h
    obtain ⟨d, -, h⟩ := bind_eq_ok.1 h
    cases h
    exact Part.range_of_required (p := positionPart) exact_cell hp

/-- The fields of the robot in flat form. -/
abbrev flatRobotSlots : List Slot := [xPart.slot, yPart.slot, headingPart.slot]

lemma exact_flatRobot : flatRobot.Exact Robot.Is32 where
  decode_encode {r} h := by
    have hx : xPart.FieldOf flatRobotSlots IsInt32 := ⟨by simp, nofun, exact_int32⟩
    have hy : yPart.FieldOf flatRobotSlots IsInt32 := ⟨by simp, nofun, exact_int32⟩
    have hd : headingPart.FieldOf flatRobotSlots fun _ => True := ⟨by simp, nofun, exact_direction⟩
    have hms : Written flatRobotSlots
        [xPart.member r.position.x, yPart.member r.position.y, headingPart.member r.direction] := by
      refine ⟨by decide, ?_, (by decide : ["x", "y", "direction"].Nodup)⟩
      simp only [List.forall_mem_cons]
      exact ⟨hx.accepts h.1, hy.accepts h.2, hd.accepts trivial, nofun⟩
    exact bind_eq_ok.2 ⟨_, hms.members, bind_eq_ok.2 ⟨_, hms.required hx h.1 (by simp),
      bind_eq_ok.2 ⟨_, hms.required hy h.2 (by simp),
      bind_eq_ok.2 ⟨_, hms.getD hd trivial (by simp) _, rfl⟩⟩⟩⟩
  range_of_decode {j r} h := by
    obtain ⟨ms, -, h⟩ := bind_eq_ok.1 h
    obtain ⟨x, hx, h⟩ := bind_eq_ok.1 h
    obtain ⟨y, hy, h⟩ := bind_eq_ok.1 h
    obtain ⟨d, -, h⟩ := bind_eq_ok.1 h
    cases h
    exact ⟨Part.range_of_required (p := xPart) exact_int32 hx,
      Part.range_of_required (p := yPart) exact_int32 hy⟩

/-- The fields of a snapshot. -/
abbrev snapshotSlots : List Slot :=
  [sizePart.slot, robotPart.slot, wallsPart.slot, paintedPart.slot]

lemma exact_snapshot : snapshot.Exact Field.Snapshot.Is32 where
  decode_encode {s} h := by
    have hs : sizePart.FieldOf snapshotSlots IsInt32 := ⟨by simp, nofun, exact_int32⟩
    have hr : robotPart.FieldOf snapshotSlots Robot.Is32 := ⟨by simp, nofun, exact_flatRobot⟩
    have hw : wallsPart.FieldOf snapshotSlots _ := ⟨by simp, nofun, exact_list exact_wall⟩
    have hp : paintedPart.FieldOf snapshotSlots _ := ⟨by simp, nofun, exact_list exact_cell⟩
    have hms : Written snapshotSlots [sizePart.member s.size, robotPart.member s.robot,
        wallsPart.member s.walls, paintedPart.member s.painted] := by
      refine ⟨by decide, ?_, (by decide : ["size", "robot", "walls", "painted"].Nodup)⟩
      simp only [List.forall_mem_cons]
      exact ⟨hs.accepts h.size, hr.accepts h.robot, hw.accepts h.walls, hp.accepts h.painted, nofun⟩
    exact bind_eq_ok.2 ⟨_, hms.members, bind_eq_ok.2 ⟨_, hms.required hs h.size (by simp),
      bind_eq_ok.2 ⟨_, hms.required hr h.robot (by simp),
      bind_eq_ok.2 ⟨_, hms.getD hw h.walls (by simp) _,
      bind_eq_ok.2 ⟨_, hms.getD hp h.painted (by simp) _, rfl⟩⟩⟩⟩⟩
  range_of_decode {j s} h := by
    obtain ⟨ms, -, h⟩ := bind_eq_ok.1 h
    obtain ⟨size, hs, h⟩ := bind_eq_ok.1 h
    obtain ⟨r, hr, h⟩ := bind_eq_ok.1 h
    obtain ⟨ws, hw, h⟩ := bind_eq_ok.1 h
    obtain ⟨cs, hp, h⟩ := bind_eq_ok.1 h
    cases h
    exact ⟨Part.range_of_required (p := sizePart) exact_int32 hs,
      Part.range_of_required (p := robotPart) exact_flatRobot hr,
      Part.range_of_getD (p := wallsPart) (exact_list exact_wall) (by simp) hw,
      Part.range_of_getD (p := paintedPart) (exact_list exact_cell) (by simp) hp⟩

/-- The fields of an update. -/
abbrev updateSlots : List Slot := [newWallsPart.slot, newPaintedPart.slot, newRobotPart.slot]

lemma exact_update : update.Exact Field.Update.Is32 where
  decode_encode {u} h := by
    have hw : newWallsPart.FieldOf updateSlots _ :=
      ⟨by simp, nofun, exact_nullable (exact_list exact_wall) nofun⟩
    have hp : newPaintedPart.FieldOf updateSlots _ :=
      ⟨by simp, nofun, exact_nullable (exact_list exact_cell) nofun⟩
    have hr : newRobotPart.FieldOf updateSlots _ :=
      ⟨by simp, nofun, exact_nullable exact_flatRobot nofun⟩
    have hms : Written updateSlots (newWallsPart.member? u.walls ++
        newPaintedPart.member? u.painted ++ newRobotPart.member? u.robot) := by
      refine ⟨by decide, ?_, ?_⟩
      · simp only [List.forall_mem_append]
        exact ⟨⟨hw.accepts? h.walls, hp.accepts? h.painted⟩, hr.accepts? h.robot⟩
      · simp only [List.map_append]
        have hnodup : ["walls", "painted", "robot"].Nodup := by decide
        exact hnodup.sublist ((names_member?.append names_member?).append names_member?)
    have hwalls := hms.getD_option hw h.walls (by simp) (by
      simp only [List.forall_mem_append]
      exact ⟨⟨fun m hm => .inl hm, fun m hm => .inr (name_ne_of_mem_member? (by decide) m hm)⟩,
        fun m hm => .inr (name_ne_of_mem_member? (by decide) m hm)⟩)
    have hpainted := hms.getD_option hp h.painted (by simp) (by
      simp only [List.forall_mem_append]
      exact ⟨⟨fun m hm => .inr (name_ne_of_mem_member? (by decide) m hm), fun m hm => .inl hm⟩,
        fun m hm => .inr (name_ne_of_mem_member? (by decide) m hm)⟩)
    have hrobot := hms.getD_option hr h.robot (by simp) (by
      simp only [List.forall_mem_append]
      exact ⟨⟨fun m hm => .inr (name_ne_of_mem_member? (by decide) m hm),
        fun m hm => .inr (name_ne_of_mem_member? (by decide) m hm)⟩, fun m hm => .inl hm⟩)
    exact bind_eq_ok.2 ⟨_, hms.members, bind_eq_ok.2 ⟨_, hwalls, bind_eq_ok.2 ⟨_, hpainted,
      bind_eq_ok.2 ⟨_, hrobot, rfl⟩⟩⟩⟩
  range_of_decode {j u} h := by
    obtain ⟨ms, -, h⟩ := bind_eq_ok.1 h
    obtain ⟨ws, hw, h⟩ := bind_eq_ok.1 h
    obtain ⟨cs, hp, h⟩ := bind_eq_ok.1 h
    obtain ⟨r, hr, h⟩ := bind_eq_ok.1 h
    cases h
    exact ⟨Part.range_of_getD (p := newWallsPart)
        (exact_nullable (exact_list exact_wall) nofun) (by simp) hw,
      Part.range_of_getD (p := newPaintedPart)
        (exact_nullable (exact_list exact_cell) nofun) (by simp) hp,
      Part.range_of_getD (p := newRobotPart) (exact_nullable exact_flatRobot nofun) (by simp) hr⟩

/-- The fields of settings. -/
abbrev settingsSlots : List Slot := [delayPart.slot, motionPart.slot, maxStepsPart.slot]

lemma exact_settings : settings.Exact Settings.Is64 where
  decode_encode {s} h := by
    have hd : delayPart.FieldOf settingsSlots IsWord64 := ⟨by simp, nofun, exact_word64⟩
    have hm : motionPart.FieldOf settingsSlots fun _ => True := ⟨by simp, nofun, exact_motion⟩
    have hl : maxStepsPart.FieldOf settingsSlots IsWord64 := ⟨by simp, nofun, exact_word64⟩
    have hms : Written settingsSlots [delayPart.member s.delayMs, motionPart.member s.motion,
        maxStepsPart.member s.maxSteps] := by
      refine ⟨by decide, ?_, (by decide : ["delay_ms", "motion", "max_steps"].Nodup)⟩
      simp only [List.forall_mem_cons]
      exact ⟨hd.accepts h.1, hm.accepts trivial, hl.accepts h.2, nofun⟩
    exact bind_eq_ok.2 ⟨_, hms.members, bind_eq_ok.2 ⟨_, hms.getD hd h.1 (by simp) _,
      bind_eq_ok.2 ⟨_, hms.getD hm trivial (by simp) _,
      bind_eq_ok.2 ⟨_, hms.getD hl h.2 (by simp) _, rfl⟩⟩⟩⟩
  range_of_decode {j s} h := by
    obtain ⟨ms, -, h⟩ := bind_eq_ok.1 h
    obtain ⟨delayMs, hd, h⟩ := bind_eq_ok.1 h
    obtain ⟨m, -, h⟩ := bind_eq_ok.1 h
    obtain ⟨maxSteps, hl, h⟩ := bind_eq_ok.1 h
    cases h
    exact ⟨Part.range_of_getD (p := delayPart) exact_word64 (by decide) hd,
      Part.range_of_getD (p := maxStepsPart) exact_word64 (by decide) hl⟩

/-- The fields of a descriptor. -/
abbrev descriptorSlots : List Slot := [kindPart.slot, messagePart.slot, linePart.slot]

lemma exact_descriptor : descriptor.Exact Failure.Descriptor.Is64 where
  decode_encode {d} h := by
    have hk : kindPart.FieldOf descriptorSlots fun _ => True := ⟨by simp, nofun, exact_text⟩
    have hm : messagePart.FieldOf descriptorSlots fun _ => True := ⟨by simp, nofun, exact_text⟩
    have hl : linePart.FieldOf descriptorSlots _ :=
      ⟨by simp, nofun, exact_nullable exact_word64 nofun⟩
    have hms : Written descriptorSlots
        ([kindPart.member d.kind, messagePart.member d.message] ++ linePart.member? d.line) := by
      refine ⟨by decide, ?_, ?_⟩
      · simp only [List.forall_mem_append, List.forall_mem_cons]
        exact ⟨⟨hk.accepts trivial, hm.accepts trivial, nofun⟩, hl.accepts? h⟩
      · have hnodup : ["kind", "message", "line"].Nodup := by decide
        simp only [List.map_append]
        exact hnodup.sublist ((List.Sublist.refl ["kind", "message"]).append names_member?)
    have hline := hms.getD_option hl h (by simp) (by
      simp only [List.forall_mem_append, List.forall_mem_cons]
      exact ⟨⟨.inr (by decide : "kind" ≠ "line"), .inr (by decide : "message" ≠ "line"), nofun⟩,
        fun m hm => .inl hm⟩)
    exact bind_eq_ok.2 ⟨_, hms.members, bind_eq_ok.2 ⟨_, hms.required hk trivial (by simp),
      bind_eq_ok.2 ⟨_, hms.required hm trivial (by simp), bind_eq_ok.2 ⟨_, hline, rfl⟩⟩⟩⟩
  range_of_decode {j d} h := by
    obtain ⟨ms, -, h⟩ := bind_eq_ok.1 h
    obtain ⟨k, -, h⟩ := bind_eq_ok.1 h
    obtain ⟨m, -, h⟩ := bind_eq_ok.1 h
    obtain ⟨line, hl, h⟩ := bind_eq_ok.1 h
    cases h
    exact Part.range_of_getD (p := linePart) (exact_nullable exact_word64 nofun) (by simp) hl

/-- What becomes of a form when it is taken and written again. -/
def rewrite (c : Codec α) (j : Json) : Except Refusal Json := (c.decode j).map c.encode

/-- **Taking undoes writing.** A value in the range is taken from what is written of it. Whatever is
taken, in whichever form, is a value in the range, and the form written of it gives the same value
and does not change any more. -/
structure RoundTrips (c : Codec α) (range : α → Prop) : Prop where
  written (a : α) : range a → c.decode (c.encode a) = .ok a
  taken (j : Json) (a : α) : c.decode j = .ok a →
    range a ∧ c.decode (c.encode a) = .ok a ∧ c.rewrite (c.encode a) = .ok (c.encode a)

lemma Exact.roundTrips {c : Codec α} {range : α → Prop} (h : c.Exact range) :
    c.RoundTrips range where
  written _ ha := h.decode_encode ha
  taken j a hj := by
    have ha : range a := h.range_of_decode hj
    have hback : c.decode (c.encode a) = .ok a := h.decode_encode ha
    refine ⟨ha, hback, ?_⟩
    rw [rewrite, hback]
    rfl

/-- **Everything that is exchanged comes back**, within the ranges of its numbers. -/
theorem exchanged_round_trip :
    direction.RoundTrips (fun _ => True) ∧ orientation.RoundTrips (fun _ => True) ∧
    wall.RoundTrips Wall.Is32 ∧ robot.RoundTrips Robot.Is32 ∧ flatRobot.RoundTrips Robot.Is32 ∧
    snapshot.RoundTrips Field.Snapshot.Is32 ∧ update.RoundTrips Field.Update.Is32 ∧
    motion.RoundTrips (fun _ => True) ∧ settings.RoundTrips Settings.Is64 ∧
    descriptor.RoundTrips Failure.Descriptor.Is64 :=
  ⟨exact_direction.roundTrips, exact_orientation.roundTrips, exact_wall.roundTrips,
    exact_robot.roundTrips, exact_flatRobot.roundTrips, exact_snapshot.roundTrips,
    exact_update.roundTrips, exact_motion.roundTrips, exact_settings.roundTrips,
    exact_descriptor.roundTrips⟩

/-- A snapshot in another form: members out of order and one of no field, a wall as an array, the
older name of the direction with a name in capitals, and no painted cells. -/
theorem exchanged_round_trip_of_older_form :
    let given : Json := .obj [("walls", .arr [.arr [.int 1, .int 0, .str "vertical"]]),
      ("note", .real), ("robot", .obj [("dir", .str "NORTH"), ("y", .int 0), ("x", .int 1)]),
      ("size", .int 2)]
    let s : Field.Snapshot := ⟨2, ⟨⟨1, 0⟩, .north⟩, [⟨1, 0, .vertical⟩], []⟩
    snapshot.decode given = .ok s ∧ snapshot.decode (snapshot.encode s) = .ok s ∧
      snapshot.rewrite (snapshot.encode s) = .ok (snapshot.encode s) := by
  intro given s
  have hgiven : snapshot.decode given = .ok s := by decide +kernel
  obtain ⟨-, -, -, -, -, hsnapshot, -⟩ := exchanged_round_trip
  exact ⟨hgiven, (hsnapshot.taken given s hgiven).2⟩

end Json.Codec

end RobotScript
