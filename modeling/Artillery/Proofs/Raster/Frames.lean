import Artillery.Proofs.Raster.Index

/-!
# What operations on a raster leave alone

Of a cell two things matter beyond its operation: the earth in it and the tank in it.  Moving earth
changes the earth of the columns it reaches and no tank; drawing and erasing tanks changes no earth.

## Key results

- `crater_sameEarth`, `fillDisc_sameEarth`, `raiseTower_sameEarth`, `digTunnel_sameEarth`,
  `compact_sameEarth`, `level_sameEarth`: beyond its reach an earthwork changes nothing
- `stampActor_sameEarth`, `eraseActors_sameEarth`, `stampActors_sameEarth`: tanks are drawn around
  the earth
- `crater_tank`, `fillDisc_tank`, `raiseTower_tank`, `digTunnel_tank`, `compact_tank`: earth is moved
  around the tanks
-/

namespace Artillery

namespace Cell

/-- The earth in a cell: the value of terrain, and nothing elsewhere. -/
def earth (v : UInt8) : Option UInt8 := if isTerrain v then some v else none

/-- The tank in a cell: the value of an actor, and nothing elsewhere. -/
def tank (v : UInt8) : Option UInt8 := if isActor v then some v else none

/-- Where there is no terrain a cell shows no earth. -/
theorem earth_eq_none {v : UInt8} (h : isTerrain v = false) : earth v = none :=
  if_neg (by rw [h]; exact Bool.false_ne_true)

/-- Where there is no actor it shows no tank. -/
theorem tank_eq_none {v : UInt8} (h : isActor v = false) : tank v = none :=
  if_neg (by rw [h]; exact Bool.false_ne_true)

/-- Terrain hides all tanks. -/
theorem tank_of_isTerrain {v : UInt8} (h : isTerrain v = true) : tank v = none :=
  tank_eq_none (Bool.eq_false_iff.2 fun ha =>
    Bool.false_ne_true ((not_isTerrain_of_isActor ha).symm.trans h))

/-- The sky shows none. -/
@[simp] theorem tank_sky (height : Nat) (y : Int) : tank (sky height y) = none :=
  tank_eq_none (isActor_sky height y)

/-- Digging takes away terrain, never a tank. -/
theorem tank_dug (height y : Nat) (v : UInt8) : tank (Raster.dug height y v) = tank v := by
  unfold Raster.dug
  split
  · -- Only terrain is dug away, and terrain is no tank.
    rename_i hv
    rw [tank_sky, tank_of_isTerrain hv]
  · rfl

/-- Nor does filling bury one. -/
theorem tank_filled (height y : Nat) (v : UInt8) : tank (Raster.filled height y v) = tank v := by
  unfold Raster.filled
  split
  · rfl
  · -- What is filled was sky: tanks count as taken.
    rename_i hv
    have hfree : isActor v = false := Bool.eq_false_iff.2 fun ha => hv (.inr ha)
    rw [tank_of_isTerrain (isTerrain_shade height y), tank_eq_none hfree]

end Cell

namespace Raster

/-! ## Earth -/

/-- A column shows the same earth in two rasters, and has the same ground row in their index. -/
structure SameEarth (r r' : Raster) (x : Int) : Prop where
  ground : r'.heightAt x = r.heightAt x
  cells : ∀ y, Cell.earth (r'.sample x y) = Cell.earth (r.sample x y)

namespace SameEarth

variable {r r' r'' : Raster} {x : Int}

theorem refl (r : Raster) (x : Int) : SameEarth r r x := ⟨rfl, fun _ => rfl⟩

/-- It is enough to change a raster step by step. -/
theorem trans (h₁ : SameEarth r r' x) (h₂ : SameEarth r' r'' x) : SameEarth r r'' x :=
  ⟨h₂.ground.trans h₁.ground, fun y => (h₂.cells y).trans (h₁.cells y)⟩

/-- Only the columns of the raster have to be looked at. -/
theorem of_column (hh : r'.height = r.height)
    (hx : ∀ n : Nat, (n : Int) = x → r'.heightAt n = r.heightAt n ∧
      ∀ y : Nat, Cell.earth (r'.cell n y) = Cell.earth (r.cell n y)) : SameEarth r r' x := by
  by_cases hpos : 0 ≤ x
  · obtain ⟨hground, hcells⟩ := hx x.toNat (Int.toNat_of_nonneg hpos)
    rw [Int.toNat_of_nonneg hpos] at hground
    refine ⟨hground, fun y => ?_⟩
    unfold sample
    split
    · exact hcells y.toNat
    · rfl
  · -- There are no columns left of the field, before or after.
    constructor
    · rw [heightAt_of_off fun hin => hpos hin.1, heightAt_of_off fun hin => hpos hin.1, hh]
    · intro y
      unfold sample
      rw [if_neg fun h => hpos h.1, if_neg fun h => hpos h.1]

end SameEarth

section Reach

variable (r : Raster) {x cx : Int}

/-- Repainting a rectangle and scanning its columns leaves every other column alone. -/
theorem repaint_rescan_sameEarth (lo hi : Int) (ys : Span) (rule : Nat → Nat → UInt8 → UInt8)
    (far : ¬(lo ≤ x ∧ x ≤ hi)) :
    SameEarth r ((r.repaint (r.columnsFrom lo hi) ys rule).rescan (r.columnsFrom lo hi)) x := by
  refine SameEarth.of_column rfl ?_
  rintro n rfl
  -- The columns are clipped to the field, which takes none that is out of reach back in.
  have hout : n ∉ r.columnsFrom lo hi := fun hm => far (by
    have := Span.mem_clipped.1 hm
    omega)
  constructor
  · rw [heightAt_rescan, if_neg fun hm => hout hm.1, heightAt_repaint]
  · intro y
    rw [cell_rescan, cell_repaint, if_neg fun hm => hout hm.1]

/-- A crater changes the earth in its columns only. -/
theorem crater_sameEarth (cy radius : Int) (far : ¬(cx - radius ≤ x ∧ x ≤ cx + radius)) :
    SameEarth r (r.crater cx cy radius) x := r.repaint_rescan_sameEarth _ _ _ _ far

/-- So does a disc of earth. -/
theorem fillDisc_sameEarth (cy radius : Int) (far : ¬(cx - radius ≤ x ∧ x ≤ cx + radius)) :
    SameEarth r (r.fillDisc cx cy radius) x := r.repaint_rescan_sameEarth _ _ _ _ far

/-- So does a tower. -/
theorem raiseTower_sameEarth (foot height : Int)
    (far : ¬(cx - towerHalfWidth ≤ x ∧ x ≤ cx + towerHalfWidth)) :
    SameEarth r (r.raiseTower cx foot height) x := r.repaint_rescan_sameEarth _ _ _ _ far

/-- So does a tunnel. -/
theorem digTunnel_sameEarth (mouth depth : Int) (down : Bool)
    (far : ¬(cx - tunnelHalfWidth depth ≤ x ∧ x ≤ cx + tunnelHalfWidth depth)) :
    SameEarth r (r.digTunnel cx mouth depth down) x := r.repaint_rescan_sameEarth _ _ _ _ far

/-- Falling earth falls in its columns only. -/
theorem compact_sameEarth (radius : Int) (far : ¬(cx - radius ≤ x ∧ x ≤ cx + radius)) :
    SameEarth r (r.compact cx radius) x := by
  obtain ⟨_, hh, ha, hc⟩ := r.foldl_packColumn (r.columnsAround cx radius).toList
  refine SameEarth.of_column hh ?_
  rintro n rfl
  have hout : n ∉ r.columnsAround cx radius := fun hm => far (by
    have := mem_columnsAround hm
    omega)
  constructor
  · -- Packing leaves the whole index to the scan that follows it.
    rw [compact, heightAt_rescan, if_neg fun hm => hout hm.1, ha]
  · intro y
    rw [compact, cell_rescan, hc n y fun hm => hout (Span.mem_toList.1 hm)]

variable {r} in
/-- Levelling changes the columns of its footprint only. -/
theorem level_sameEarth {r' : Raster} {half : Int} (h : r.level cx half = .ok r')
    (far : ¬(cx - half ≤ x ∧ x ≤ cx + half)) : SameEarth r r' x := by
  obtain rfl | ⟨ground, _, rfl⟩ := level_cases h
  · exact .refl _ x
  · exact r.repaint_rescan_sameEarth _ _ _ _ far

end Reach

/-! ## Tanks are drawn around the earth -/

section Drawing

variable (r : Raster) (x : Int)

/-- Erasing the tanks changes no earth. -/
theorem eraseActors_sameEarth : SameEarth r r.eraseActors x := by
  refine SameEarth.of_column rfl fun n _ => ⟨rfl, fun y => ?_⟩
  rw [eraseActors, cell_mapRows]
  split
  · split
    · rename_i ha
      rw [Cell.earth_eq_none (Cell.isTerrain_sky r.height y),
        Cell.earth_eq_none (Cell.not_isTerrain_of_isActor ha)]
    · rfl
  · rfl

/-- Drawing a tank changes none. -/
theorem stampActor_sameEarth (id : ActorId) (cx ground : Int) :
    SameEarth r (r.stampActor id cx ground) x := by
  unfold stampActor
  split
  · rename_i hid
    refine SameEarth.of_column rfl fun n _ => ⟨rfl, fun y => ?_⟩
    rw [cell_repaint]
    split
    · by_cases hv : Cell.isTerrain (r.cell n y) = true
      · rw [if_pos hv]
      · -- Where there is no terrain, drawing makes none.
        have hdrawn := isTerrain_drawn hid (n - cx) (ground - y) (r.cell n y)
        rw [Bool.not_eq_true] at hv
        rw [Cell.earth_eq_none hv]
        exact Cell.earth_eq_none (hdrawn.trans hv)
    · rfl
  · exact .refl r x

/-- So drawing them all anew changes none. -/
theorem stampActors_sameEarth (actors : List Actor) : SameEarth r (r.stampActors actors) x := by
  unfold stampActors
  apply (r.eraseActors_sameEarth x).trans
  -- The living are drawn one over the other, each around the earth that is there.
  generalize r.eraseActors = drawn
  induction actors.filter Actor.alive generalizing drawn with
  | nil => exact .refl drawn x
  | cons a as ih => exact (drawn.stampActor_sameEarth x a.id a.x a.y).trans (ih _)

end Drawing

/-! ## Earth is moved around the tanks -/

section Digging

variable (r : Raster) (x y : Nat)

/-- A rule that leaves tanks alone leaves all tanks alone. -/
theorem repaint_tank (xs ys : Span) {rule : Nat → Nat → UInt8 → UInt8}
    (hr : ∀ x y v, Cell.tank (rule x y v) = Cell.tank v) :
    Cell.tank ((r.repaint xs ys rule).cell x y) = Cell.tank (r.cell x y) := by
  rw [cell_repaint]
  split
  · exact hr x y _
  · rfl

/-- A crater leaves the pixels of the tanks. -/
theorem crater_tank (cx cy radius : Int) :
    Cell.tank ((r.crater cx cy radius).cell x y) = Cell.tank (r.cell x y) := by
  apply repaint_tank
  intro x y v
  split
  · exact Cell.tank_dug r.height y v
  · rfl

/-- So does a disc of earth. -/
theorem fillDisc_tank (cx cy radius : Int) :
    Cell.tank ((r.fillDisc cx cy radius).cell x y) = Cell.tank (r.cell x y) := by
  apply repaint_tank
  intro x y v
  split
  · exact Cell.tank_filled r.height y v
  · rfl

/-- So does a tower. -/
theorem raiseTower_tank (cx foot height : Int) :
    Cell.tank ((r.raiseTower cx foot height).cell x y) = Cell.tank (r.cell x y) :=
  r.repaint_tank x y _ _ fun _ y v => Cell.tank_filled r.height y v

/-- So does a tunnel. -/
theorem digTunnel_tank (cx mouth depth : Int) (down : Bool) :
    Cell.tank ((r.digTunnel cx mouth depth down).cell x y) = Cell.tank (r.cell x y) :=
  r.repaint_tank x y _ _ fun _ y v => Cell.tank_dug r.height y v

/-- Packing moves earth about in a column, and leaves the tanks in their rows. -/
theorem packed_tanks {height : Nat} {cells : List (Nat × UInt8)} {loose : List UInt8}
    (hl : ∀ v ∈ loose, Cell.isTerrain v = true) :
    (packed height cells loose).map (fun c => (c.1, Cell.tank c.2)) =
      cells.map fun c => (c.1, Cell.tank c.2) := by
  fun_induction packed height cells loose with
  | case1 => rfl
  | case2 loose y v cells hv ih => rw [List.map_cons, List.map_cons, ih hl]
  | case3 y v cells hv earth loose ih =>
    -- The row gets earth, and what it had was no tank, or the row would have been passed over.
    rw [List.forall_mem_cons] at hl
    rw [List.map_cons, List.map_cons, ih hl.2, Cell.tank_of_isTerrain hl.1,
      Cell.tank_eq_none (Bool.eq_false_iff.2 hv)]
  | case4 y v cells hv ih => rw [List.map_cons, List.map_cons, ih hl, Cell.tank_dug]

/-- Packing a column leaves the tanks in it. -/
theorem packColumn_tank (n : Nat) :
    Cell.tank ((r.packColumn n).cell x y) = Cell.tank (r.cell x y) := by
  -- The column is written cell by cell, and each write has to keep the tank of its row.
  apply foldModify_get (P := fun x y v => Cell.tank v = Cell.tank (r.cell x y)) fun _ _ => rfl
  intro c hc
  -- A cell that is laid down has the tank of the cell that was in its row.
  have hloose : ∀ v ∈ ((r.columnUp n).map Prod.snd).filter Cell.isTerrain,
      Cell.isTerrain v = true := fun v hv => (List.mem_filter.1 hv).2
  have hm := List.mem_map_of_mem (f := fun c => (c.1, Cell.tank c.2)) hc
  rw [packed_tanks hloose, List.mem_map] at hm
  obtain ⟨d, hd, he⟩ := hm
  obtain ⟨hrow, htank⟩ := Prod.mk.inj he
  obtain ⟨row, _, rfl⟩ := List.mem_map.1 hd
  rw [← htank, ← hrow]

/-- So earth falls past the tanks. -/
theorem compact_tank (cx radius : Int) :
    Cell.tank ((r.compact cx radius).cell x y) = Cell.tank (r.cell x y) := by
  rw [compact, cell_rescan]
  generalize (r.columnsAround cx radius).toList = xs
  induction xs generalizing r with
  | nil => rfl
  | cons n xs ih => exact (ih (r.packColumn n)).trans (r.packColumn_tank x y n)

end Digging

end Raster

end Artillery
