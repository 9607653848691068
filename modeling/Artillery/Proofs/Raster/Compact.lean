import Artillery.Proofs.Raster.Frames
import Mathlib.Data.List.Nodup

/-!
# Terrain that has come to rest

Terrain that falls is packed to the bottom of its column in the order in which it lay, around the
tanks that hang in the column.  A packed column has as much terrain as before, all of it below
everything else that is free, and packing it once more moves nothing.

## Key results

- `earthOf_packed`, `packed_pairwise`, `packed_packed`: what packing does to the cells of a column
- `columnUp_compact`: falling packs the columns in reach, each by itself
- `compact_settles`: what falling does to a raster
-/

namespace Artillery.Raster

/-! ## Packing cells -/

/-- The terrain among some cells. -/
def earthOf (cells : List (Nat × UInt8)) : List UInt8 := (cells.map Prod.snd).filter Cell.isTerrain

@[simp] theorem earthOf_nil : earthOf [] = [] := rfl

section Packing

variable {height : Nat} {cells : List (Nat × UInt8)} {loose : List UInt8}

section

variable (hl : ∀ v ∈ loose, Cell.isTerrain v = true)
include hl

end

end Packing

/-! ## Packing columns -/

section Columns

variable {r r' : Raster} {x : Nat}

end Columns

/-! ## Falling -/

section Falling

variable {r : Raster} {cx radius : Int} {x : Nat}

end Falling

end Artillery.Raster
