import Artillery.Raster.Earthwork
import Artillery.Raster.Silhouette

/-!
# Ground rows

The ground row of a column is its first terrain row in the playfield, or the height of the raster
where there is none.  `Raster.IsGround` says this without a scan; `Grid.groundRow` is the scan that
finds it, and `Raster.indexed_iff` reads the index of a raster through it.

## Key results

- `isGround_groundRow`: the scan finds the ground row
- `IsGround.unique`: a column has one ground row
- `heightAt_rescan`: what a rescan does to the index, column by column
- `indexed_rescan`: a rescan restores the index when it covers every column that went stale
- `ext_cells`: a raster is its cells and its index
-/

namespace Artillery

/-- A span lists its members. -/
theorem Span.mem_toList {xs : Span} {x : Nat} : x ∈ xs.toList ↔ x ∈ xs := by
  simp only [Span.toList, List.mem_range'_1, Span.size, Span.mem_iff]
  omega

namespace Grid

variable {w h : Nat}

/-- Inside the grid a cell is found where it lies. -/
theorem get_of_lt (g : Grid w h) {x y : Nat} (hx : x < w) (hy : y < h) :
    g.get x y = g.rows[y][x] := dif_pos ⟨hx, hy⟩

section Scan

variable (g : Grid w h) {x : Nat} (column : x < w)

/-- The scan of a column answers with one of the rows it is given, or the row after them. -/
theorem le_firstTerrain (y n : Nat) (room : y + n ≤ h) :
    y ≤ g.firstTerrain x column y n room ∧ g.firstTerrain x column y n room ≤ y + n := by
  induction n generalizing y with
  | zero => simp [firstTerrain]
  | succ n ih =>
    rw [firstTerrain]
    split
    · omega
    · have := ih (y + 1) (by omega)
      omega

/-- Above the row that the scan answers with there is no terrain. -/
theorem not_isTerrain_of_lt_firstTerrain (y n : Nat) (room : y + n ≤ h) (y' : Nat) (hy : y ≤ y')
    (hlt : y' < g.firstTerrain x column y n room) : ¬Cell.isTerrain (g.get x y') := by
  induction n generalizing y with
  | zero =>
    rw [firstTerrain] at hlt
    omega
  | succ n ih =>
    rw [firstTerrain] at hlt
    split at hlt
    · omega
    · rename_i hnot
      -- The row itself has just been looked at; for those below it the scan goes on.
      by_cases he : y' = y
      · rw [he, g.get_of_lt column (by omega)]
        exact hnot
      · exact ih (y + 1) (by omega) (by omega) hlt

/-- A scan that stops early has found terrain. -/
theorem isTerrain_firstTerrain (y n : Nat) (room : y + n ≤ h)
    (hlt : g.firstTerrain x column y n room < y + n) :
    Cell.isTerrain (g.get x (g.firstTerrain x column y n room)) := by
  induction n generalizing y with
  | zero =>
    rw [firstTerrain] at hlt
    omega
  | succ n ih =>
    rw [firstTerrain] at hlt ⊢
    -- It stops at terrain, or goes on with the next row.
    split
    · rw [g.get_of_lt column (by omega)]
      assumption
    · rename_i hnot
      rw [if_neg hnot] at hlt
      exact ih (y + 1) (by omega) (by omega)

end Scan

/-- Grids with the same cells are equal. -/
theorem ext_get {g g' : Grid w h}
    (hget : ∀ x y, x < w → y < h → g.get x y = g'.get x y) : g = g' := by
  obtain ⟨rows⟩ := g
  obtain ⟨rows'⟩ := g'
  congr 1
  refine Vector.ext fun y hy => Vector.ext fun x hx => ?_
  simpa [get, hx, hy] using hget x y hx hy

end Grid

namespace Raster

/-! ## What the building blocks of the operations do -/

/-- Repainting keeps width, height and index. -/
@[simp] theorem width_repaint (r : Raster) (xs ys : Span) (rule : Nat → Nat → UInt8 → UInt8) :
    (r.repaint xs ys rule).width = r.width := rfl

@[simp] theorem height_repaint (r : Raster) (xs ys : Span) (rule : Nat → Nat → UInt8 → UInt8) :
    (r.repaint xs ys rule).height = r.height := rfl

@[simp] theorem heightAt_repaint (r : Raster) (xs ys : Span) (rule : Nat → Nat → UInt8 → UInt8)
    (x : Int) : (r.repaint xs ys rule).heightAt x = r.heightAt x := rfl

/-- `repaint` repaints the cells of its rectangle, each by the value it had before. -/
theorem cell_repaint (r : Raster) (xs ys : Span) (rule : Nat → Nat → UInt8 → UInt8) (x y : Nat) :
    (r.repaint xs ys rule).cell x y =
      if x ∈ xs ∧ y ∈ ys ∧ x < r.width ∧ y < r.height then rule x y (r.cell x y)
      else r.cell x y :=
  r.grid.get_repaint xs ys x y rule

/-- So does repainting by rows. -/
@[simp] theorem width_mapRows (r : Raster) (rule : Nat → UInt8 → UInt8) :
    (r.mapRows rule).width = r.width := rfl

@[simp] theorem height_mapRows (r : Raster) (rule : Nat → UInt8 → UInt8) :
    (r.mapRows rule).height = r.height := rfl

@[simp] theorem heightAt_mapRows (r : Raster) (rule : Nat → UInt8 → UInt8) (x : Int) :
    (r.mapRows rule).heightAt x = r.heightAt x := rfl

/-- `mapRows` repaints every cell by the rule of its row. -/
theorem cell_mapRows (r : Raster) (rule : Nat → UInt8 → UInt8) (x y : Nat) :
    (r.mapRows rule).cell x y =
      if x < r.width ∧ y < r.height then rule y (r.cell x y) else r.cell x y :=
  r.grid.get_mapRows x y rule

/-- A scan keeps width, height and cells. -/
@[simp] theorem width_rescan (r : Raster) (xs : Span) : (r.rescan xs).width = r.width := rfl

@[simp] theorem height_rescan (r : Raster) (xs : Span) : (r.rescan xs).height = r.height := rfl

@[simp] theorem cell_rescan (r : Raster) (xs : Span) (x y : Nat) :
    (r.rescan xs).cell x y = r.cell x y := rfl

/-- Outside the raster every cell is empty. -/
theorem cell_of_not_lt (r : Raster) {x y : Nat} (out : ¬(x < r.width ∧ y < r.height)) :
    r.cell x y = 0 :=
  r.grid.get_of_not_lt out

/-- The index of a column of the raster, read as a row. -/
theorem heightAt_of_lt (r : Raster) {x : Nat} (hx : x < r.width) :
    r.heightAt x = (r.heights[x] : Int) := by
  simp [heightAt, hx]

/-- A column outside the raster has no ground. -/
theorem heightAt_of_not_lt (r : Raster) {x : Nat} (hx : ¬x < r.width) :
    r.heightAt x = r.height := by
  simp [heightAt, hx]

/-- Off the raster there is no ground. -/
theorem heightAt_of_off {r : Raster} {x : Int} (off : ¬(0 ≤ x ∧ x < r.width)) :
    r.heightAt x = r.height := by
  unfold heightAt
  rw [dif_neg]
  omega

/-- After `n` columns have been scanned, exactly those have their ground row in the index. -/
private theorem getElem_foldScan {w : Nat} (heights : Vector Nat w) (scan : Nat → Nat)
    (s n x : Nat) (hx : x < w) :
    (n.fold (fun i _ heights =>
      if bound : s + i < w then heights.set (s + i) (scan (s + i)) else heights) heights)[x] =
      if s ≤ x ∧ x < s + n then scan x else heights[x] := by
  induction n with
  | zero =>
    rw [if_neg (by omega)]
    rfl
  | succ n ih =>
    rw [Nat.fold_succ]
    -- The last column of the span may lie beyond the raster, and is left out then.
    by_cases hn : s + n < w
    · rw [dif_pos hn, Vector.getElem_set]
      by_cases he : s + n = x
      · subst he
        rw [if_pos rfl, if_pos (by omega)]
      · rw [if_neg he, ih]
        congr 1
        simp only [eq_iff_iff]
        omega
    · rw [dif_neg hn, ih]
      congr 1
      simp only [eq_iff_iff]
      omega

/-- `rescan` looks up the ground rows of its columns and leaves all others alone. -/
theorem heightAt_rescan (r : Raster) (xs : Span) (x : Nat) :
    (r.rescan xs).heightAt x =
      if x ∈ xs ∧ x < r.width then (r.grid.groundRow x : Int) else r.heightAt x := by
  by_cases hx : x < r.width
  · rw [heightAt_of_lt _ (by simpa using hx), heightAt_of_lt _ hx]
    simp only [rescan, getElem_foldScan, Span.mem_iff, Span.size, hx, and_true]
    split <;> split <;> first | rfl | omega
  · rw [if_neg fun h => hx h.2, heightAt_of_not_lt _ hx]
    exact heightAt_of_not_lt (r.rescan xs) hx

/-! ## The ground row of a column -/

/-- Row `y` is the ground row of column `x`: the first terrain row of the playfield, or the height
of the raster if the playfield has no terrain there. -/
def IsGround (r : Raster) (x y : Nat) : Prop :=
  (y = r.height ∨ playfieldTop ≤ y ∧ y < r.height ∧ Cell.isTerrain (r.cell x y)) ∧
    ∀ y', playfieldTop ≤ y' → y' < y → ¬Cell.isTerrain (r.cell x y')

/-- The scan of a column finds its ground row. -/
theorem isGround_groundRow (r : Raster) (x : Nat) : r.IsGround x (r.grid.groundRow x) := by
  unfold Grid.groundRow
  dsimp only
  split
  · rename_i hx
    -- A raster with fewer rows than the display has no row to scan.
    have hroom : min playfieldTop r.height + (r.height - min playfieldTop r.height) ≤ r.height := by
      omega
    have hle := r.grid.le_firstTerrain hx (min playfieldTop r.height)
      (r.height - min playfieldTop r.height) hroom
    constructor
    · by_cases hlt : r.grid.firstTerrain x hx (min playfieldTop r.height)
          (r.height - min playfieldTop r.height) hroom < r.height
      · exact .inr ⟨by omega, hlt, r.grid.isTerrain_firstTerrain hx _ _ hroom (by omega)⟩
      · exact .inl (by omega)
    · intro y' hy hlt
      exact r.grid.not_isTerrain_of_lt_firstTerrain hx _ _ hroom y' (by omega) hlt
  · -- Beside the raster no cell is terrain.
    rename_i hx
    refine ⟨.inl rfl, fun y' _ _ hterrain => ?_⟩
    rw [r.cell_of_not_lt fun hc => hx hc.1] at hterrain
    exact nomatch hterrain

/-- A column has one ground row. -/
theorem IsGround.unique {r : Raster} {x y z : Nat} (hy : r.IsGround x y) (hz : r.IsGround x z) :
    y = z := by
  obtain ⟨hy, hyfree⟩ := hy
  obtain ⟨hz, hzfree⟩ := hz
  -- Of two different ones, the upper one would be terrain above the lower one.
  rcases Nat.lt_trichotomy y z with hlt | he | hlt
  · obtain rfl | ⟨htop, _, ht⟩ := hy
    · omega
    · exact absurd ht (hzfree y htop hlt)
  · exact he
  · obtain rfl | ⟨htop, _, ht⟩ := hz
    · omega
    · exact absurd ht (hyfree z htop hlt)

/-- A ground row is not below the raster. -/
theorem IsGround.le_height {r : Raster} {x y : Nat} (hg : r.IsGround x y) : y ≤ r.height := by
  obtain rfl | ⟨_, hlt, _⟩ := hg.1
  · exact Nat.le_refl _
  · exact Nat.le_of_lt hlt

/-- The ground row depends only on which cells of the column are terrain. -/
theorem IsGround.congr {r r' : Raster} {x y : Nat} (hg : r.IsGround x y)
    (hh : r'.height = r.height)
    (hc : ∀ y, playfieldTop ≤ y → y < r.height →
      Cell.isTerrain (r'.cell x y) = Cell.isTerrain (r.cell x y)) :
    r'.IsGround x y := by
  have hle := hg.le_height
  obtain ⟨hy, hfree⟩ := hg
  constructor
  · -- Ground that lies below all rows does so in the other raster too.
    obtain rfl | ⟨htop, hlt, ht⟩ := hy
    · exact .inl hh.symm
    · exact .inr ⟨htop, hh ▸ hlt, by rw [hc y htop hlt]; exact ht⟩
  · intro y' htop hlt
    rw [hc y' htop (by omega)]
    exact hfree y' htop hlt

/-! ## The index -/

/-- The index of a column agrees with its cells. -/
def ColumnIndexed (r : Raster) (x : Nat) : Prop := ∃ y : Nat, r.heightAt x = y ∧ r.IsGround x y

/-- A raster is indexed if all its columns are. -/
theorem indexed_iff (r : Raster) : r.Indexed ↔ ∀ x, x < r.width → r.ColumnIndexed x := by
  constructor
  · intro hi x hx
    exact ⟨_, by rw [heightAt_of_lt r hx, hi x hx], r.isGround_groundRow x⟩
  · intro hc x hx
    obtain ⟨y, hy, hg⟩ := hc x hx
    rw [heightAt_of_lt r hx] at hy
    rw [Int.ofNat.inj hy, hg.unique (r.isGround_groundRow x)]

/-- The ground row of an indexed column lies in the playfield or just below it. -/
theorem ColumnIndexed.bounds {r : Raster} {x : Nat} (hx : r.ColumnIndexed x)
    (hrows : (playfieldTop : Int) ≤ r.height) :
    (playfieldTop : Int) ≤ r.heightAt x ∧ r.heightAt x ≤ r.height := by
  obtain ⟨y, hy, hground, _⟩ := hx
  omega

/-- No ground row of an indexed raster lies below the raster. -/
theorem heightAt_le {r : Raster} (indexed : r.Indexed) (x : Int) : r.heightAt x ≤ r.height := by
  by_cases hcolumn : 0 ≤ x ∧ x < r.width
  · obtain ⟨n, rfl⟩ := Int.eq_ofNat_of_zero_le hcolumn.1
    obtain ⟨y, hy, hground, _⟩ := (indexed_iff r).1 indexed n (Int.ofNat_lt.1 hcolumn.2)
    omega
  · exact Int.le_of_eq (heightAt_of_off hcolumn)

/-- Above its ground row an indexed column has no terrain in the playfield. -/
theorem ColumnIndexed.isTerrain_above {r : Raster} {x y : Nat} (hx : r.ColumnIndexed x)
    (htop : playfieldTop ≤ y) (hy : (y : Int) < r.heightAt x) :
    Cell.isTerrain (r.cell x y) = false := by
  obtain ⟨ground, hground, _, hfree⟩ := hx
  exact Bool.eq_false_iff.2 (hfree y htop (by omega))

/-- A column stays indexed while neither its index nor its terrain changes. -/
theorem ColumnIndexed.congr {r r' : Raster} {x : Nat} (hx : r.ColumnIndexed x)
    (hh : r'.height = r.height) (ha : r'.heightAt x = r.heightAt x)
    (hc : ∀ y, playfieldTop ≤ y → y < r.height →
      Cell.isTerrain (r'.cell x y) = Cell.isTerrain (r.cell x y)) :
    r'.ColumnIndexed x := by
  obtain ⟨y, hy, hg⟩ := hx
  exact ⟨y, ha.trans hy, hg.congr hh hc⟩

/-- A rescan restores the index when it covers every column that has gone stale. -/
theorem indexed_rescan {r : Raster} {xs : Span}
    (fresh : ∀ x, x < r.width → x ∉ xs → r.ColumnIndexed x) : (r.rescan xs).Indexed := by
  rw [indexed_iff]
  intro x hx
  by_cases hm : x ∈ xs
  · exact ⟨r.grid.groundRow x, by rw [heightAt_rescan, if_pos ⟨hm, hx⟩], r.isGround_groundRow x⟩
  · refine (fresh x hx hm).congr rfl ?_ fun y _ _ => rfl
    rw [heightAt_rescan, if_neg fun h => hm h.1]

/-- Rasters of the same size with the same cells and the same index are equal. -/
theorem ext_cells {r r' : Raster} (hwidth : r'.width = r.width) (hheight : r'.height = r.height)
    (hcell : ∀ x y, x < r.width → y < r.height → r'.cell x y = r.cell x y)
    (hground : ∀ x : Nat, x < r.width → r'.heightAt x = r.heightAt x) : r' = r := by
  obtain ⟨width, height, grid, heights⟩ := r
  obtain ⟨width', height', grid', heights'⟩ := r'
  -- Once the sizes are the same the cells and the index can be compared.
  subst hwidth hheight
  congr 1
  · exact Grid.ext_get hcell
  · refine Vector.ext fun x hx => ?_
    have hrow := hground x hx
    rw [heightAt_of_lt _ hx, heightAt_of_lt _ hx] at hrow
    exact Int.ofNat.inj hrow

end Raster

end Artillery
