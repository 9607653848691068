import Artillery.Proofs.Raster.Frames
import Mathlib.Algebra.Order.BigOperators.Group.List
import Mathlib.Algebra.Order.Ring.Int
import Mathlib.Data.List.Basic

/-!
# Levelled ground

Levelling moves the ground rows of a footprint to their mean: above it nothing is left, and from it
down everything is filled.  What it does not fill are the pixels of tanks, so that ground under
which a tank is drawn stays hollow there.

## Key results

- `cell_level`, `isTerrain_level`: what a levelled column shows
- `level_columnIndexed`: its ground row is that of its cells
- `ColumnIndexed.solid_iff`: when a column that has been filled around some cells is solid from a
  row down
- `meanRow_bounds`, `meanRow_eq`, `meanRow_lt`: where the mean of ground rows lies, that of
  equal ones, and that of some with one above the others
- `level_solidFrom`: a levelled column without tanks is solid from the level down
-/

namespace Artillery.Raster

/-! ## The earth of a column -/

/-- On the raster a sample is the cell. -/
theorem sample_natCast (r : Raster) (x y : Nat) : r.sample x y = r.cell x y := by
  simp [sample]

/-- The same earth is terrain in the same cells. -/
theorem SameEarth.isTerrain {r r' : Raster} {x : Nat} (h : SameEarth r r' x) (y : Nat) :
    Cell.isTerrain (r'.cell x y) = Cell.isTerrain (r.cell x y) := by
  have hcell := h.cells y
  rw [sample_natCast, sample_natCast] at hcell
  have hsome (v : UInt8) : (Cell.earth v).isSome = Cell.isTerrain v := by
    unfold Cell.earth
    cases Cell.isTerrain v <;> rfl
  rw [← hsome, ← hsome, hcell]

/-- The same tanks are actors in the same cells. -/
theorem isActor_of_tank {v w : UInt8} (h : Cell.tank v = Cell.tank w) :
    Cell.isActor v = Cell.isActor w := by
  have hsome (v : UInt8) : (Cell.tank v).isSome = Cell.isActor v := by
    unfold Cell.tank
    cases Cell.isActor v <;> rfl
  rw [← hsome, ← hsome, h]

/-- A column stays indexed while its earth is the same. -/
theorem SameEarth.columnIndexed {r r' : Raster} {x : Nat} (h : SameEarth r r' x)
    (hh : r'.height = r.height) (hx : r.ColumnIndexed x) : r'.ColumnIndexed x :=
  hx.congr hh h.ground fun y _ _ => h.isTerrain y

/-! ## The mean of some ground rows -/

/-- The mean of a span is that of its columns. -/
theorem meanRow_eq_sum (r : Raster) (xs : Span) :
    r.meanRow xs = (xs.toList.map fun x : Nat => r.heightAt x).sum / xs.toList.length := by
  unfold meanRow sumHeights
  rw [List.sum_eq_foldl, List.foldl_map]
  simp [Span.toList]

/-- A mean lies where the ground rows lie. -/
theorem meanRow_bounds {r : Raster} {xs : Span} {lo hi : Int} (hne : ∃ x, x ∈ xs)
    (hrow : ∀ x : Nat, x ∈ xs → lo ≤ r.heightAt x ∧ r.heightAt x ≤ hi) :
    lo ≤ r.meanRow xs ∧ r.meanRow xs ≤ hi := by
  obtain ⟨x, hx⟩ := hne
  have hpos := List.length_pos_of_mem (Span.mem_toList.2 hx)
  have hall : ∀ row ∈ xs.toList.map fun x : Nat => r.heightAt x, lo ≤ row ∧ row ≤ hi := by
    simpa [Span.mem_toList] using hrow
  have hlow := List.card_nsmul_le_sum _ lo fun row hrow => (hall row hrow).1
  have hhigh := List.sum_le_card_nsmul _ hi fun row hrow => (hall row hrow).2
  rw [List.length_map, Int.nsmul_eq_mul, mul_comm] at hlow hhigh
  rw [meanRow_eq_sum]
  exact ⟨(Int.le_ediv_iff_mul_le (by omega)).2 hlow, Int.ediv_le_of_le_mul (by omega) hhigh⟩

/-- The mean of equal ground rows. -/
theorem meanRow_eq {r : Raster} {xs : Span} {row : Int} (hne : ∃ x, x ∈ xs)
    (hrow : ∀ x : Nat, x ∈ xs → r.heightAt x = row) : r.meanRow xs = row := by
  have hbounds := meanRow_bounds hne fun x hx => ⟨(hrow x hx).ge, (hrow x hx).le⟩
  omega

/-- The mean of ground rows of which one lies higher than the others. -/
theorem meanRow_lt {r : Raster} {xs : Span} {row : Int}
    (hrow : ∀ x : Nat, x ∈ xs → r.heightAt x ≤ row)
    (hlow : ∃ x : Nat, x ∈ xs ∧ r.heightAt x < row) : r.meanRow xs < row := by
  obtain ⟨x, hx, hlt⟩ := hlow
  have hpos := List.length_pos_of_mem (Span.mem_toList.2 hx)
  have hsum := List.sum_lt_sum (l := xs.toList) (fun x : Nat => r.heightAt x) (fun _ => row)
    (fun x hx => hrow x (Span.mem_toList.1 hx)) ⟨x, Span.mem_toList.2 hx, hlt⟩
  rw [List.map_const', List.sum_replicate, Int.nsmul_eq_mul, mul_comm] at hsum
  rw [meanRow_eq_sum]
  exact Int.ediv_lt_of_lt_mul (by omega) hsum

/-! ## Levelling -/

/-- The row to which the ground of a footprint is levelled: the mean of its ground rows, as far as
it lies in the playfield. -/
def groundLevel (r : Raster) (cx half : Int) : Int :=
  max playfieldTop (min (r.meanRow (r.columnsFrom (cx - half) (cx + half))) r.height)

/-- The mean of ground rows lies in the playfield. -/
theorem groundLevel_bounds {r : Raster} (rows : (playfieldTop : Int) ≤ r.height) (cx half : Int) :
    (playfieldTop : Int) ≤ r.groundLevel cx half ∧ r.groundLevel cx half ≤ r.height := by
  unfold groundLevel
  omega

/-- The level depends on the ground rows of the footprint only. -/
theorem groundLevel_congr {r r' : Raster} {cx half : Int}
    (hsize : r'.width = r.width ∧ r'.height = r.height)
    (hground : ∀ x : Nat, cx - half ≤ x → x ≤ cx + half → r'.heightAt x = r.heightAt x) :
    r'.groundLevel cx half = r.groundLevel cx half := by
  unfold groundLevel meanRow sumHeights columnsFrom
  rw [hsize.1, hsize.2]
  -- The sum is over the columns of the footprint only.
  have hsum : (Span.clipped (cx - half) (cx + half) r.width).toList.foldl
        (fun (sum : Int) (x : Nat) => sum + r'.heightAt x) 0 =
      (Span.clipped (cx - half) (cx + half) r.width).toList.foldl
        (fun (sum : Int) (x : Nat) => sum + r.heightAt x) 0 := by
    apply List.foldl_ext
    intro sum x hx
    obtain ⟨hlo, hhi, _⟩ := Span.mem_clipped.1 (Span.mem_toList.1 hx)
    rw [hground x hlo hhi]
  rw [hsum]

section Level

variable {r r' : Raster} {cx half : Int} (h : r.level cx half = .ok r')
include h

/-- Levelling a footprint that has columns on the raster. -/
theorem level_eq {x : Nat} (hx : x ∈ r.columnsFrom (cx - half) (cx + half)) :
    (playfieldTop : Int) ≤ r.height ∧
      r' = (r.repaint (r.columnsFrom (cx - half) (cx + half)) r.playfield fun _ y v =>
        if (y : Int) < r.groundLevel cx half then dug r.height y v else filled r.height y v).rescan
          (r.columnsFrom (cx - half) (cx + half)) := by
  have hsize : (r.columnsFrom (cx - half) (cx + half)).size ≠ 0 := by
    have hbounds := Span.mem_iff.1 hx
    unfold Span.size
    omega
  simp only [level, dif_neg hsize, meanHeight_eq] at h
  obtain ⟨ground, hclamp, h⟩ := Fault.bind_ok h
  obtain ⟨rows, rfl⟩ := le_of_clampInt hclamp
  exact ⟨rows, (Except.ok.inj h).symm⟩

variable {x : Nat} (hx : cx - half ≤ x ∧ x ≤ cx + half) (hw : x < r.width)
include hx hw

/-- In a levelled column everything is cut above the level and filled from there down. -/
theorem cell_level {y : Nat} (htop : playfieldTop ≤ y) (hy : y < r.height) :
    r'.cell x y = if (y : Int) < r.groundLevel cx half then dug r.height y (r.cell x y)
      else filled r.height y (r.cell x y) := by
  have hm : x ∈ r.columnsFrom (cx - half) (cx + half) := Span.mem_clipped.2 ⟨hx.1, hx.2, hw⟩
  obtain ⟨_, rfl⟩ := level_eq h hm
  have hrow : y ∈ r.playfield := Span.mem_iff.2 ⟨htop, hy⟩
  rw [cell_rescan, cell_repaint, if_pos ⟨hm, hrow, hw, hy⟩]

/-- In a levelled column terrain is what lies from the level down except for the pixels of tanks. -/
theorem isTerrain_level {y : Nat} (htop : playfieldTop ≤ y) (hy : y < r.height) :
    Cell.isTerrain (r'.cell x y) = true ↔
      r.groundLevel cx half ≤ y ∧ Cell.isActor (r.cell x y) = false := by
  rw [cell_level h hx hw htop hy]
  by_cases hlow : (y : Int) < r.groundLevel cx half
  · -- Above the level all terrain is cut.
    rw [if_pos hlow, Cell.isTerrain_dug]
    exact iff_of_false Bool.false_ne_true fun hc => by omega
  · -- From the level down everything is filled that is not a tank.
    have hle : r.groundLevel cx half ≤ y := by omega
    simp [hlow, hle]

/-- The ground row of a levelled column is looked up anew. -/
theorem level_columnIndexed : r'.ColumnIndexed x := by
  have hm : x ∈ r.columnsFrom (cx - half) (cx + half) := Span.mem_clipped.2 ⟨hx.1, hx.2, hw⟩
  obtain ⟨_, rfl⟩ := level_eq h hm
  refine ⟨_, ?_, isGround_groundRow _ x⟩
  rw [heightAt_rescan, if_pos ⟨hm, hw⟩]
  rfl

end Level

/-- Levelling leaves all tanks alone. -/
theorem level_tank {r r' : Raster} {cx half : Int} (h : r.level cx half = .ok r') (x y : Nat) :
    Cell.tank (r'.cell x y) = Cell.tank (r.cell x y) := by
  obtain rfl | ⟨ground, _, rfl⟩ := level_cases h
  · rfl
  · rw [cell_rescan]
    apply repaint_tank
    intro x y v
    split
    · exact Cell.tank_dug r.height y v
    · exact Cell.tank_filled r.height y v

/-! ## Solid columns -/

/-- A column that has been filled from a level down, except for some of its cells. -/
def FilledAround (r : Raster) (x : Nat) (level : Int) (left : Nat → Prop) : Prop :=
  ∀ y, playfieldTop ≤ y → y < r.height →
    (Cell.isTerrain (r.cell x y) = true ↔ level ≤ y ∧ ¬left y)

/-- The ground row of a column is a given one, and from there down all is terrain. -/
def SolidFrom (r : Raster) (x : Nat) (row : Int) : Prop :=
  r.heightAt x = row ∧ ∀ y : Nat, row ≤ y → y < r.height → Cell.isTerrain (r.cell x y) = true

theorem FilledAround.congr {r r' : Raster} {x : Nat} {level : Int} {left : Nat → Prop}
    (hf : r.FilledAround x level left) (same : SameEarth r r' x) (hh : r'.height = r.height) :
    r'.FilledAround x level left := by
  intro y htop hy
  rw [same.isTerrain y]
  exact hf y htop (hh ▸ hy)

section Solid

variable {r : Raster} {x : Nat} {level row : Int} {left : Nat → Prop} (hx : r.ColumnIndexed x)
  (hfilled : r.FilledAround x level left)
include hx hfilled

omit hfilled in
/-- The ground row of an indexed column is within the raster. -/
theorem ColumnIndexed.heightAt_le : r.heightAt x ≤ r.height := by
  obtain ⟨y, hy, hground, _⟩ := hx
  omega

/-- The ground row of such a column lies at the level or below it. -/
theorem ColumnIndexed.level_le (hheight : level ≤ r.height) : level ≤ r.heightAt x := by
  obtain ⟨y, hy, hground, _⟩ := hx
  rw [hy]
  obtain rfl | ⟨hplay, hlt, hterrain⟩ := hground
  · exact hheight
  · exact ((hfilled y hplay hlt).1 hterrain).1

/-- A column that has been filled around some cells is solid from a row down if these cells are
exactly the ones between the level and that row. -/
theorem ColumnIndexed.solid_iff (htop : (playfieldTop : Int) ≤ level) (hlevel : level ≤ row)
    (hrow : row ≤ r.height) :
    r.SolidFrom x row ↔ ∀ y : Nat, level ≤ y → y < r.height → (left y ↔ (y : Int) < row) := by
  obtain ⟨ground, hheight, hground⟩ := hx
  constructor
  · rintro ⟨hat, hsolid⟩ y hly hy
    have hplay : playfieldTop ≤ y := by omega
    have hcell := hfilled y hplay hy
    constructor
    · intro hleft
      by_contra hbelow
      exact (hcell.1 (hsolid y (by omega) hy)).2 hleft
    · intro habove
      by_contra hfree
      -- The first terrain row of the column is not above itself.
      exact hground.2 y hplay (by omega) (hcell.2 ⟨hly, hfree⟩)
  · intro hleft
    have hsolid : ∀ y : Nat, row ≤ y → y < r.height → Cell.isTerrain (r.cell x y) = true := by
      intro y hry hy
      refine (hfilled y (by omega) hy).2 ⟨by omega, fun hl => ?_⟩
      have := (hleft y (by omega) hy).1 hl
      omega
    refine ⟨?_, hsolid⟩
    have hisground : r.IsGround x row.toNat := by
      constructor
      · by_cases hend : row = r.height
        · exact .inl (by omega)
        · exact .inr ⟨by omega, by omega, hsolid _ (by omega) (by omega)⟩
      · intro y hplay hy hterrain
        obtain ⟨hly, hfree⟩ := (hfilled y hplay (by omega)).1 hterrain
        exact hfree ((hleft y hly (by omega)).2 (by omega))
    have hsame := hground.unique hisground
    omega

end Solid

/-! ## Levelling where no tanks are drawn -/

/-- No pixel shows a tank. -/
def TankFree (r : Raster) : Prop := ∀ x y : Nat, Cell.isActor (r.cell x y) = false

/-- Levelling draws no tanks. -/
theorem TankFree.level {r r' : Raster} {cx half : Int} (free : r.TankFree)
    (h : r.level cx half = .ok r') : r'.TankFree := fun x y =>
  (isActor_of_tank (level_tank h x y)).trans (free x y)

/-- A levelled column that shows no tank in the playfield is solid from the level down. -/
theorem level_solidFrom {r r' : Raster} {cx half : Int} (h : r.level cx half = .ok r') {x : Nat}
    (hx : cx - half ≤ x ∧ x ≤ cx + half) (hw : x < r.width)
    (free : ∀ y, playfieldTop ≤ y → y < r.height → Cell.isActor (r.cell x y) = false) :
    r'.SolidFrom x (r.groundLevel cx half) := by
  obtain ⟨rows, _⟩ := level_eq h (Span.mem_clipped.2 ⟨hx.1, hx.2, hw⟩)
  obtain ⟨hlow, hhigh⟩ := groundLevel_bounds rows cx half
  have hsize := level_size h
  -- Filled around tanks, of which there are none, the column is solid from the level down.
  have hfilled : r'.FilledAround x (r.groundLevel cx half)
      fun y => Cell.isActor (r.cell x y) = true := by
    intro y htop hy
    rw [isTerrain_level h hx hw htop (hsize.2 ▸ hy), Bool.not_eq_true]
  refine ((level_columnIndexed h hx hw).solid_iff hfilled hlow (Int.le_refl _)
    (hsize.2 ▸ hhigh)).2 fun y hy hlt => ?_
  rw [free y (by omega) (hsize.2 ▸ hlt)]
  exact iff_of_false Bool.false_ne_true (by omega)

/-- Where no tanks are drawn all columns of a levelled footprint have the level as ground row. -/
theorem level_heightAt {r r' : Raster} {cx half : Int} (free : r.TankFree)
    (h : r.level cx half = .ok r') {x : Nat} (hx : cx - half ≤ x ∧ x ≤ cx + half)
    (hw : x < r.width) : r'.heightAt x = r.groundLevel cx half :=
  (level_solidFrom h hx hw fun y _ _ => free x y).1

end Artillery.Raster
