import Artillery.Raster.Grid
import Artillery.Fault

/-! # The raster

The terrain is a grid of cells, row by row from the top, together with an index: for each column the
first row of the playfield that is terrain, or the height of the raster if there is none.  The index
is a cache; `Raster.Indexed` says that it agrees with the cells, and every operation keeps it so.

All changes go through `repaint` and `mapRows`, which change cells by a rule that sees one cell at a
time, and `rescan`, which recomputes the index of some columns. -/

namespace Artillery

/-- A grid of cells with the ground row of each column. -/
structure Raster where
  width : Nat
  height : Nat
  grid : Grid width height
  heights : Vector Nat width
  deriving DecidableEq

namespace Raster

/-- The value of a cell. -/
def cell (r : Raster) (x y : Nat) : UInt8 := r.grid.get x y

/-- Whether a pixel lies on the raster. -/
def inBounds (r : Raster) (x y : Int) : Bool := 0 ≤ x ∧ x < r.width ∧ 0 ≤ y ∧ y < r.height

/-- The value at a pixel; outside the raster everything is empty. -/
def sample (r : Raster) (x y : Int) : UInt8 :=
  if 0 ≤ x ∧ 0 ≤ y then r.cell x.toNat y.toNat else 0

/-- The indexed ground row of a column; outside the raster there is no ground. -/
def heightAt (r : Raster) (x : Int) : Int :=
  if bound : 0 ≤ x ∧ x.toNat < r.width then
    have := bound.2
    r.heights[x.toNat]
  else r.height

/-- All columns. -/
def columns (r : Raster) : Span := ⟨0, r.width⟩

/-- All rows. -/
def rows (r : Raster) : Span := ⟨0, r.height⟩

/-- The rows terrain can be looked for in. -/
def playfield (r : Raster) : Span := ⟨playfieldTop, r.height⟩

/-- The columns of the raster from `lo` to `hi`. -/
def columnsFrom (r : Raster) (lo hi : Int) : Span := .clipped lo hi r.width

/-- The rows of the raster from `lo` to `hi`. -/
def rowsFrom (r : Raster) (lo hi : Int) : Span := .clipped lo hi r.height

/-- The rows of the playfield from `lo` to `hi`. -/
def playfieldFrom (r : Raster) (lo hi : Int) : Span := .clipped (max playfieldTop lo) hi r.height

/-- The index agrees with the cells. -/
def Indexed (r : Raster) : Prop :=
  ∀ (x : Nat) (_ : x < r.width), r.heights[x] = r.grid.groundRow x

instance (r : Raster) : Decidable r.Indexed :=
  inferInstanceAs (Decidable (∀ (x : Nat) (_ : x < r.width), r.heights[x] = r.grid.groundRow x))

/-- Repaints every cell of a rectangle by a rule that sees its column, its row and its value.  The
index is left alone. -/
@[specialize] def repaint (r : Raster) (xs ys : Span) (rule : Nat → Nat → UInt8 → UInt8) : Raster :=
  match r with
  | ⟨w, h, grid, heights⟩ => ⟨w, h, grid.repaint xs ys rule, heights⟩

/-- Repaints every cell by the rule of its row.  The index is left alone. -/
@[specialize] def mapRows (r : Raster) (rule : Nat → UInt8 → UInt8) : Raster :=
  match r with
  | ⟨w, h, grid, heights⟩ => ⟨w, h, grid.mapRows rule, heights⟩

/-- Looks up the ground row of some columns anew. -/
def rescan (r : Raster) (xs : Span) : Raster :=
  match r with
  | ⟨w, h, grid, heights⟩ =>
    ⟨w, h, grid, xs.size.fold (fun i _ heights =>
      let x := xs.start + i
      if bound : x < w then heights.set x (grid.groundRow x) else heights) heights⟩

/-- Looks up the ground row of one column anew. -/
def rescanColumn (r : Raster) (x : Int) : Raster := r.rescan (r.columnsFrom x x)

/-- Looks up all ground rows anew. -/
def rescanAll (r : Raster) : Raster := r.rescan r.columns

/-- A raster of sky. -/
def blank (width height : Nat) : Raster where
  width := width
  height := height
  grid := .ofRows fun y => Cell.sky height y
  heights := Vector.replicate width height

/-- A raster of the sky that 32 bits give. -/
def blank32 (width height : Nat) : Raster :=
  { blank width height with grid := .ofRows fun y => Cell.sky32 height y }

/-- Terrain from a given row of each column down to the bottom; columns without a row stay as they
are.  The rows are moved into the playfield, which a raster of less than 15 rows does not have. -/
def withProfile (r : Raster) (profile : List Int) : Except Fault Raster := do
  let tops ← (profile.take r.width).mapM (clampInt playfieldTop r.height)
  let tops := (tops.map Int.toNat).toArray
  let land := r.repaint r.columns r.rows fun x y v =>
    if (tops[x]?).getD r.height ≤ y then Cell.shade r.height y else v
  return land.rescanAll

/-- A raster made from a profile. -/
def ofProfile (width height : Nat) (profile : List Int) : Except Fault Raster :=
  (blank width height).withProfile profile

/-- A raster made from a profile as 32 bits give it.  It is `ofProfile` up to `Cell.exactRows`
rows. -/
def ofProfile32 (width height : Nat) (profile : List Int) : Except Fault Raster :=
  (blank32 width height).withProfile profile

/-- Level ground from a row down. -/
def flat (width height : Nat) (ground : Int) : Except Fault Raster :=
  ofProfile width height (List.replicate width ground)

/-- Notes the ground row of a column. -/
def note (r : Raster) (x row : Nat) : Raster :=
  match r with
  | ⟨w, h, grid, heights⟩ => ⟨w, h, grid, if bound : x < w then heights.set x row else heights⟩

/-- Writes one cell and keeps the index: a new terrain cell above the ground row becomes the ground
row, and where the ground row is cleared the column is scanned again.  Writes outside the raster do
nothing. -/
def write (r : Raster) (x y : Int) (v : UInt8) : Raster :=
  if r.inBounds x y then
    let old := r.sample x y
    let ground := r.heightAt x
    let r := r.repaint (r.columnsFrom x x) (r.rowsFrom y y) (fun _ _ _ => v)
    -- Rows above the playfield are not indexed.
    if y < playfieldTop then r
    else if Cell.isTerrain v ∧ y < ground then r.note x.toNat y.toNat
    else if Cell.isTerrain old ∧ ¬Cell.isTerrain v ∧ y = ground then r.rescanColumn x
    else r
  else r

/-- The values of a row, from left to right. -/
def row (r : Raster) (y : Int) : List UInt8 :=
  (List.range r.width).map fun x : Nat => r.sample x y

/-- The values of a column, from the top down. -/
def column (r : Raster) (x : Int) : List UInt8 :=
  (List.range r.height).map fun y : Nat => r.sample x y

/-- A number that tells rasters apart by their cells, row by row from the top. -/
def fingerprint (r : Raster) : UInt64 :=
  r.grid.rows.foldl (fun hash row =>
    row.foldl (fun hash v => (hash ^^^ v.toUInt64) * 0x100000001b3) hash) 0xcbf29ce484222325

end Raster

end Artillery
