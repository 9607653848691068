import Artillery.Raster.Basic

/-! # Moving earth

Craters, dirt, tunnels, levelled ground, and terrain that falls.  Each operation changes the cells
of one region by one rule and then looks up the ground rows of the columns it has touched.  Craters
and tunnels turn terrain into sky; dirt is only laid where there is neither terrain nor an actor. -/

namespace Artillery.Raster

/-- A cell after digging: terrain becomes the sky of its row. -/
def dug (height y : Nat) (v : UInt8) : UInt8 :=
  if Cell.isTerrain v then Cell.sky height y else v

/-- A cell after filling: what is neither terrain nor actor becomes the terrain of its row. -/
def filled (height y : Nat) (v : UInt8) : UInt8 :=
  if Cell.isTerrain v ∨ Cell.isActor v then v else Cell.shade height y

/-- Whether a cell lies in the disc around a pixel. -/
def inDisc (cx cy radius : Int) (x y : Nat) : Bool :=
  let dx := (x : Int) - cx
  let dy := (y : Int) - cy
  dx * dx + dy * dy ≤ radius * radius

/-- Blows a crater: all terrain in the disc is gone. -/
def crater (r : Raster) (cx cy radius : Int) : Raster :=
  let h := r.height
  let xs := r.columnsFrom (cx - radius) (cx + radius)
  let ys := r.rowsFrom (cy - radius) (cy + radius)
  (r.repaint xs ys fun x y v => if inDisc cx cy radius x y then dug h y v else v).rescan xs

/-- Fills the disc with dirt, as far as it lies in the playfield. -/
def fillDisc (r : Raster) (cx cy radius : Int) : Raster :=
  let h := r.height
  let xs := r.columnsFrom (cx - radius) (cx + radius)
  let ys := r.playfieldFrom (cy - radius) (cy + radius)
  (r.repaint xs ys fun x y v => if inDisc cx cy radius x y then filled h y v else v).rescan xs

/-- How far a tower of dirt reaches to each side. -/
def towerHalfWidth : Int := 3

/-- Raises a tower of dirt, `height` rows upward from its foot. -/
def raiseTower (r : Raster) (cx foot height : Int) : Raster :=
  let h := r.height
  let xs := r.columnsFrom (cx - towerHalfWidth) (cx + towerHalfWidth)
  let ys := r.playfieldFrom (foot - height + 1) foot
  (r.repaint xs ys fun _ y v => filled h y v).rescan xs

/-- How far a tunnel reaches to each side: a quarter of its depth, but at least 3. -/
def tunnelHalfWidth (depth : Int) : Int := max 3 (Quantity.quotient depth 4 (by decide))

/-- The rows of a tunnel, from its mouth down or up to the edge of the playfield.  A mouth outside
the playfield opens no tunnel. -/
def tunnelRows (r : Raster) (mouth depth : Int) (down : Bool) : Span :=
  if playfieldTop ≤ mouth ∧ mouth < r.height then
    if down then r.playfieldFrom mouth (mouth + depth - 1)
    else r.playfieldFrom (mouth - depth + 1) mouth
  else ⟨0, 0⟩

/-- Digs a tunnel. -/
def digTunnel (r : Raster) (cx mouth depth : Int) (down : Bool) : Raster :=
  let h := r.height
  let half := tunnelHalfWidth depth
  let xs := r.columnsFrom (cx - half) (cx + half)
  let ys := r.tunnelRows mouth depth down
  (r.repaint xs ys fun _ y v => dug h y v).rescan xs

/-- Lets the terrain of a column fall.  The cells are given from the bottom up with their rows, and
`loose` is the terrain still to be laid down: it goes into the cells from the bottom up, around the
actors, and terrain that has fallen leaves sky behind. -/
def packed (height : Nat) : (cells : List (Nat × UInt8)) → (loose : List UInt8) → List (Nat × UInt8)
  | [], _ => []
  | (y, v) :: cells, loose =>
    -- Actors hang in the way and stay where they are.
    if Cell.isActor v then (y, v) :: packed height cells loose
    else match loose with
      | earth :: loose => (y, earth) :: packed height cells loose
      | [] => (y, dug height y v) :: packed height cells []

/-- The cells of a column in the playfield, from the bottom up. -/
def columnUp (r : Raster) (x : Nat) : List (Nat × UInt8) :=
  r.playfield.toList.reverse.map fun y => (y, r.cell x y)

/-- Packs one column. -/
def packColumn (r : Raster) (x : Nat) : Raster :=
  let cells := r.columnUp x
  let loose := (cells.map Prod.snd).filter Cell.isTerrain
  match r with
  | ⟨w, h, grid, heights⟩ =>
    let repacked := (packed h cells loose).foldl (fun grid c => grid.modify x c.1 fun _ => c.2) grid
    ⟨w, h, repacked, heights⟩

/-- The columns up to `reach` away from `cx`.  Their ends are numbers of 32 bits: an end that does
not fit wraps around beyond the other one, and no column is left. -/
def columnsAround (r : Raster) (cx reach : Int) : Span :=
  if Quantity.Fits32 (cx - reach) ∧ Quantity.Fits32 (cx + reach) then
    r.columnsFrom (cx - reach) (cx + reach)
  else ⟨0, 0⟩

/-- Lets floating terrain fall in all columns up to `radius` away from `cx`. -/
def compact (r : Raster) (cx radius : Int) : Raster :=
  let xs := r.columnsAround cx radius
  (xs.toList.foldl packColumn r).rescan xs

/-- The sum of the ground rows of some columns. -/
def sumHeights (r : Raster) (xs : Span) : Int :=
  xs.toList.foldl (fun (sum : Int) (x : Nat) => sum + r.heightAt x) 0

/-- The mean of the ground rows of some columns, rounded down. -/
def meanHeight (r : Raster) (xs : Span) (some : xs.size ≠ 0) : Int :=
  Quantity.quotient (r.sumHeights xs) xs.size (Int.natCast_ne_zero.2 some)

/-- Levels the ground under a footprint to its mean height: what stands higher is cut, what lies
lower is filled.  A raster without a playfield cannot be levelled. -/
def level (r : Raster) (cx halfWidth : Int) : Except Fault Raster :=
  let h := r.height
  let xs := r.columnsFrom (cx - halfWidth) (cx + halfWidth)
  if none : xs.size = 0 then .ok r
  else do
    let ground ← clampInt playfieldTop h (r.meanHeight xs none)
    -- Above the mean everything is cut, from it down everything is filled.
    let levelled := r.repaint xs r.playfield fun _ y v =>
      if (y : Int) < ground then dug h y v else filled h y v
    return levelled.rescan xs

/-- Levels a footprint of any width, whose ends are numbers of 32 bits as in `columnsAround`. -/
def levelFootprint (r : Raster) (cx halfWidth : Int) : Except Fault Raster :=
  if Quantity.Fits32 (cx - halfWidth) ∧ Quantity.Fits32 (cx + halfWidth) then r.level cx halfWidth
  else .ok r

end Artillery.Raster
