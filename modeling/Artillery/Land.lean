import Artillery.Raster.Basic
import Artillery.Random.Draw

/-! # Generated land

Each kind of land is a height profile: the ground row of every column, from left to right. -/

namespace Artillery

/-- The kinds of land. -/
inductive Land where
  | flat
  | slope
  | rolling
  | mountain
  | vShaped
  | castle
  deriving DecidableEq, Repr

namespace Land

/-- The top and the bottom row a profile is made for. -/
structure Bounds where
  top : Int
  bottom : Int

/-- The bounds of an arena.  The height becomes a number of 32 bits; one that does not fit wraps
around, and its bottom row can lie above the top. -/
def boundsOf (height : Nat) : Bounds := ⟨playfieldTop, Quantity.int32 ((height : Int) - 1)⟩

/-- A number in `0 .. n - 1`; nothing is drawn when there is none. -/
def pick (n : Int) : Draw Int :=
  if positive : 0 < n then Int.ofNat <$> Draw.below n.toNat (by omega) else pure 0

/-- The columns over which a slope descends. -/
def slopeSpan (width : Nat) : Int := max ((width : Int) - 1) 1

theorem slopeSpan_ne_zero (width : Nat) : slopeSpan width ≠ 0 := by
  unfold slopeSpan
  omega

/-- From high on the left to low on the right. -/
def slopeProfile (width : Nat) (b : Bounds) : List Int :=
  let high := b.top + 40
  let low := b.bottom - 1
  (List.range width).map fun x : Nat =>
    high + Quantity.quotient ((low - high) * x) (slopeSpan width) (slopeSpan_ne_zero width)

/-- Low in the middle and high at both sides. -/
def vProfile (width : Nat) (b : Bounds) : List Int :=
  let center := Float.ofNat (max 1 (width / 2))
  let high := Quantity.ofInt (b.top + 50)
  let low := Quantity.ofInt (b.bottom - 20)
  (List.range width).map fun x =>
    let distance := (Float.ofNat x - center).abs / center
    Quantity.floor (low - (low - high) * distance)

/-- A walk along the columns: the row it has reached and the slope it goes on with. -/
structure Walk where
  row : Int
  slope : Int

/-- How a walk finds its next slope and where it is turned back. -/
structure Relief where
  /-- Out of 100, how often the walk keeps its slope. -/
  keep : Int
  /-- The largest fresh slope. -/
  steepest : Int
  /-- Out of 100, how often a fresh slope is doubled. -/
  double : Int
  /-- The highest row, and the slope of a walk that has been rising there. -/
  ceiling : Int
  descend : Int
  /-- The slope of a walk that has been falling at the lowest row. -/
  ascend : Int

/-- The slope of the next step. -/
def Relief.nextSlope (t : Relief) (slope : Int) : Draw Int := do
  if t.keep ≤ (← pick 100) then
    let fresh := (← pick (2 * t.steepest + 1)) - t.steepest
    return if (← pick 100) < t.double then fresh * 2 else fresh
  else return slope

/-- Goes one column on.  A walk that leaves the ceiling or the lowest row is put back there and
turned. -/
def Relief.step (t : Relief) (lowest : Int) (w : Walk) : Draw Walk := do
  let slope ← t.nextSlope w.slope
  let row := w.row + slope
  -- In a low arena the ceiling can lie below the lowest row; then the lowest row wins.
  let (row, slope) :=
    if row < t.ceiling then (t.ceiling, if slope < 0 then t.descend else slope) else (row, slope)
  return if lowest < row then ⟨lowest, if 0 < slope then t.ascend else slope⟩ else ⟨row, slope⟩

/-- The rows of a walk over `n` columns. -/
def Relief.rows (t : Relief) (lowest : Int) : (n : Nat) → Walk → Draw (List Int)
  | 0, _ => pure []
  | n + 1, w => do
    let next ← t.step lowest w
    let rest ← t.rows lowest n next
    return w.row :: rest

/-- Hills: a walk that keeps its slope with a chance of `bumpiness` percent, and doubles a fresh one
with the same chance. -/
def hills (b : Bounds) (bumpiness : Int) : Relief where
  keep := bumpiness
  steepest := 1
  double := bumpiness
  ceiling := b.top + 40
  descend := 1
  ascend := 0

/-- Peaks: steep slopes that seldom last. -/
def peaks (b : Bounds) : Relief where
  keep := 8
  steepest := 2
  double := 40
  ceiling := b.top + 25
  descend := 2
  ascend := -1

/-- The rows of a walk, kept clear of the display and of the bottom. -/
def keptInside (b : Bounds) (rows : List Int) : Except Fault (List Int) :=
  rows.mapM (clampInt (b.top + 20) (b.bottom - 1))

/-- Rolling hills. -/
def rollingProfile (width : Nat) (b : Bounds) (bumpiness : Int) :
    Draw (Except Fault (List Int)) := do
  let start := (← pick (b.bottom - b.top - 60)) + b.top + 40
  let rows ← (hills b bumpiness).rows (b.bottom - 1) width ⟨start, 0⟩
  return keptInside b rows

/-- One of the walks that mountains are made of. -/
def ridge (width : Nat) (b : Bounds) : Draw (Except Fault (List Int)) := do
  let start := (← pick (b.bottom - b.top - 80)) + b.top + 50
  let rows ← (peaks b).rows (b.bottom - 1) width ⟨start, 0⟩
  return keptInside b rows

/-- Mountains: of three ridges the highest shows in each column. -/
def mountainProfile (width : Nat) (b : Bounds) : Draw (Except Fault (List Int)) := do
  let first ← ridge width b
  let second ← ridge width b
  let third ← ridge width b
  return do
    let behind := List.zipWith min (← first) (← second)
    return List.zipWith min behind (← third)

/-- A tower of a castle: its middle column, how far it reaches, and its roof. -/
structure Tower where
  center : Int
  half : Int
  roof : Int

/-- Whether a column of a tower carries a battlement: three columns do, three do not, from the left
edge on. -/
def Tower.battlement (t : Tower) (x : Int) : Bool := (x - (t.center - t.half)) % 6 < 3

/-- The ground row of a column of a tower: the roof, or a battlement on it, unless the ground is
higher. -/
def Tower.raise (t : Tower) (x : Nat) (row : Int) : Int :=
  let row := min row t.roof
  if t.battlement x then min row (t.roof - 5) else row

/-- Builds a tower in the columns of the land that it reaches over. -/
def Tower.build {width : Nat} (t : Tower) (rows : Vector Int width) : Vector Int width :=
  let xs := Span.clipped (t.center - t.half) (t.center + t.half) width
  xs.size.fold (fun i within rows =>
    have := Span.lt_of_clipped within
    rows.set (xs.start + i) (t.raise (xs.start + i) rows[xs.start + i])) rows

/-- One tower after another, from tower `i` on. -/
def buildTowers {width : Nat} (b : Bounds) (base spacing : Int) :
    (n i : Nat) → Vector Int width → Draw (Vector Int width)
  | 0, _, rows => pure rows
  | n + 1, i, rows => do
    -- Middle, reach and roof are drawn in this order.
    let center := spacing * (i + 1) + (← pick 20) - 10
    let half := 10 + (← pick 8)
    let roof := max (base - 30 - (← pick 25)) (b.top + 5)
    let tower : Tower := ⟨center, half, roof⟩
    buildTowers b base spacing n (i + 1) (tower.build rows)

/-- The gently uneven base of a castle, from left to right. -/
def uneven (base : Int) : (width : Nat) → Draw (Vector Int width)
  | 0 => pure #v[]
  | width + 1 => do
    let rows ← uneven base width
    return rows.push (base + (← pick 5) - 2)

/-- How many towers a castle has: four to six. -/
def towerCount : Draw Nat := do return 4 + (← pick 3).toNat

/-- A gently uneven base with towers. -/
def castleProfile (width : Nat) (b : Bounds) : Draw (List Int) := do
  let base := Quantity.floor (Quantity.ofInt (b.top + b.bottom) * 0.65)
  let rows ← uneven base width
  let towers ← towerCount
  let spacing := Quantity.quotient width (towers + 1) (by omega)
  return (← buildTowers b base spacing towers 0 rows).toList

/-- The height profile of a kind of land.  The bumpiness is taken as a number of 32 bits. -/
def profile (land : Land) (width height : Nat) (bumpiness : Int) : Draw (Except Fault (List Int)) :=
  let b := boundsOf height
  match land with
  | .flat => pure (.ok (List.replicate width (Quantity.quotient (b.top + b.bottom) 2 (by decide) + 20)))
  | .slope => pure (.ok (slopeProfile width b))
  | .rolling => rollingProfile width b (Quantity.int32 bumpiness)
  | .mountain => mountainProfile width b
  | .vShaped => pure (.ok (vProfile width b))
  | .castle => Except.ok <$> castleProfile width b

/-- A raster with land of a kind. -/
def generate (land : Land) (width height : Nat) (bumpiness : Int) : Draw (Except Fault Raster) := do
  let rows ← land.profile width height bumpiness
  return rows.bind (Raster.ofProfile width height)

end Land

end Artillery
