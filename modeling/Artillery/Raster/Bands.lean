import Artillery.Number.Word

/-! # What the value of a cell means

A cell of the raster holds a byte.  `0` is empty, `1 .. 79` belong to actors, eight values to each,
`80 .. 104` are sky, and everything from `105` on is terrain.  Sky and terrain are graded by row. -/

namespace Artillery

/-- The first row below the display at the top; terrain is looked for from here down. -/
def playfieldTop : Nat := 15

namespace Cell

/-- The first value that does not belong to an actor any more; sky starts here. -/
def actorEnd : UInt8 := 80

/-- The values each actor owns. -/
def actorStride : Nat := 8

/-- How many actors the band has room for. -/
def actorCount : Nat := 10

/-- The first value that is terrain. -/
def terrainStart : UInt8 := 105

/-- Whether a value is terrain. -/
def isTerrain (v : UInt8) : Bool := terrainStart ≤ v

/-- Whether a value belongs to an actor. -/
def isActor (v : UInt8) : Bool := 0 < v ∧ v < actorEnd

/-- The rows over which the sky is graded. -/
def skySpan (height : Nat) : Int := max ((height : Int) - 1) 1

theorem skySpan_pos (height : Nat) : 0 < skySpan height := by
  unfold skySpan
  omega

/-- The sky of a row: 24 steps from the top of the raster to its bottom.  The numbers in it have no
bounds; `sky32` is what 32 bits make of it, and `exactRows` says up to where that is the same. -/
def sky (height : Nat) (y : Int) : UInt8 :=
  let span := skySpan height
  have positive := skySpan_pos height
  let row := Quantity.within 0 span y (Int.le_of_lt positive)
  let step := Quantity.quotient (row * 23) span (Int.ne_of_gt positive)
  UInt8.ofNat (80 + step.toNat)

/-- The rows over which the sky is graded, as a number of 32 bits. -/
def skySpan32 (height : Nat) : Int := max (Quantity.int32 ((height : Int) - 1)) 1

theorem skySpan32_pos (height : Nat) : 0 < skySpan32 height := by
  unfold skySpan32
  omega

/-- The sky of a row as 32 bits give it, with the step in the low eight of them.  It is `sky` as
long as 23 times the last row fits; in higher rasters the product wraps around, and the value
leaves the band of the sky. -/
def sky32 (height : Nat) (y : Int) : UInt8 :=
  let span := skySpan32 height
  have positive := skySpan32_pos height
  let row := Quantity.within 0 span y (Int.le_of_lt positive)
  let step := Quantity.quotient (Quantity.int32 (row * 23)) span (Int.ne_of_gt positive)
  UInt8.ofInt (80 + step)

/-- The rows over which terrain is graded. -/
def shadeSpan (height : Nat) : Int := max (Quantity.int32 ((height : Int) - playfieldTop)) 1

theorem shadeSpan_pos (height : Nat) : 0 < shadeSpan height := by
  unfold shadeSpan
  omega

/-- The terrain of a row: 30 steps from the bottom of the raster to the top of the playfield.  A
product that does not fit wraps around, but the step is kept in its range. -/
def shade (height : Nat) (y : Int) : UInt8 :=
  let rise := Quantity.int32 ((height - 1 - y) * 29)
  let step := Quantity.quotient rise (shadeSpan height) (Int.ne_of_gt (shadeSpan_pos height))
  UInt8.ofNat (120 + (Quantity.within 0 29 step (by decide)).toNat)

/-- The first value of an actor's eight, as far as a byte can tell. -/
def paletteBase (id : Nat) : UInt8 := UInt8.ofNat (min 255 (id % 256 * actorStride))

end Cell

end Artillery
