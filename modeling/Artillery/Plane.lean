import Artillery.Number.Quantity

/-! # Points and vectors of the playing field

The x axis points right and the y axis of the screen points down.  Velocities are the exception:
their vertical part is positive upward. -/

namespace Artillery

/-- A position, velocity or correction. -/
structure Vec2 where
  x : Float
  y : Float
  deriving DecidableEq

namespace Vec2

instance : Inhabited Vec2 := ⟨0, 0⟩

instance : Add Vec2 := ⟨fun a b => ⟨a.x + b.x, a.y + b.y⟩⟩

instance : Sub Vec2 := ⟨fun a b => ⟨a.x - b.x, a.y - b.y⟩⟩

instance : Neg Vec2 := ⟨fun a => ⟨-a.x, -a.y⟩⟩

instance : HMul Vec2 Float Vec2 := ⟨fun a s => ⟨a.x * s, a.y * s⟩⟩

/-- The square of the length. -/
def lengthSquared (v : Vec2) : Float := v.x * v.x + v.y * v.y

/-- The length. -/
def length (v : Vec2) : Float := v.lengthSquared.sqrt

/-- The angle of a vector against the x axis, in radians. -/
def angle (v : Vec2) : Float := Float.atan2 v.y v.x

/-- `v` turned by an angle in radians. -/
def rotated (v : Vec2) (angle : Float) : Vec2 :=
  let (s, c) := (angle.sin, angle.cos)
  ⟨c * v.x - s * v.y, s * v.x + c * v.y⟩

end Vec2

/-- A cell of the raster, or a place outside it. -/
structure Pixel where
  x : Int
  y : Int
  deriving DecidableEq, Repr, Inhabited

/-- The pixel under a position. -/
def Vec2.pixel (v : Vec2) : Pixel := ⟨Quantity.nearest v.x, Quantity.nearest v.y⟩

/-- The middle of a pixel as a position. -/
def Pixel.position (p : Pixel) : Vec2 := ⟨Quantity.ofInt p.x, Quantity.ofInt p.y⟩

end Artillery
