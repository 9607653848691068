import Artillery.Land
import Artillery.Decimal.Shortest

/-! # Configuration

The settings of a match, and what makes them acceptable.  Settings are checked in a fixed order and
the first one that is out of range is reported. -/

namespace Artillery

/-- What happens at the side walls. -/
inductive WallPolicy where
  /-- Projectiles go off. -/
  | concrete
  /-- Projectiles come in again at the other side. -/
  | wrap
  /-- Projectiles bounce and lose speed. -/
  | rubber
  /-- Projectiles bounce and gain speed. -/
  | spring
  /-- Projectiles bounce and lose half their speed. -/
  | padded
  /-- There are no walls. -/
  | none
  deriving DecidableEq, Repr

namespace WallPolicy

/-- The factor on the speed of a projectile that bounces. -/
def reflection : WallPolicy → Option Float
  | rubber => some 0.8
  | spring => some 1.2
  | padded => some 0.5
  | concrete => Option.none
  | wrap => Option.none
  | none => Option.none

end WallPolicy

/-- The settings of a match. -/
structure Config where
  /-- What the random draws start from. -/
  seed : UInt64 := 42
  screenWidth : Nat := 320
  screenHeight : Nat := 200
  /-- The wind at the start. -/
  wind : Float := 0
  /-- The largest wind at the start; later the wind may reach four times as much. -/
  maxWind : Float := 5
  changeWind : Bool := true
  wall : WallPolicy := .concrete
  /-- Resistance of the air, in parts of ten thousand for each step. -/
  viscosity : Float := 0
  gravity : Float := 1
  /-- A factor on the radius of every blast and earthwork. -/
  explosionScale : Float := 1
  /-- The factor on the speed of a particle in each step. -/
  particleDamping : Float := 0.93
  /-- Whether actors are hurt by their own blasts. -/
  selfDamage : Bool := true
  stepsPerFrame : Nat := 3
  /-- Whether actors fall when their ground is gone. -/
  fallingActors : Bool := true
  land : Land := .rolling
  landBumpiness : Nat := 20

/-- Why a configuration cannot be used. -/
inductive ConfigError where
  /-- The file cannot be read as text. -/
  | io
  /-- The text is not a configuration. -/
  | parse
  | screenTooSmall (width height : Nat)
  | outOfRange (field : String) (value : Float)

namespace ConfigError

/-- What is wrong with the settings, in words. -/
def message? : ConfigError → Option String
  | io => none
  | parse => none
  | screenTooSmall width height =>
    some ("screen " ++ toString width ++ "x" ++ toString height ++ " is too small")
  | outOfRange field value =>
    some (field ++ " = " ++ Decimal.shortest value ++ " is out of range")

end ConfigError

namespace Config

/-- The columns at each side in which no actor is placed. -/
def placementMargin : Nat := 20

/-- The narrowest arena in which actors can be placed. -/
def minWidth : Nat := 2 * placementMargin + 1

/-- The lowest arena in which land can be generated. -/
def minHeight : Nat := playfieldTop + 40

/-- Whether the land and the actors have room in an arena. -/
def checkScreen (width height : Nat) : Except ConfigError Unit :=
  if width < minWidth ∨ height < minHeight then .error (.screenTooSmall width height) else .ok ()

/-- Reports a setting for which a condition does not hold. -/
def require (holds : Bool) (field : String) (value : Float) : Except ConfigError Unit :=
  if holds then .ok () else .error (.outOfRange field value)

/-- Reports a setting that is not a number from `lo` to `hi`. -/
def requireWithin (lo hi : Float) (field : String) (value : Float) : Except ConfigError Unit :=
  require (value.isFinite ∧ lo ≤ value ∧ value ≤ hi) field value

/-- Checks all settings. -/
def validate (c : Config) : Except ConfigError Unit := do
  checkScreen c.screenWidth c.screenHeight
  requireWithin 0 10000 "viscosity" c.viscosity
  requireWithin 0 10 "gravity" c.gravity
  requireWithin 0 500 "max_wind" c.maxWind
  require (0 < c.explosionScale ∧ c.explosionScale.isFinite) "explosion_scale" c.explosionScale
  require (0 < c.particleDamping ∧ c.particleDamping ≤ 1) "particle_damping" c.particleDamping
  requireWithin 0 100 "land_bumpiness" (Float.ofNat c.landBumpiness)
  require (c.stepsPerFrame ≠ 0) "steps_per_frame" 0

/-- The factor that the air leaves of a velocity in each step. -/
def viscosityFactor (c : Config) : Float := 1 - c.viscosity / 10000

end Config

end Artillery
