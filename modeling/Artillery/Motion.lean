import Artillery.Event
import Artillery.Wall
import Artillery.Raster.Silhouette

/-! # Motion

One step of free flight: air, gravity and wind change the velocity, the velocity changes the
position, and then the walls, the upper and lower limits and the raster decide where the projectile
is. -/

namespace Artillery

namespace Motion

/-- The time one step takes, in seconds. -/
def stepTime : Float := 0.02

/-- The acceleration downward at a gravity of 1. -/
def gravity : Float := 4.9

/-- The acceleration sideways at a wind of 1. -/
def windScale : Float := 0.15

/-- How far below the bottom a projectile is not yet lost. -/
def bottomMargin : Float := 50

/-- The highest row a projectile may reach. -/
def topLimit : Float := -500

/-- The steps after a launch in which nothing is struck. -/
def graceSteps : Nat := 2

end Motion

namespace Projectile

open Motion

/-- The velocity after air, gravity and wind have acted for one step.  Particles feel gravity
only. -/
def accelerated (p : Projectile) (config : Config) (wind : Float) : Vec2 :=
  let v := if p.isParticle then p.velocity else p.velocity * config.viscosityFactor
  let vy := v.y - gravity * config.gravity * stepTime
  let vx := if p.isParticle then v.x else v.x + wind * windScale * stepTime
  ⟨vx, vy⟩

/-- What a projectile of a given age meets on the raster.  Nothing is struck above the playfield or
in the first steps after a launch. -/
def contact (p : Projectile) (terrain : Raster) : Contact :=
  if graceSteps < p.age ∧ playfieldTop ≤ p.pixel.y then terrain.contactAt p.pixel.x p.pixel.y
  else .passThrough

/-- The status of a projectile between the walls. -/
def statusInside (p : Projectile) (terrain : Raster) : FlightStatus :=
  if Float.ofNat terrain.height + bottomMargin < p.position.y ∨ p.position.y < topLimit then
    .offscreen
  else match p.contact terrain with
    | .terrain => .hitTerrain
    | .tank actor => .hitTank actor
    | .passThrough => .flying

/-- Flies for one step.  Projectiles that have ended or that roll stay as they are. -/
def advance (p : Projectile) (terrain : Raster) (config : Config) (wind : Float) :
    Except Fault (FlightStatus × Projectile) :=
  if ¬p.active then .ok (.offscreen, p)
  else if p.isRolling then .ok (.flying, p)
  else do
    -- The trail keeps the pixel that is left.
    let p := { p.recordTrail with age := p.age + 1 }
    let v := p.accelerated config wind
    let x := p.position.x + v.x * stepTime
    let y := p.position.y - v.y * stepTime
    let (outcome, x, vx) ← config.wall.apply (Float.ofNat terrain.width) x v.x
    let p := { p with position := ⟨x, y⟩, velocity := ⟨vx, v.y⟩ }
    return match outcome with
      | .hit => (.hitWall, p)
      | .offscreen => (.offscreen, p)
      | .inside => (p.statusInside terrain, p)
      | .beyond => (p.statusInside terrain, p)

end Projectile

end Artillery
