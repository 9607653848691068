import Artillery.Behavior.Dispatch
import Artillery.Blast
import Artillery.Explosion
import Artillery.Targeting
import Artillery.Raster.Earthwork

/-! # The arena

Everything a projectile can change in one step: the terrain, the actors, the queue of explosions,
the source of randomness, and the lists of events and of projectiles to come.  Effects are carried
out in a fixed order: blast, earthwork, new projectiles, and the end of the projectile itself. -/

namespace Artillery

/-- The field of play without the projectiles on it. -/
structure Arena where
  terrain : Raster
  actors : List Actor
  arsenal : Arsenal
  config : Config
  keystream : Keystream
  wind : Float
  explosions : ExplosionQueue
  events : Array Event
  /-- Projectiles that have been asked for and are not in flight yet. -/
  spawns : Array ProjectileSpec

/-- An explosion that is about to happen. -/
structure Blast where
  center : Pixel
  radius : Int
  attacker : ActorId
  /-- The velocity of the projectile, for a blast in its direction. -/
  carried : Option Vec2
  skipDamage : Bool
  earthMoving : Bool

namespace Earthwork

/-- The terrain after the work has been done around a pixel. -/
def perform (work : Earthwork) (terrain : Raster) (center : Pixel) : Raster :=
  match work with
  | none => terrain
  | dirtAdd radius => terrain.fillDisc center.x center.y radius
  | dirtTower height => terrain.raiseTower center.x center.y height
  | tunnel depth down => terrain.digTunnel center.x center.y depth down
  | disrupt radius => terrain.compact center.x radius

end Earthwork

namespace Arena

/-- What behaviors can see. -/
def surroundings (a : Arena) : Surroundings := ⟨a.terrain, a.arsenal, a.config⟩

/-- Tells of something that has happened. -/
def tell (a : Arena) (events : List Event) : Arena := { a with events := a.events ++ events }

/-- Makes a draw from the arena's keystream. -/
def draw {α : Type} (a : Arena) (d : Draw α) : α × Arena :=
  let (v, k) := d.run a.keystream
  (v, { a with keystream := k })

/-- The shock of a blast under the rules of the match. -/
def shock (a : Arena) (center : Vec2) (radius : Int) (attacker : ActorId) : Shock :=
  ⟨center, radius, attacker, a.config.selfDamage⟩

/-- Hurts the actors that a shock reaches, and tells of it. -/
def strikeActors (a : Arena) (s : Shock) (carried : Option Vec2) : DamageReport × Arena :=
  let ((actors, report), a) := a.draw (s.strike a.actors carried)
  (report, { a with actors := actors }.tell (report.events s.attacker))

/-- Blows the crater, queues the animation, and hurts the actors in reach. -/
def explode (a : Arena) (b : Blast) : DamageReport × Arena :=
  let a := { a with terrain := a.terrain.crater b.center.x b.center.y b.radius }
  let a := if b.earthMoving then { a with terrain := a.terrain.compact b.center.x b.radius } else a
  let a := { a with explosions := a.explosions.push b.center b.radius }
  let a := a.tell [.explosion b.center.x b.center.y b.radius b.attacker]
  if b.skipDamage then ({}, a)
  else a.strikeActors (a.shock b.center.position b.radius b.attacker) b.carried

/-- Does an earthwork around a pixel. -/
def dig (a : Arena) (center : Pixel) (work : Earthwork) : Arena :=
  if work = .none then a
  else
    { a with terrain := work.perform a.terrain center }.tell
      [.terrainChanged center.x center.y work]

/-- Asks for new projectiles. -/
def queue (a : Arena) (weapon : WeaponId) (spawn : List ProjectileSpec) : Arena :=
  if spawn.isEmpty then a
  else { a with spawns := a.spawns ++ spawn }.tell [.spawned weapon spawn.length]

/-- Carries out what an impact asks for. -/
def applyImpact (a : Arena) (p : Projectile) (effect : ImpactEffect) : Projectile × Arena :=
  let e := effect.scaled a.config.explosionScale
  let a := if e.explode ∧ 0 < e.radius then
      (a.explode {
        center := p.pixel
        radius := e.radius
        attacker := p.owner
        carried := if p.isParticle then none else some p.velocity
        skipDamage := e.skipDamage
        earthMoving := e.earthMoving }).2
    else a
  let a := (a.dig p.pixel e.earthwork).queue p.weapon e.spawn
  (if e.keepAlive then p else { p with active := false }, a)

/-- Carries out what a behavior asks for in flight. -/
def applyFlight (a : Arena) (p : Projectile) (effect : FlightEffect) : Projectile × Arena :=
  let e := effect.scaled a.config.explosionScale
  let a := match e.explodeHere with
    | some radius =>
      if 0 < radius then (a.explode ⟨p.pixel, radius, p.owner, none, false, false⟩).2 else a
    | none => a
  let a := (a.dig p.pixel e.earthwork).queue p.weapon e.spawn
  (if e.remove then { p with active := false } else p, a)

/-- Lets the first actor with a number throw a projectile back, if it can. -/
def deflect? (a : Arena) (p : Projectile) (id : ActorId) : Option (Projectile × Arena) := do
  let i ← a.actors.findIdx? (·.id = id)
  let target ← a.actors[i]?
  let (result, a) := a.draw (target.deflect p)
  let (target, p, depleted) ← result
  let a := { a with actors := a.actors.set i target }
  return (p, a.tell (.shieldDeflected id :: if depleted then [.shieldDepleted id] else []))

/-- Lets a projectile strike something. -/
def impact (a : Arena) (p : Projectile) (hit : Hit) : Projectile × Arena :=
  let a := a.tell [.impact p.pixel.x p.pixel.y hit]
  let ((effect, p), a) := a.draw (p.strike hit a.surroundings)
  a.applyImpact p effect

/-- Acts on the outcome of a flight step: a projectile that is lost ends, one that has run into a
tank may be thrown back, and everything else that was hit is struck. -/
def resolve (a : Arena) (p : Projectile) (status : FlightStatus) : Projectile × Arena :=
  match status with
  | .flying => (p, a)
  | .offscreen => ({ p with active := false }, a)
  | .hitTerrain => a.impact p .terrain
  | .hitWall => a.impact p .wall
  | .hitTank actor =>
    match a.deflect? p actor with
    | some result => result
    | none => a.impact p (.tank actor)

/-- Takes a projectile through one step: its behavior, its guidance, its flight, and what it
strikes. -/
def stepProjectile (a : Arena) (p : Projectile) : Except Fault (Projectile × Arena) :=
  if ¬p.active then .ok (p, a)
  else do
    let (effect, p) ← p.fly a.surroundings
    let (p, a) := a.applyFlight p effect
    if ¬p.active then return (p, a)
    else
      -- Guidance acts on the velocity that the flight then uses.
      let (locked, p) := p.guide a.actors
      let a := match locked with
        | some kind => a.tell [.guidanceLocked p.owner kind]
        | none => a
      let (status, p) ← p.advance a.terrain a.config a.wind
      return a.resolve p status

end Arena

end Artillery
