import Artillery.Motion
import Artillery.Random.Draw

/-! # Particles

Napalm and liquid dirt throw short-lived particles about, which burn or leave soil where they come
to rest. -/

namespace Artillery.Particle

/-- The most particles that napalm throws. -/
def maxNapalm : Nat := 20

/-- The radius of the blast of a napalm canister. -/
def napalmRadius : Int := 5

/-- The particles of liquid dirt. -/
def liquidCount : Nat := 15

/-- The radius that a burning particle blows and a soil particle fills. -/
def restRadius : Int := 3

/-- The square of the speed below which a particle is at rest. -/
def minSpeedSquared : Float := 25

/-- How the particles of a substance are thrown. -/
structure Spray where
  /-- The range of speeds, and the least of them. -/
  speedRange : Float
  speedLeast : Float
  /-- How much of the vertical speed is kept, and how fast all particles rise. -/
  flatness : Float
  rise : Float
  /-- The shortest life, in steps; it can last 39 more. -/
  lifeLeast : Nat
  soil : Bool

/-- Napalm burns, or is soil. -/
def napalmSpray (soil : Bool) : Spray := ⟨150, 50, 0.5, 50, 60, soil⟩

/-- Liquid dirt is slower and lasts longer. -/
def liquidSpray : Spray := ⟨100, 25, 0.3, 25, 80, true⟩

/-- Throws one particle. -/
def Spray.throw (s : Spray) (p : Projectile) : Draw ProjectileSpec := do
  let angle := (← Draw.unit) * Quantity.fullTurn
  let speed := (← Draw.unit) * s.speedRange + s.speedLeast
  let velocity : Vec2 := ⟨angle.cos * speed, angle.sin * speed * s.flatness + s.rise⟩
  let life := s.lifeLeast + (← Draw.below 40 (by decide))
  return .particle p velocity life s.soil

/-- Throws a number of particles, one after another. -/
def Spray.throwAll (s : Spray) (p : Projectile) : (n : Nat) → Draw (List ProjectileSpec)
  | 0 => pure []
  | n + 1 => do
    let first ← s.throw p
    let rest ← s.throwAll p n
    return first :: rest

/-- The impact of napalm: a small blast, and as many particles as its weapon says; a negative number
throws soil. -/
def napalm (p : Projectile) (weapon : Weapon) : Draw ImpactEffect := do
  let spray := napalmSpray (weapon.param < 0)
  let spawn ← spray.throwAll p (min weapon.param.natAbs maxNapalm)
  return { ImpactEffect.blast napalmRadius with spawn := spawn }

/-- The impact of liquid dirt: soil, and no blast. -/
def liquidDirt (p : Projectile) : Draw ImpactEffect := do
  let spawn ← liquidSpray.throwAll p liquidCount
  return { ImpactEffect.inert with spawn := spawn }

/-- Whether a particle lies in or on the terrain. -/
def touchesTerrain (terrain : Raster) (spot : Pixel) : Bool :=
  terrain.contactAt spot.x spot.y = .terrain ∨ terrain.contactAt spot.x (spot.y + 1) = .terrain

/-- The end of a particle: on terrain it burns or leaves soil, in the air it vanishes. -/
def expire (p : Projectile) (soil : Bool) (terrain : Raster) : FlightEffect :=
  if ¬touchesTerrain terrain p.pixel then .vanish
  else if soil then { FlightEffect.vanish with earthwork := .dirtAdd restRadius }
  else .detonate restRadius

/-- What a particle does in flight: it ages, slows down, and ends when it is spent or at rest. -/
def fly (p : Projectile) (remainingLife : Nat) (soil : Bool) (terrain : Raster) (config : Config) :
    FlightEffect × Projectile :=
  let life := remainingLife - 1
  let p := { p with maneuver := .particle life soil }
  -- A spent particle ends before it slows down.
  if life = 0 then (expire p soil terrain, p)
  else
    let p := { p with velocity := p.velocity * config.particleDamping }
    if p.velocity.lengthSquared < minSpeedSquared then (expire p soil terrain, p)
    else (.nothing, p)

/-- What a particle does where it strikes. -/
def strike (soil : Bool) (hit : Hit) : ImpactEffect :=
  if hit = .wall then .inert
  else if soil then .dig (.dirtAdd restRadius)
  else .blast restRadius

end Artillery.Particle
