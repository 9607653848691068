import Artillery.Event
import Artillery.Random.Draw

/-! # Blasts and shields

What a blast does to the actors around it, and what shields do about blasts and projectiles.

A blast that carries the velocity of a projectile strikes in its direction, and loses momentum with
every actor it reaches; one without falls off with the distance. -/

namespace Artillery

/-- What one blast has cost one actor. -/
structure ActorHit where
  actor : ActorId
  /-- Energy lost after the shield. -/
  damage : Int
  /-- What the shield has taken. -/
  absorbed : Int
  shieldDepleted : Bool
  deriving DecidableEq, Repr

/-- What one blast has done: the hits in the order of the actors, and those who died of them. -/
structure DamageReport where
  hits : List ActorHit := []
  deaths : List ActorId := []
  deriving DecidableEq, Repr, Inhabited

namespace DamageReport

/-- The events that tell of a report. -/
def events (r : DamageReport) (attacker : ActorId) : List Event :=
  r.hits.flatMap (fun hit =>
    .actorDamaged hit.actor hit.damage hit.absorbed ::
      if hit.shieldDepleted then [.shieldDepleted hit.actor] else []) ++
    r.deaths.map (.actorKilled · attacker)

end DamageReport

namespace Actor

/-- Takes energy from a shield: what is left of the damage, what was absorbed, and whether the
shield is gone. -/
def drainShield (a : Actor) (damage : Int) : Actor × Int × Int × Bool :=
  if damage ≤ a.shieldEnergy then
    ({ a with shieldEnergy := a.shieldEnergy - damage }, 0, damage, false)
  else
    ({ a with shieldEnergy := 0, shield := .none },
      damage - a.shieldEnergy, a.shieldEnergy, true)

/-- Lets the shield take damage first.  A flicker shield is off half the time. -/
def absorb (a : Actor) (damage : Int) : Draw (Actor × Int × Int × Bool) := do
  if ¬a.hasLiveShield then return (a, damage, 0, false)
  else if a.shield = .flicker then
    if ← Draw.coin then return (a, damage, 0, false) else return a.drainShield damage
  else return a.drainShield damage

/-- Takes energy from an actor, who dies when none is left. -/
def hurt (a : Actor) (damage : Int) : Actor :=
  if a.energy - damage ≤ 0 then { a with energy := 0, alive := false }
  else { a with energy := a.energy - damage }

/-- The energy a shield spends to throw a projectile back. -/
def deflectCost : Int := 10

/-- Throws a projectile back, if the actor has a shield that can: the actor, the projectile, and
whether the shield is gone.  Both parts of the velocity are reversed and lose up to four tenths,
then both are shaken. -/
def deflect (a : Actor) (p : Projectile) : Draw (Option (Actor × Projectile × Bool)) := do
  if ¬a.alive ∨ ¬a.shield.deflects ∨ a.shieldEnergy ≤ 0 then return none
  else
    -- The last rest of the energy is enough.
    let energy := a.shieldEnergy - min deflectCost a.shieldEnergy
    let depleted : Bool := energy ≤ 0
    let a := { a with
      shieldEnergy := energy
      shield := if depleted then .none else a.shield }
    let keptX ← Draw.unit
    let keptY ← Draw.unit
    let shakeX ← Draw.unit
    let shakeY ← Draw.unit
    let vx := -p.velocity.x * (0.6 + keptX * 0.4) + (shakeX - 0.5) * 100
    let vy := -p.velocity.y * (0.6 + keptY * 0.4) + (shakeY - 0.5) * 50
    let position : Vec2 :=
      ⟨p.position.x + Quantity.direction vx * 5, p.position.y - Quantity.direction vy * 5⟩
    return some (a, { p with velocity := ⟨vx, vy⟩, position := position }, depleted)

end Actor

/-- A blast, as far as it concerns the actors. -/
structure Shock where
  center : Vec2
  radius : Int
  attacker : ActorId
  /-- Whether the attacker can be hurt. -/
  selfDamage : Bool

namespace Shock

/-- How far a blast reaches beyond its radius. -/
def margin : Float := 10

/-- The factor on the carried velocity after each actor. -/
def decay : Float := 0.7

/-- The vector from the center to an actor, pointing up. -/
def displacement (s : Shock) (a : Actor) : Vec2 :=
  ⟨Quantity.ofInt a.x - s.center.x, s.center.y - Quantity.ofInt a.y⟩

/-- The distance at which the blast ends. -/
def reach (s : Shock) : Float := Quantity.ofInt s.radius + margin

/-- Whether an actor is near enough, alive, and allowed to be hurt. -/
def involves (s : Shock) (a : Actor) : Bool :=
  a.alive ∧ (s.selfDamage ∨ a.id ≠ s.attacker) ∧ ¬s.reach < (s.displacement a).length

/-- Whether a velocity is fast enough to give a blast a direction. -/
def isMoving (v : Vec2) : Bool := 0.1 < v.x.abs ∨ 0.1 < v.y.abs

/-- Damage in the direction of a velocity. -/
def directional (s : Shock) (v d : Vec2) : Int :=
  let turn := 2 * (v.angle - d.angle)
  let turned := (-v).rotated (-turn)
  Quantity.floor (turned.length * Quantity.ofInt s.radius / 100)

/-- Damage that falls off with the distance. -/
def falloff (s : Shock) (d : Vec2) : Int :=
  max 0 (Quantity.floor ((1 - d.length / s.reach) * Quantity.ofInt s.radius))

/-- The damage to an actor before its shield, and the velocity that is carried on. -/
def rawDamage (s : Shock) (carried : Option Vec2) (a : Actor) : Int × Option Vec2 :=
  let d := s.displacement a
  match carried with
  | some v => if isMoving v then (s.directional v d, some (v * decay)) else (s.falloff d, carried)
  | none => (s.falloff d, none)

/-- Strikes one actor with some damage. -/
def hit (a : Actor) (raw : Int) : Draw (Actor × ActorHit) := do
  let (a, damage, absorbed, depleted) ← a.absorb raw
  return (a.hurt damage, ⟨a.id, damage, absorbed, depleted⟩)

/-- Adds a hit to a report, in front of later ones. -/
def noted (h : ActorHit) (a : Actor) (r : DamageReport) : DamageReport :=
  ⟨h :: r.hits, if a.alive then r.deaths else a.id :: r.deaths⟩

/-- Strikes the actors one after another. -/
def strike (s : Shock) : List Actor → (carried : Option Vec2) → Draw (List Actor × DamageReport)
  | [], _ => return ([], {})
  | a :: rest, carried => do
    if s.involves a then
      -- The velocity loses momentum even where it does no damage.
      let (raw, carried) := s.rawDamage carried a
      if 0 < raw then
        let (a, h) ← hit a raw
        let (rest, report) ← s.strike rest carried
        return (a :: rest, noted h a report)
      else
        let (rest, report) ← s.strike rest carried
        return (a :: rest, report)
    else
      let (rest, report) ← s.strike rest carried
      return (a :: rest, report)

end Shock

end Artillery
