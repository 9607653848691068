import Artillery.Behavior.Bounce
import Artillery.Behavior.Mirv
import Artillery.Behavior.Particle
import Artillery.Behavior.Roller
import Artillery.Behavior.Scatter

/-! # What projectiles do

The behavior of a projectile decides what it does where it strikes and in each step of its flight.
Behaviors change nothing but their own projectile: they answer with an effect, which is carried out
afterwards. -/

namespace Artillery

/-- What behaviors can see of the field. -/
structure Surroundings where
  terrain : Raster
  arsenal : Arsenal
  config : Config

namespace Projectile

/-- The radius of plasma: it grows with the speed of the impact, or is fixed. -/
def plasmaRadius (p : Projectile) (weapon : Weapon) : Int :=
  if weapon.param = 0 then Quantity.floor (p.velocity.length * 0.1 + 10) else 25

/-- What a weapon does where its projectile strikes. -/
def strikeAs (p : Projectile) (weapon : Weapon) (hit : Hit) (terrain : Raster) :
    Draw (ImpactEffect × Projectile) :=
  match weapon.behavior with
  | .standard => return (.blast weapon.param, p)
  | .tracer => return (.inert, p)
  | .roller => return Roller.strike p hit weapon terrain
  | .bounce => return Bounce.strike p hit weapon
  | .mirv => return (.blast Mirv.impactRadius, p)
  | .napalm => return (← Particle.napalm p weapon, p)
  | .liquidDirt => return (← Particle.liquidDirt p, p)
  | .dirtAdd => return (.dig (.dirtAdd weapon.param), p)
  | .dirtTower => return (.dig (.dirtTower 30), p)
  | .tunnel => return (.dig (.tunnel weapon.param.natAbs (weapon.param < 0)), p)
  | .plasma => return (.blast (p.plasmaRadius weapon), p)
  | .riot => return ({ ImpactEffect.blast weapon.param with earthMoving := true }, p)
  | .disrupter => return (.dig (.disrupt 40), p)
  | .dirtCharge => return ({ ImpactEffect.blast 15 with earthwork := .dirtAdd 15 }, p)
  | .scatter => return (← Scatter.strike p weapon terrain, p)
  | .none => return (.blast weapon.fallbackRadius, p)

/-- What a projectile does where it strikes.  Bombs and particles follow rules of their own, and a
weapon that nobody knows makes a blast of the usual size. -/
def strike (p : Projectile) (hit : Hit) (s : Surroundings) : Draw (ImpactEffect × Projectile) :=
  match p.warhead, p.maneuver with
  | .sub radius, _ => return (.blast radius, p)
  | .weapon, .particle _ soil => return (Particle.strike soil hit, p)
  | .weapon, _ =>
    match s.arsenal.get? p.weapon with
    | some weapon => p.strikeAs weapon hit s.terrain
    | none => return (.blast Weapon.defaultRadius, p)

/-- What a weapon does while its projectile flies. -/
def flyAs (p : Projectile) (weapon : Weapon) (s : Surroundings) :
    Except Fault (FlightEffect × Projectile) :=
  match weapon.behavior with
  | .roller => Roller.fly p weapon s.terrain s.config
  | .mirv => .ok (Mirv.fly p weapon)
  | _ => .ok (.nothing, p)

/-- What a projectile does in each step, before it moves. -/
def fly (p : Projectile) (s : Surroundings) : Except Fault (FlightEffect × Projectile) :=
  if ¬p.active ∨ p.isBomb then .ok (.nothing, p)
  else match p.maneuver with
    | .particle life soil => .ok (Particle.fly p life soil s.terrain s.config)
    | _ =>
      match s.arsenal.get? p.weapon with
      | some weapon => p.flyAs weapon s
      | none => .ok (.nothing, p)

end Projectile

end Artillery
