import Artillery.Projectile

/-! # What happens to the field

Outcomes of a flight, the effects that behaviors ask for, and the events that tell an observer what
has been done. -/

namespace Artillery

/-- Where one step of flight has left a projectile. -/
inductive FlightStatus where
  | flying
  | hitTerrain
  | hitTank (actor : ActorId)
  | hitWall
  | offscreen
  deriving DecidableEq, Repr

/-- What a projectile has struck. -/
inductive Hit where
  | terrain
  | tank (actor : ActorId)
  | wall
  deriving DecidableEq, Repr

/-- What was struck, if the flight has ended that way. -/
def FlightStatus.hit? : FlightStatus → Option Hit
  | hitTerrain => some .terrain
  | hitTank actor => some (.tank actor)
  | hitWall => some .wall
  | flying => none
  | offscreen => none

/-- A change of the terrain other than a crater. -/
inductive Earthwork where
  | none
  | dirtAdd (radius : Int)
  | dirtTower (height : Int)
  | tunnel (depth : Int) (down : Bool)
  | disrupt (radius : Int)
  deriving DecidableEq, Repr, Inhabited

/-- A radius enlarged by a factor, rounded down. -/
def scaleRadius (radius : Int) (scale : Float) : Int :=
  Quantity.floor (Quantity.ofInt radius * scale)

namespace Earthwork

/-- The change for a scale of explosions; the height of a tower is fixed. -/
def scaled (scale : Float) : Earthwork → Earthwork
  | none => none
  | dirtAdd radius => dirtAdd (scaleRadius radius scale)
  | dirtTower height => dirtTower height
  | tunnel depth down => tunnel (scaleRadius depth scale) down
  | disrupt radius => disrupt (scaleRadius radius scale)

end Earthwork

/-- What an impact asks for. -/
structure ImpactEffect where
  explode : Bool := false
  radius : Int := 0
  spawn : List ProjectileSpec := []
  earthwork : Earthwork := .none
  skipDamage : Bool := false
  /-- The projectile goes on after the impact. -/
  keepAlive : Bool := false
  /-- The columns of the crater are compacted. -/
  earthMoving : Bool := false

namespace ImpactEffect

/-- A blast with damage and a crater. -/
def blast (radius : Int) : ImpactEffect := { explode := true, radius := radius }

/-- Nothing but the end of the projectile. -/
def inert : ImpactEffect := { skipDamage := true }

/-- A change of the terrain without a blast. -/
def dig (work : Earthwork) : ImpactEffect := { earthwork := work, skipDamage := true }

/-- The effect for a scale of explosions. -/
def scaled (scale : Float) (e : ImpactEffect) : ImpactEffect :=
  { e with
    radius := if 0 < e.radius then scaleRadius e.radius scale else e.radius
    earthwork := e.earthwork.scaled scale }

end ImpactEffect

/-- What a behavior asks for in flight. -/
structure FlightEffect where
  split : Bool := false
  spawn : List ProjectileSpec := []
  /-- The projectile ends before it moves on. -/
  remove : Bool := false
  /-- A blast of this radius where the projectile is. -/
  explodeHere : Option Int := none
  earthwork : Earthwork := .none

namespace FlightEffect

/-- Fly on. -/
def nothing : FlightEffect := {}

/-- End without a blast. -/
def vanish : FlightEffect := { remove := true }

/-- Go off here and now. -/
def detonate (radius : Int) : FlightEffect :=
  { split := true, remove := true, explodeHere := some radius }

/-- The effect for a scale of explosions. -/
def scaled (scale : Float) (e : FlightEffect) : FlightEffect :=
  { e with
    explodeHere := e.explodeHere.map (scaleRadius · scale)
    earthwork := e.earthwork.scaled scale }

end FlightEffect

/-- Everything an observer can see, in the order in which it happened. -/
inductive Event where
  /-- A shot has left a barrel. -/
  | launched (owner : ActorId) (weapon : WeaponId) (guidance : Option GuidanceKind)
  /-- A projectile has struck. -/
  | impact (x y : Int) (hit : Hit)
  /-- A crater has been blown and its animation queued. -/
  | explosion (x y radius : Int) (attacker : ActorId)
  /-- The terrain has changed in another way. -/
  | terrainChanged (x y : Int) (work : Earthwork)
  /-- A behavior has made new projectiles. -/
  | spawned (weapon : WeaponId) (count : Nat)
  /-- Guidance has found its target. -/
  | guidanceLocked (owner : ActorId) (kind : GuidanceKind)
  /-- A shield has thrown a projectile back. -/
  | shieldDeflected (actor : ActorId)
  /-- A shield has run out of energy. -/
  | shieldDepleted (actor : ActorId)
  /-- A hit: the energy it cost and what the shield took. -/
  | actorDamaged (actor : ActorId) (damage absorbed : Int)
  /-- An actor's energy is used up. -/
  | actorKilled (actor attacker : ActorId)
  /-- An actor has come to rest after a fall. -/
  | actorLanded (actor : ActorId) (distance damage : Int) (parachute : Bool)
  | windChanged (wind : Float)
  deriving DecidableEq

end Artillery
