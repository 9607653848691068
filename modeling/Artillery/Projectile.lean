import Artillery.Actor
import Artillery.Weapon

/-! # Projectiles

A projectile in flight, and the order for a new one. -/

namespace Artillery

/-- What goes off when a projectile strikes. -/
inductive Warhead where
  /-- What its weapon's behavior says. -/
  | weapon
  /-- A blast of a fixed radius: a bomb released by another projectile. -/
  | sub (radius : Int)
  deriving DecidableEq, Repr

/-- What a projectile remembers for its behavior. -/
inductive Maneuver where
  | none
  /-- A roller on the ground: its direction along the x axis, its speed and the steps it has
  rolled.  A counter of 32 bits counts the same steps up to its last value. -/
  | rolling (direction speed : Float) (frames : Nat)
  /-- A projectile that will split: its last vertical velocity, and whether it has split. -/
  | splitTracked (previousVy : Option Float) (hasSplit : Bool)
  /-- The bounces made so far. -/
  | bouncing (bounces : Nat)
  /-- A burning or soil particle and the steps it has left. -/
  | particle (remainingLife : Nat) (soil : Bool)

namespace Maneuver

/-- The state a projectile starts in. -/
def initial : Behavior → Maneuver
  | .mirv => splitTracked Option.none false
  | .bounce => bouncing 0
  | _ => none

end Maneuver

/-- Guidance of a projectile: waiting for its moment, or locked to a fixed correction. -/
inductive Guidance where
  | armed (kind : GuidanceKind)
  | locked (kind : GuidanceKind) (correction : Vec2)
  deriving DecidableEq

namespace Guidance

/-- The item the guidance came from. -/
def kind : Guidance → GuidanceKind
  | armed k => k
  | locked k _ => k

end Guidance

/-- A projectile in flight. -/
structure Projectile where
  position : Vec2
  velocity : Vec2
  weapon : WeaponId
  owner : ActorId
  /-- The steps it has flown. -/
  age : Nat
  /-- The pixels of its latest steps, oldest first. -/
  trail : Array Pixel
  active : Bool
  warhead : Warhead
  maneuver : Maneuver
  guidance : Option Guidance

/-- All that is needed to make a projectile. -/
structure ProjectileSpec where
  position : Vec2
  velocity : Vec2
  weapon : WeaponId
  owner : ActorId
  warhead : Warhead
  maneuver : Maneuver

namespace ProjectileSpec

/-- A bomb released by a projectile: it keeps weapon and owner and goes off with its own radius. -/
def bomb (parent : Projectile) (position velocity : Vec2) (radius : Int) : ProjectileSpec where
  position := position
  velocity := velocity
  weapon := parent.weapon
  owner := parent.owner
  warhead := .sub radius
  maneuver := .none

/-- A particle thrown out where a projectile struck. -/
def particle (parent : Projectile) (velocity : Vec2) (life : Nat) (soil : Bool) :
    ProjectileSpec where
  position := parent.position
  velocity := velocity
  weapon := parent.weapon
  owner := parent.owner
  warhead := .weapon
  maneuver := .particle life soil

end ProjectileSpec

namespace Projectile

/-- The most pixels a trail holds. -/
def trailLimit : Nat := 200

/-- A new projectile. -/
def ofSpec (s : ProjectileSpec) : Projectile where
  position := s.position
  velocity := s.velocity
  weapon := s.weapon
  owner := s.owner
  age := 0
  trail := #[]
  active := true
  warhead := s.warhead
  maneuver := s.maneuver
  guidance := none

/-- The pixel under the projectile. -/
def pixel (p : Projectile) : Pixel := p.position.pixel

/-- Adds the present pixel to the trail; a full trail loses its oldest one. -/
def recordTrail (p : Projectile) : Projectile :=
  let kept := if p.trail.size = trailLimit then p.trail.extract 1 p.trail.size else p.trail
  { p with trail := kept.push p.pixel }

/-- Whether it is a burning or soil particle. -/
def isParticle (p : Projectile) : Bool :=
  match p.maneuver with
  | .particle .. => true
  | _ => false

/-- Whether it rolls on the ground. -/
def isRolling (p : Projectile) : Bool :=
  match p.maneuver with
  | .rolling .. => true
  | _ => false

/-- Whether it is a bomb released by another projectile. -/
def isBomb (p : Projectile) : Bool :=
  match p.warhead with
  | .sub _ => true
  | .weapon => false

end Projectile

end Artillery
