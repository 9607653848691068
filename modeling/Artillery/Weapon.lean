/-! # Weapons

What can be bought and fired, and the catalogue it is looked up in. -/

namespace Artillery

/-- The number of a weapon in its catalogue. -/
abbrev WeaponId := Nat

/-- What a weapon's projectile does in flight and on impact. -/
inductive Behavior where
  /-- A plain blast. -/
  | standard
  /-- Flies and vanishes. -/
  | tracer
  /-- Rolls down the surface before it goes off. -/
  | roller
  /-- Bounces off the terrain a number of times. -/
  | bounce
  /-- Splits at the top of its flight. -/
  | mirv
  /-- Throws burning particles, or soil if its parameter is negative. -/
  | napalm
  /-- Throws soil. -/
  | liquidDirt
  /-- Fills a disc with dirt. -/
  | dirtAdd
  /-- Raises a narrow tower of dirt. -/
  | dirtTower
  /-- Digs a strip, downward if its parameter is negative. -/
  | tunnel
  /-- A blast that grows with the speed of the impact. -/
  | plasma
  /-- A blast that shakes loose the earth around its crater. -/
  | riot
  /-- Lets floating terrain fall. -/
  | disrupter
  /-- A small blast and a fill of dirt. -/
  | dirtCharge
  /-- Rains small bombs from the top of the field. -/
  | scatter
  /-- Nothing of its own: shields, guidance and other items. -/
  | none
  deriving DecidableEq, Repr

/-- The shelf of the shop a weapon is found on. -/
inductive Category where
  | weapon
  | guidance
  | defense
  | accessory
  deriving DecidableEq, Repr

/-- A weapon as all its projectiles share it. -/
structure Weapon where
  name : String
  behavior : Behavior
  /-- A radius, a bounce count, a particle count or a depth; its sign can give a direction. -/
  param : Int
  category : Category
  deriving DecidableEq, Repr

namespace Weapon

/-- The radius of a blast where nothing better is known. -/
def defaultRadius : Int := 10

/-- The radius of a blast for a behavior without a rule of its own. -/
def fallbackRadius (w : Weapon) : Int :=
  if w.param = 0 then defaultRadius else w.param.natAbs

/-- Whether the weapon can be launched. -/
def isFireable (w : Weapon) : Bool := w.category = .weapon

end Weapon

/-- A catalogue: weapons in the order of their numbers. -/
structure Arsenal where
  weapons : List Weapon
  deriving DecidableEq, Repr

namespace Arsenal

/-- The weapon with a number. -/
def get? (a : Arsenal) (id : WeaponId) : Option Weapon := a.weapons[id]?

/-- How many weapons the catalogue holds. -/
def size (a : Arsenal) : Nat := a.weapons.length

/-- The number of the first weapon with a name; capital and small letters of the Latin alphabet
count as the same. -/
def find? (a : Arsenal) (name : String) : Option WeaponId :=
  let fold (s : String) := s.toList.map Char.toLower
  a.weapons.findIdx? (fun w => fold w.name == fold name)

/-- The classic catalogue. -/
def standard : Arsenal where
  weapons := [
    ⟨"Baby Missile", .standard, 10, .weapon⟩,
    ⟨"Missile", .standard, 20, .weapon⟩,
    ⟨"Baby Nuke", .standard, 40, .weapon⟩,
    ⟨"Nuke", .standard, 75, .weapon⟩,
    ⟨"LeapFrog", .bounce, 3, .weapon⟩,
    ⟨"Funky Bomb", .scatter, 80, .weapon⟩,
    ⟨"Popcorn Bomb", .scatter, 0, .weapon⟩,
    ⟨"MIRV", .mirv, 0, .weapon⟩,
    ⟨"Death's Head", .mirv, 1, .weapon⟩,
    ⟨"Napalm", .napalm, 15, .weapon⟩,
    ⟨"Hot Napalm", .napalm, 20, .weapon⟩,
    ⟨"Tracer", .tracer, 0, .weapon⟩,
    ⟨"Smoke Tracer", .tracer, 1, .weapon⟩,
    ⟨"Baby Roller", .roller, 10, .weapon⟩,
    ⟨"Roller", .roller, 20, .weapon⟩,
    ⟨"Heavy Roller", .roller, 45, .weapon⟩,
    ⟨"Plasma Blast", .plasma, 0, .weapon⟩,
    ⟨"Riot Charge", .plasma, 1, .weapon⟩,
    ⟨"Riot Blast", .riot, 30, .weapon⟩,
    ⟨"Riot Bomb", .riot, 45, .weapon⟩,
    ⟨"Heavy Riot Bomb", .tunnel, -10, .weapon⟩,
    ⟨"Baby Digger", .tunnel, -20, .weapon⟩,
    ⟨"Digger", .tunnel, -35, .weapon⟩,
    ⟨"Heavy Digger", .tunnel, 10, .weapon⟩,
    ⟨"Baby Sandhog", .tunnel, 20, .weapon⟩,
    ⟨"Sandhog", .tunnel, 35, .weapon⟩,
    ⟨"Heavy Sandhog", .dirtAdd, 20, .weapon⟩,
    ⟨"Dirt Clod", .dirtAdd, 35, .weapon⟩,
    ⟨"Dirt Ball", .dirtAdd, 70, .weapon⟩,
    ⟨"Ton of Dirt", .napalm, -20, .weapon⟩,
    ⟨"Liquid Dirt", .liquidDirt, 0, .weapon⟩,
    ⟨"Dirt Charge", .dirtCharge, 0, .weapon⟩,
    ⟨"Dirt Tower", .dirtTower, 0, .weapon⟩,
    ⟨"Earth Disrupter", .disrupter, 0, .weapon⟩,
    ⟨"Heat Guidance", .none, 0, .guidance⟩,
    ⟨"Horz Guidance", .none, 0, .guidance⟩,
    ⟨"Vert Guidance", .none, 0, .guidance⟩,
    ⟨"Parachute", .none, 0, .accessory⟩,
    ⟨"Shield", .none, 0, .defense⟩,
    ⟨"Warp Shield", .none, 0, .defense⟩,
    ⟨"Teleport Shield", .none, 0, .defense⟩,
    ⟨"Flicker Shield", .none, 0, .defense⟩,
    ⟨"Force Shield", .none, 0, .defense⟩,
    ⟨"Heavy Shield", .none, 0, .defense⟩]

end Arsenal

end Artillery
