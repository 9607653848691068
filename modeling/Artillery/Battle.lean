import Artillery.Arena
import Artillery.Falling
import Artillery.Placement
import Artillery.Roster
import Artillery.Wind

/-! # The battle

An arena with the projectiles in flight over it.  Time passes in steps of flight and in frames; a
frame is a number of steps, one frame of the explosions, and one of falling when the air is clear.
The same seed and the same calls always give the same events. -/

namespace Artillery

/-- How much time has passed. -/
structure Clock where
  frame : Nat := 0
  step : Nat := 0
  /-- The flight time in seconds. -/
  elapsed : Float := 0

namespace Clock

/-- A step of flight later. -/
def tickStep (c : Clock) : Clock :=
  { c with step := c.step + 1, elapsed := c.elapsed + Motion.stepTime }

/-- A frame later. -/
def tickFrame (c : Clock) : Clock := { c with frame := c.frame + 1 }

end Clock

/-- An arena, the projectiles in flight, and the time. -/
structure Battle where
  arena : Arena
  roster : Roster := {}
  clock : Clock := {}

/-- Why a battle cannot begin. -/
inductive SetupError where
  | config (e : ConfigError)
  | fault (f : Fault)

namespace Battle

/-! ## Setting up -/

/-- A battle over a terrain, without actors. -/
def assemble (config : Config) (terrain : Raster) (keystream : Keystream) : Battle where
  arena := {
    terrain := terrain
    actors := []
    arsenal := .standard
    config := config
    keystream := keystream
    wind := config.wind
    explosions := {}
    events := #[]
    spawns := #[] }

/-- A battle over generated land. -/
def begin (config : Config) : Except SetupError Battle := do
  config.validate.mapError .config
  let land := config.land.generate config.screenWidth config.screenHeight config.landBumpiness
  let (terrain, keystream) := land.run (.ofSeed config.seed)
  let terrain ← terrain.mapError .fault
  return assemble config terrain keystream

/-- A battle over a given terrain. -/
def beginOver (config : Config) (terrain : Raster) : Except SetupError Battle := do
  config.validate.mapError .config
  (Config.checkScreen terrain.width terrain.height).mapError .config
  return assemble config terrain (.ofSeed config.seed)

/-- Changes the catalogue of weapons. -/
def setArsenal (b : Battle) (arsenal : Arsenal) : Battle :=
  { b with arena := { b.arena with arsenal := arsenal } }

/-- Changes the terrain. -/
def changeTerrain (b : Battle) (f : Raster → Raster) : Battle :=
  { b with arena := { b.arena with terrain := f b.arena.terrain } }

/-- Draws the living actors into the raster, at their present places. -/
def redraw (b : Battle) : Battle := b.changeTerrain (·.stampActors b.arena.actors)

/-- Changes the actors without drawing them. -/
def setActors (b : Battle) (actors : List Actor) : Battle :=
  { b with arena := { b.arena with actors := actors } }

/-- Places fresh actors instead of the present ones. -/
def placeActors (b : Battle) (count : Nat) : Except Fault Battle := do
  let (actors, terrain) ← Placement.place b.arena.terrain count
  return ((b.changeTerrain fun _ => terrain).setActors actors).redraw

/-- Adds an actor. -/
def addActor (b : Battle) (a : Actor) : Battle := (b.setActors (b.arena.actors ++ [a])).redraw

/-- The first actor with a number. -/
def actor? (b : Battle) (id : ActorId) : Option Actor := b.arena.actors.find? (·.id = id)

/-! ## Shots -/

/-- The speed of a shot at full power. -/
def maxSpeed : Float := 400

/-- The full power. -/
def maxPower : Float := 1000

theorem maxPower_nonneg : 0 ≤ maxPower := by decide +kernel

/-- The behavior of a weapon number if it can be fired: unknown weapons can, items for other uses
cannot. -/
def fireable? (arsenal : Arsenal) (weapon : WeaponId) : Option Behavior :=
  match arsenal.get? weapon with
  | some w => if w.isFireable then some w.behavior else none
  | none => some .none

/-- What leaves an actor's barrel. -/
def shot (a : Actor) (degrees power : Float) (weapon : WeaponId) (behavior : Behavior) :
    ProjectileSpec :=
  let speed := Quantity.restrict 0 maxPower power maxPower_nonneg / maxPower * maxSpeed
  let angle := Quantity.radians degrees
  { position := a.barrelTip degrees
    velocity := ⟨angle.cos * speed, angle.sin * speed⟩
    weapon := weapon
    owner := a.id
    warhead := .weapon
    maneuver := .initial behavior }

/-- Fires a weapon from the barrel of the first living actor with a number, which uses up one of its
guidance items.  Without such an actor, or with an item that cannot be fired, nothing happens. -/
def launch? (b : Battle) (owner : ActorId) (degrees power : Float) (weapon : WeaponId) :
    Option (Nat × Battle) := do
  let i ← b.arena.actors.findIdx? fun a => a.id = owner ∧ a.alive
  let shooter ← b.arena.actors[i]?
  let behavior ← fireable? b.arena.arsenal weapon
  -- Only a shot that is fired uses up an item.
  let (kind, inventory) := shooter.inventory.takeGuidance
  let p := { Projectile.ofSpec (shot shooter degrees power weapon behavior) with
    guidance := kind.map .armed }
  let (handle, roster) := b.roster.add p
  let arena := { b.arena with
    actors := b.arena.actors.set i { shooter with inventory := inventory } }
  return (handle, { b with
    arena := arena.tell [.launched owner weapon kind]
    roster := roster })

/-- Puts a projectile into flight. -/
def spawn (b : Battle) (s : ProjectileSpec) : Nat × Battle :=
  let (handle, roster) := b.roster.add (.ofSpec s)
  (handle, { b with roster := roster })

/-! ## Single projectiles -/

/-- Puts the projectiles into flight that have been asked for. -/
def flush (b : Battle) : Battle :=
  { b with
    roster := b.roster.addAll b.arena.spawns.toList
    arena := { b.arena with spawns := #[] } }

/-- Takes a projectile out, lets it act on the arena, and puts it back at the end of the row. -/
def withProjectile {α : Type} (b : Battle) (handle : Nat)
    (act : Projectile → Arena → Except Fault (α × Projectile × Arena)) :
    Except Fault (Option α × Battle) :=
  match b.roster.take? handle with
  | none => .ok (none, b)
  | some (p, roster) => do
    let (result, p, arena) ← act p b.arena
    return (some result, { b with arena := arena, roster := roster.put handle p }.flush)

/-- Flies one projectile for one step, whatever it strikes. -/
def advance (b : Battle) (handle : Nat) : Except Fault (Option FlightStatus × Battle) :=
  match b.roster.find? handle with
  | none => .ok (none, b)
  | some p => do
    let (status, p) ← p.advance b.arena.terrain b.arena.config b.arena.wind
    return (some status, { b with roster := b.roster.update handle p })

/-- What a projectile would do if it struck something. -/
def strike (b : Battle) (handle : Nat) (hit : Hit) :
    Except Fault (Option ImpactEffect × Battle) :=
  b.withProjectile handle fun p a =>
    let ((effect, p), a) := a.draw (p.strike hit a.surroundings)
    .ok (effect, p, a)

/-- Carries out an impact for a projectile. -/
def applyImpact (b : Battle) (handle : Nat) (effect : ImpactEffect) :
    Except Fault (Option Unit × Battle) :=
  b.withProjectile handle fun p a => .ok ((), a.applyImpact p effect)

/-- What a projectile does in flight. -/
def fly (b : Battle) (handle : Nat) : Except Fault (Option FlightEffect × Battle) :=
  b.withProjectile handle fun p a => do
    let (effect, p) ← p.fly a.surroundings
    return (effect, p, a)

/-- Carries out what a behavior asks for in flight. -/
def applyFlight (b : Battle) (handle : Nat) (effect : FlightEffect) :
    Except Fault (Option Unit × Battle) :=
  b.withProjectile handle fun p a => .ok ((), a.applyFlight p effect)

/-! ## Time -/

/-- Takes the projectiles with some handles through a step, one after another. -/
def stepEach : List Nat → Battle → Except Fault Battle
  | [], b => .ok b
  | handle :: rest, b =>
    match b.roster.take? handle with
    | none => stepEach rest b
    | some (p, roster) => do
      let (p, arena) ← b.arena.stepProjectile p
      stepEach rest { b with arena := arena, roster := roster.put handle p }

/-- One step of flight for all projectiles.  Those that are new wait for the next step, and those
that have ended are removed. -/
def step (b : Battle) : Except Fault Battle := do
  let b := b.redraw
  -- The row is fixed before anyone moves, although every step changes its order.
  let b := (← stepEach b.roster.handles b).flush
  return { b with roster := b.roster.sweep, clock := b.clock.tickStep }

/-- Steps of flight, at most `n` and only while something flies. -/
def stepWhileFlying : (n : Nat) → Battle → Except Fault Battle
  | 0, b => .ok b
  | n + 1, b => if b.roster.anyActive then do stepWhileFlying n (← b.step) else .ok b

/-- One frame of falling; answers whether anyone is still falling. -/
def stepFalling (b : Battle) : Except Fault (Bool × Battle) :=
  let actors := Falling.check b.arena.actors b.arena.terrain
  if Falling.anyFalling actors then do
    let (actors, terrain, events) ← Falling.step actors b.arena.terrain
    let arena := { b.arena with actors := actors, terrain := terrain }
    return (Falling.anyFalling actors, { b with arena := arena.tell events }.redraw)
  else .ok (false, b)

/-- One frame of the explosions. -/
def stepExplosions (b : Battle) : Battle :=
  { b with arena := { b.arena with explosions := b.arena.explosions.step } }

/-- Takes out the events that have been told. -/
def drain (b : Battle) : List Event × Battle :=
  (b.arena.events.toList, { b with arena := { b.arena with events := #[] } })

/-- One frame; answers with everything that has happened. -/
def tick (b : Battle) : Except Fault (List Event × Battle) := do
  let b ← stepWhileFlying b.arena.config.stepsPerFrame b
  let b := b.stepExplosions
  -- Falls wait until the air is clear.
  let b ← if b.arena.config.fallingActors ∧ ¬b.roster.anyActive then
      (·.2) <$> b.stepFalling
    else pure b
  return { b with clock := b.clock.tickFrame }.drain

/-- Whether nothing flies, nothing plays and nobody falls. -/
def isSettled (b : Battle) : Bool :=
  ¬b.roster.anyActive ∧ b.arena.explosions.isIdle ∧ ¬Falling.anyFalling b.arena.actors

/-- How a number of frames went. -/
structure Course where
  ticks : Nat := 0
  settled : Bool := false
  /-- The events of each frame, latest first. -/
  events : List (List Event) := []

/-- The events in the order in which they happened. -/
def Course.allEvents (c : Course) : List Event := c.events.reverse.flatten

/-- Frames until the battle has settled, at most `n`. -/
def runToRest : (n : Nat) → Course → Battle → Except Fault (Course × Battle)
  | 0, course, b => .ok (course, b)
  | n + 1, course, b => do
    let (events, b) ← b.tick
    let course := { course with ticks := course.ticks + 1, events := events :: course.events }
    if b.isSettled then return ({ course with settled := true }, b)
    else runToRest n course b

/-! ## Between shots -/

/-- Changes the wind. -/
def changeWind (b : Battle) : Except Fault Battle := do
  let (next, arena) := b.arena.draw (Wind.next b.arena.wind b.arena.config)
  let wind ← next
  return { b with arena := { arena with wind := wind }.tell [.windChanged wind] }

/-- Sets the wind. -/
def setWind (b : Battle) (wind : Float) : Battle :=
  { b with arena := { b.arena with wind := wind } }

/-- Hurts the actors around a center, without a crater. -/
def strikeActors (b : Battle) (center : Vec2) (radius : Int) (attacker : ActorId)
    (carried : Option Vec2) : DamageReport × Battle :=
  let (report, arena) := b.arena.strikeActors (b.arena.shock center radius attacker) carried
  (report, { b with arena := arena })

end Battle

end Artillery
