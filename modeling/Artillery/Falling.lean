import Artillery.Event
import Artillery.Raster.Earthwork

/-! # Falling actors

An actor whose ground has dropped away by more than a row falls, two rows in each frame, until it
reaches the ground.  Landing levels the ground under it, and after a long fall it costs a parachute
or energy.

Rows and energies are integers without bounds here.  Those of 32 bits agree with them for actors in
range (`Actor.InRange`): the two rows below them fit, and so do the rows they fall and the energy
they are left with. -/

namespace Artillery

namespace Fall

/-- The rows fallen in one frame. -/
def speed : Int := 2

/-- The longest fall that costs nothing. -/
def safeDistance : Int := 10

/-- The energy that a fall costs an actor without a parachute. -/
def damage (distance : Int) : Int := Quantity.quotient distance 5 (by decide)

end Fall

namespace Actor

/-- Begins to fall if alive, at rest, and more than a row above the ground. -/
def loseGround (a : Actor) (terrain : Raster) : Actor :=
  if a.alive ∧ a.falling.isNone ∧ a.y + 1 < terrain.heightAt a.x then
    { a with falling := some ⟨a.y⟩ }
  else a

/-- What a fall over some distance costs: the energy, and whether a parachute was used. -/
def fallCost (a : Actor) (distance : Int) : Int × Bool :=
  if Fall.safeDistance < distance then
    if 0 < a.inventory.parachutes then (0, true) else (Fall.damage distance, false)
  else (0, false)

/-- Takes away a parachute. -/
def useParachute (a : Actor) : Actor :=
  { a with inventory := { a.inventory with parachutes := a.inventory.parachutes - 1 } }

/-- Takes the energy that a fall costs, with the events that tell of it.  The dead lose nothing. -/
def payFall (a : Actor) (damage : Int) : Actor × List Event :=
  if 0 < damage ∧ a.alive then
    let left := a.energy - damage
    if left ≤ 0 then
      ({ a with energy := 0, alive := false },
        [.actorDamaged a.id damage 0, .actorKilled a.id a.id])
    else ({ a with energy := left }, [.actorDamaged a.id damage 0])
  else (a, [])

/-- Lands on the ground row of its column after a fall. -/
def land (a : Actor) (fall : Fall) (terrain : Raster) :
    Except Fault (Actor × Raster × List Event) := do
  let ground := terrain.heightAt a.x
  let distance := ground - fall.startY
  let (damage, parachute) := a.fallCost distance
  let a := { a with y := ground, falling := none }
  let a := if parachute then a.useParachute else a
  let (a, events) := a.payFall damage
  -- Levelling can move the ground once more, and the tank with it.
  let terrain ← terrain.level a.x halfWidth
  let a := { a with y := terrain.heightAt a.x }
  return (a, terrain, events ++ [.actorLanded a.id distance damage parachute])

/-- Falls for one frame. -/
def fallOn (a : Actor) (terrain : Raster) : Except Fault (Actor × Raster × List Event) :=
  match a.falling with
  | none => .ok (a, terrain, [])
  | some fall =>
    if a.y + Fall.speed < terrain.heightAt a.x then
      .ok ({ a with y := a.y + Fall.speed }, terrain, [])
    else a.land fall terrain

end Actor

namespace Falling

/-- Whether anyone falls. -/
def anyFalling (actors : List Actor) : Bool := actors.any (·.falling.isSome)

/-- Begins the falls of all actors that have lost their ground. -/
def check (actors : List Actor) (terrain : Raster) : List Actor :=
  actors.map (·.loseGround terrain)

/-- Lets all actors fall for one frame, one after another. -/
def step : List Actor → Raster → Except Fault (List Actor × Raster × List Event)
  | [], terrain => .ok ([], terrain, [])
  | a :: rest, terrain => do
    let (a, terrain, events) ← a.fallOn terrain
    let (rest, terrain, later) ← step rest terrain
    return (a :: rest, terrain, events ++ later)

end Falling

end Artillery
