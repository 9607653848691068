import Artillery.Motion

/-! # Rollers

A roller that lands on the terrain rolls down the surface until it is too slow, has rolled too long,
or touches a tank; then it goes off. -/

namespace Artillery.Roller

/-- The most steps a roller rolls. -/
def maxFrames : Nat := 120

/-- The part of the horizontal speed that a roller lands with. -/
def landingFactor : Float := 0.01

/-- The least speed of a roller that has just landed. -/
def minSpeed : Float := 1

/-- The farthest it rolls in one step. -/
def maxStep : Float := 2

/-- The part of its speed that friction leaves. -/
def friction : Float := 0.98

/-- The speed below which it goes off. -/
def stopSpeed : Float := 0.3

/-- The speed it gains with each row it rolls down. -/
def downhillGain : Float := 0.1

/-- How far to both sides it looks for the way down. -/
def probe : Int := 3

/-- The way down from a column; on a level it goes on as it came. -/
def wayDown (terrain : Raster) (x : Int) (vx : Float) : Float :=
  let left := terrain.heightAt (x - probe)
  let right := terrain.heightAt (x + probe)
  if left < right then 1 else if right < left then -1 else if 0 ≤ vx then 1 else -1

/-- What a roller does where it strikes: on its first contact with the terrain it begins to roll,
anything else sets it off. -/
def strike (p : Projectile) (hit : Hit) (weapon : Weapon) (terrain : Raster) :
    ImpactEffect × Projectile :=
  if hit = .terrain ∧ ¬p.isRolling then
    let x := p.pixel.x
    let speed := Quantity.atLeast minSpeed (p.velocity.x.abs * landingFactor)
    ({ keepAlive := true, skipDamage := true },
      { p with
        maneuver := .rolling (wayDown terrain x p.velocity.x) speed 0
        position := ⟨p.position.x, Quantity.ofInt (terrain.heightAt x - 1)⟩ })
  else (.blast weapon.param, p)

/-- Whether there is a tank at a pixel. -/
def touchesTank (terrain : Raster) (spot : Pixel) : Bool :=
  match terrain.contactAt spot.x spot.y with
  | .tank _ => true
  | _ => false

/-- Puts a roller down on the surface of the column it has reached, and settles its speed: what it
gains on its way down from `oldHeight`, less what friction takes. -/
def settle (p : Projectile) (terrain : Raster) (oldHeight : Int) (x vx : Float) (frames : Nat)
    (weapon : Weapon) : Except Fault (FlightEffect × Projectile) := do
  let column ← clampInt 0 ((terrain.width : Int) - 1) (Quantity.nearest x)
  let height := terrain.heightAt column
  let drop := height - oldHeight
  let gained := if 0 < drop then vx.abs + downhillGain * Quantity.ofInt drop else vx.abs
  let speed := gained * friction
  let p := { p with
    position := ⟨x, Quantity.ofInt (height - 1)⟩
    maneuver := .rolling (if vx < 0 then -1 else 1) speed frames }
  let ends := speed < stopSpeed ∨ touchesTank terrain p.pixel
  return (if ends then .detonate weapon.param else .nothing, p)

/-- Rolls one step on. -/
def roll (p : Projectile) (direction speed : Float) (frames : Nat) (weapon : Weapon)
    (terrain : Raster) (config : Config) : Except Fault (FlightEffect × Projectile) := do
  let width := Float.ofNat terrain.width
  -- The row it comes from is that of the column under it, wherever the walls put it afterwards.
  let oldHeight := terrain.heightAt p.pixel.x
  let x := p.position.x + direction * Quantity.atMost maxStep speed
  let vx := direction * speed
  if config.wall = .none ∧ (x < 0 ∨ width ≤ x) then return (.vanish, p)
  else
    let (outcome, x, vx) ← config.wall.apply width x vx
    match outcome with
    | .hit => return (.detonate weapon.param, { p with position := ⟨x, p.position.y⟩ })
    | .offscreen => return (.vanish, p)
    | .inside => settle p terrain oldHeight x vx (frames + 1) weapon
    | .beyond => settle p terrain oldHeight x vx (frames + 1) weapon

/-- What a roller does in flight: nothing before it has landed. -/
def fly (p : Projectile) (weapon : Weapon) (terrain : Raster) (config : Config) :
    Except Fault (FlightEffect × Projectile) :=
  match p.maneuver with
  | .rolling direction speed frames =>
    if maxFrames < frames + 1 then .ok (.detonate weapon.param, p)
    else roll p direction speed frames weapon terrain config
  | _ => .ok (.nothing, p)

end Artillery.Roller
