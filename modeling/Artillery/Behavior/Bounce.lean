import Artillery.Event

/-! # Leapfrogs

A leapfrog bounces off the terrain with a small blast at each bounce and goes off with a large one
at the last. -/

namespace Artillery.Bounce

/-- The radius of the blast at a bounce. -/
def blastRadius : Int := 5

/-- The radius of the last blast. -/
def finalRadius : Int := 20

/-- The part of the vertical speed that a bounce leaves. -/
def reflection : Float := 0.7

/-- The part of the horizontal speed that a bounce leaves. -/
def damping : Float := 0.9

/-- The rows that a bounce lifts the projectile. -/
def lift : Float := 3

/-- The bounces of a projectile, this one included. -/
def count (p : Projectile) : Nat :=
  match p.maneuver with
  | .bouncing n => n + 1
  | _ => 1

/-- What a leapfrog does where it strikes; the last bounce is the one that its weapon counts. -/
def strike (p : Projectile) (hit : Hit) (weapon : Weapon) : ImpactEffect × Projectile :=
  if hit = .terrain then
    let bounces := count p
    let p := { p with maneuver := .bouncing bounces }
    -- The count is compared as a number of 32 bits with a sign.
    if weapon.param ≤ (bounces : Int).bmod 0x100000000 then (.blast finalRadius, p)
    else
      ({ ImpactEffect.blast blastRadius with keepAlive := true },
        { p with
          velocity := ⟨p.velocity.x * damping, p.velocity.y.abs * reflection⟩
          position := ⟨p.position.x, p.position.y - lift⟩ })
  else (.blast finalRadius, p)

end Artillery.Bounce
